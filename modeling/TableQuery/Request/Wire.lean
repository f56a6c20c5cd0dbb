import TableQuery.Request.Basic

/-!
# The written form of requests

A request travels as a map with the entries `first`, `rows`, `sortFields`, `filters` and
`globalFieldName`. Entries with other names are passed over. Criteria are read before sort keys, and
both before the counts are checked.
-/
namespace TableQuery
namespace Request

def wireSortFields (v : Value) : Except Fault (List Value) :=
  if v.truthy then
    match v with
    | .list items => .ok items
    | _ => Malformed.raise .sortFieldsNotList
  else .ok []

def wireFilters (v : Value) : Except Fault (List (Value × Value)) :=
  if v.truthy then
    match v with
    | .map es => .ok es
    | _ => Malformed.raise .filtersNotMap
  else .ok []

def wireCriteria (entry : Value × Value) : Except Fault (Value × List Criterion) :=
  match entry.2 with
  | .map es => do
    let c ← Criterion.ofEntries es
    .ok (entry.1, [c])
  | .list items => do
    let cs ← items.mapM Criterion.ofWire
    .ok (entry.1, cs)
  | _ => Malformed.raise (.entriesNotList entry.1)

def ofWireEntries (es : List (Value × Value)) : Except Fault Request := do
  let sortFields ← wireSortFields (Value.entry "sortFields" es)
  let filters ← wireFilters (Value.entry "filters" es)
  let criteria ← filters.mapM wireCriteria
  let sortKeys ← sortFields.mapM SortKey.ofWire
  assemble (Value.entry "first" es) (Value.entry "rows" es) sortKeys criteria
    (Value.entry "globalFieldName" es)

def ofWire : Value → Except Fault Request
  | .map es => ofWireEntries es
  | v => Malformed.raise (.payloadNotMap v.kindName)

def criteriaToWire (e : String × List Criterion) : Value × Value :=
  (.text e.1, .list (e.2.map Criterion.toWire))

def toWire (r : Request) : Value :=
  .map [(.text "first", .int r.offset), (.text "rows", .int r.pageSize),
    (.text "sortFields", .list (r.sortKeys.map SortKey.toWire)),
    (.text "filters", .map (r.criteria.map criteriaToWire)),
    (.text "globalFieldName", r.globalField)]

end Request
end TableQuery
