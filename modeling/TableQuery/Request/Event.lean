import TableQuery.Request.Basic

/-!
# Lazy-load events

The event a table sends when it needs rows. It names its rows by `first` with `rows` or with `last`,
its order by `multiSortMeta` or by `sortField` with `sortOrder`, and its criteria by `filters`,
where the global search has the name `global`. Criteria whose value is not in use are dropped.
-/
namespace TableQuery
namespace Request

def eventGlobalField : String := "global"

/-- How many rows an event asks for: `rows`, else as many as lie between `first` and `last`. -/
def eventPageSize (first rows last : Value) : Except Fault Value :=
  if rows.truthy then .ok rows
  else if last.truthy then
    if first.truthy then last.minus first else .ok last
  else .ok (.int 0)

def eventSortKey (v : Value) : Except Fault SortKey := do
  let field ← v.field "field"
  let order ← v.field "order"
  SortKey.ofParts field order

def eventSortField : Value → Except Fault Value
  | .text name => .ok (.text name)
  | v => v.place 0

def eventSortKeys (several field order : Value) : Except Fault (List SortKey) :=
  if several.truthy then do
    let entries ← several.items
    entries.mapM eventSortKey
  else if field.truthy && order.truthy then do
    let name ← eventSortField field
    let key ← SortKey.ofParts name order
    .ok [key]
  else .ok []

def eventCriterion (v : Value) : Except Fault (List Criterion) := do
  let value ← v.field "value"
  let used ← value.inUse
  if used then
    let mode ← v.field "matchMode"
    let connective ← v.field "operator"
    let c ← Criterion.ofParts value mode connective
    .ok [c]
  else .ok []

def eventCriteria (entry : Value × Value) : Except Fault (Value × List Criterion) :=
  if entry.2.truthy then do
    let items := match entry.2 with
      | .list items => items
      | v => [v]
    let found ← items.mapM eventCriterion
    .ok (entry.1, found.flatten)
  else .ok (entry.1, [])

/-- The criteria of an event. Fields left without any are dropped, whatever their key. -/
def eventFilters (filters : Value) : Except Fault (List (Value × List Criterion)) :=
  if filters.truthy then do
    let entries ← filters.entries
    let criteria ← entries.mapM eventCriteria
    .ok (criteria.filter fun e => !e.2.isEmpty)
  else .ok []

def ofEventEntries (es : List (Value × Value)) : Except Fault Request := do
  let first := Value.entry "first" es
  let pageSize ← eventPageSize first (Value.entry "rows" es) (Value.entry "last" es)
  let sortKeys ← eventSortKeys (Value.entry "multiSortMeta" es) (Value.entry "sortField" es)
    (Value.entry "sortOrder" es)
  let filters := Value.entry "filters" es
  let criteria ← eventFilters filters
  let globalField : Value := if filters.truthy then .text eventGlobalField else .null
  assemble first pageSize sortKeys criteria globalField

def ofEvent (event : Value) : Except Fault Request := do
  let es ← event.entries
  ofEventEntries es

end Request
end TableQuery
