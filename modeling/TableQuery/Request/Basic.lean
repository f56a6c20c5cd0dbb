import TableQuery.Fault.Message
import TableQuery.Value.Access

/-!
# Load requests

What a table asks for: which rows, in which order, and the criteria its fields have to meet. A
request is built only from parts that pass every check, and the first check that fails, in the order
the parts are written here, decides the fault. A field whose list of criteria is empty is dropped.
-/
namespace TableQuery

/-- A sort key; a direction that is absent or positive sorts upwards. -/
structure SortKey where
  field : String
  direction : Option Int
  deriving DecidableEq

/-- A comparison asked of one field; the connective says how the criteria of the field combine. -/
structure Criterion where
  value : Value
  mode : Option MatchMode
  connective : Option Connective

/-- A load request. A page size of zero asks for all rows. -/
structure Request where
  offset : Nat
  pageSize : Nat
  sortKeys : List SortKey
  criteria : List (String × List Criterion)
  globalField : Value

structure RequestParts where
  offset : Value
  pageSize : Value
  sortKeys : Value
  criteria : Value
  globalField : Value

def MatchMode.ofValue : Value → Except Fault (Option MatchMode)
  | .null => .ok none
  | .mode m => .ok (some m)
  | .text name =>
    match MatchMode.ofName? name with
    | some m => .ok (some m)
    | none => Malformed.raise (.unknownMode (plainName name))
  | v => Malformed.raise (.modeNotText v)

def MatchMode.isName : Value → Bool
  | .text name => (MatchMode.ofName? name).isSome
  | _ => false

def Connective.ofValue : Value → Except Fault (Option Connective)
  | .null => .ok none
  | .connective c => .ok (some c)
  | .text name =>
    match Connective.ofName? name with
    | some c => .ok (some c)
    | none => Malformed.raise (.unknownConnective name)
  | v => Malformed.raise (.connectiveNotText v)

namespace SortKey

def defaultDirection : Value := .int 1

def ofParts (field direction : Value) : Except Fault SortKey :=
  match field with
  | .text name =>
    if name = "" then Malformed.raise (.sortFieldNotName field)
    else match direction with
      | .null => .ok ⟨name, none⟩
      | .int n => .ok ⟨name, some n⟩
      | v => Malformed.raise (.directionNotWhole v)
  | v => Malformed.raise (.sortFieldNotName v)

def ofWire : Value → Except Fault SortKey
  | .map es => ofParts (Value.entry "field" es) (Value.entry "order" es)
  | v => Malformed.raise (.sortEntryNotMap v.kindName)

def ascending (k : SortKey) : Bool :=
  match k.direction with
  | none => true
  | some n => 0 < n

def directionValue (k : SortKey) : Value :=
  match k.direction with
  | none => .null
  | some n => .int n

def toWire (k : SortKey) : Value :=
  .map [(.text "field", .text k.field), (.text "order", k.directionValue)]

def toValue (k : SortKey) : Value := .sortKey k.field k.direction

def ofValue : Value → Except Fault SortKey
  | .sortKey field direction => .ok ⟨field, direction⟩
  | v => Malformed.raise (.sortKeyExpected v.kindName)

end SortKey

namespace Criterion

def settled : Value → Value
  | .list items => .tuple items
  | v => v

def ofParts (value mode connective : Value) : Except Fault Criterion := do
  let m ← MatchMode.ofValue mode
  let c ← Connective.ofValue connective
  .ok ⟨settled value, m, c⟩

def ofEntries (es : List (Value × Value)) : Except Fault Criterion :=
  ofParts (Value.entry "value" es) (Value.entry "matchMode" es) (Value.entry "operator" es)

def ofWire : Value → Except Fault Criterion
  | .map es => ofEntries es
  | v => Malformed.raise (.criterionNotMap v.kindName)

def wireValue (c : Criterion) : Value :=
  match c.value with
  | .tuple items => .list items
  | v => v

def modeValue (c : Criterion) : Value :=
  match c.mode with
  | none => .null
  | some m => .text m.name

def connectiveValue (c : Criterion) : Value :=
  match c.connective with
  | none => .null
  | some c => .text c.name

def toWire (c : Criterion) : Value :=
  .map [(.text "value", c.wireValue), (.text "matchMode", c.modeValue),
    (.text "operator", c.connectiveValue)]

def toValue (c : Criterion) : Value := .criterion c.value c.mode c.connective

def ofValue (field : String) : Value → Except Fault Criterion
  | .criterion value mode connective => .ok ⟨value, mode, connective⟩
  | v => Malformed.raise (.criterionExpected field v.kindName)

end Criterion

namespace Request

/-- A count that may be left out; truth values are not counts. -/
def count (part : String) : Value → Except Fault Nat
  | .null => .ok 0
  | .int (.ofNat n) => .ok n
  | .int n => Malformed.raise (.negative part n)
  | v => Malformed.raise (.notWhole part v)

def fieldName : Value → Except Fault String
  | .text name => .ok name
  | v => Malformed.raise (.fieldNotText v)

def fieldCriteria (entry : Value × Value) : Except Fault (String × List Criterion) := do
  let name ← fieldName entry.1
  let items ← entry.2.itemsIfGiven
  let criteria ← items.mapM (Criterion.ofValue name)
  .ok (name, criteria)

def criteriaEntries : Value → Except Fault (List (Value × Value))
  | .null => .ok []
  | .map es => .ok es
  | _ => Malformed.raise .criteriaNotMap

def withoutEmpty (criteria : List (String × List Criterion)) : List (String × List Criterion) :=
  criteria.filter fun e => !e.2.isEmpty

def ofParts (p : RequestParts) : Except Fault Request := do
  let offset ← count "offset" p.offset
  let pageSize ← count "page_size" p.pageSize
  let keys ← p.sortKeys.itemsIfGiven
  let sortKeys ← keys.mapM SortKey.ofValue
  let entries ← criteriaEntries p.criteria
  let criteria ← entries.mapM fieldCriteria
  .ok ⟨offset, pageSize, sortKeys, withoutEmpty criteria, p.globalField⟩

def assemble (offset pageSize : Value) (sortKeys : List SortKey)
    (criteria : List (Value × List Criterion)) (globalField : Value) : Except Fault Request := do
  let offset ← count "offset" offset
  let pageSize ← count "page_size" pageSize
  let named ← criteria.mapM fun e => do
    let name ← fieldName e.1
    .ok (name, e.2)
  .ok ⟨offset, pageSize, sortKeys, withoutEmpty named, globalField⟩

end Request
end TableQuery
