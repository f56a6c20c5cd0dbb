import TableQuery.Request.Basic

/-!
# Building requests

A builder gathers the parts of a request one call at a time. A call that fails leaves the builder as
it was. Criteria for one field are gathered in one list, and fields keep the order of their first
use. Everything else is checked when the request is built.
-/
namespace TableQuery

structure Builder where
  offset : Value
  pageSize : Value
  sortKeys : List SortKey
  criteria : Table (List Value)
  globalField : Value

inductive Builder.Call where
  | first (offset : Value)
  | rows (pageSize : Value)
  | addSortField (field direction : Value)
  | addFilter (field criterion : Value)
  | globalFieldName (name : Value)

namespace Builder

def empty : Builder := ⟨.int 0, .int 0, [], [], .null⟩

def first (b : Builder) (offset : Value) : Builder := { b with offset := offset }

def rows (b : Builder) (pageSize : Value) : Builder := { b with pageSize := pageSize }

def addSortField (b : Builder) (field direction : Value) : Except Fault Builder := do
  let key ← SortKey.ofParts field direction
  .ok { b with sortKeys := b.sortKeys ++ [key] }

def addFilter (b : Builder) (field criterion : Value) : Except Fault Builder :=
  if field.isKey then
    .ok { b with criteria := b.criteria.update field [] (· ++ [criterion]) }
  else .error .wrongKind

def globalFieldName (b : Builder) (name : Value) : Builder := { b with globalField := name }

def call (b : Builder) : Call → Except Fault Builder
  | .first offset => .ok (b.first offset)
  | .rows pageSize => .ok (b.rows pageSize)
  | .addSortField field direction => b.addSortField field direction
  | .addFilter field criterion => b.addFilter field criterion
  | .globalFieldName name => .ok (b.globalFieldName name)

def after (b : Builder) (c : Call) : Builder :=
  match b.call c with
  | .ok next => next
  | .error _ => b

def run (calls : List Call) : Builder := calls.foldl after empty

def parts (b : Builder) : RequestParts :=
  { offset := b.offset
    pageSize := b.pageSize
    sortKeys := .tuple (b.sortKeys.map SortKey.toValue)
    criteria := .map (b.criteria.map fun e => (e.1, .list e.2))
    globalField := b.globalField }

def build (b : Builder) : Except Fault Request := Request.ofParts b.parts

end Builder
end TableQuery
