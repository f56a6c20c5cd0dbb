import TableQuery.Value.Access

/-!
# Searched attributes

The fields that a global search looks at: each once, in the order they were first named. A change
that fails changes nothing.
-/
namespace TableQuery

structure SearchSet where
  fields : List Value

namespace SearchSet

def empty : SearchSet := ⟨[]⟩

def ofList (fields : List Value) : Except Fault SearchSet :=
  if fields.all Value.isKey then .ok ⟨distinct fields⟩ else .error .wrongKind

def ofValue (v : Value) : Except Fault SearchSet := do
  let fields ← v.items
  ofList fields

def add (s : SearchSet) (field : Value) : Except Fault SearchSet := ofList (s.fields ++ [field])

end SearchSet
end TableQuery
