import TableQuery.Predicate.OfRequest

/-!
# Compilers

A compiler remembers the fields that global searches look at and nothing else. They are replaced as
a whole, and a change that fails leaves them as they were. A call may name fields of its own, which
are read only when there is something to compile.
-/
namespace TableQuery

/-- The fields that global searches look at unless a call names others. -/
structure Compiler where
  searched : SearchSet

namespace Compiler

def searchedBy (c : Compiler) (given : Value) : Except Fault SearchSet :=
  match given with
  | .null => .ok c.searched
  | v => SearchSet.ofValue v

def compile (c : Compiler) (r : Resolver) (request : Request) (given : Value) :
    Compiler × Predicate.Compiled :=
  (c, Predicate.ofRequestWith r (c.searchedBy given) request)

def become (c : Compiler) (next : Except Fault SearchSet) : Compiler × Except Fault Unit :=
  match next with
  | .ok s => (⟨s⟩, .ok ())
  | .error f => (c, .error f)

def configure (c : Compiler) (fields : Value) : Compiler × Except Fault Unit :=
  c.become (SearchSet.ofValue fields)

def add (c : Compiler) (field : Value) : Compiler × Except Fault Unit :=
  c.become (c.searched.add field)

def clear (c : Compiler) : Compiler × Except Fault Unit := c.become (.ok SearchSet.empty)

end Compiler
end TableQuery
