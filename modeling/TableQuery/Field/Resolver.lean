import TableQuery.Fault.Message
import TableQuery.Value.Access

/-!
# Resolving fields

What kind of value a field holds, asked of a table of fields or of several sources in turn. A table
can be asked only about values that can be keys; the absence of a resolver cannot be asked at all.
-/
namespace TableQuery

inductive Resolver where
  | absent
  | table (entries : Table Category)
  | firstOf (sources : List Resolver)

namespace Resolver

mutual

def resolve (field : Value) : Resolver → Except Fault (Option Category)
  | absent => .error .partMissing
  | table t => if field.isKey then .ok (t.get? field) else .error .wrongKind
  | firstOf sources => resolveFirst field sources

def resolveFirst (field : Value) : List Resolver → Except Fault (Option Category)
  | [] => .ok none
  | r :: rest =>
    match resolve field r with
    | .ok none => resolveFirst field rest
    | answer => answer

end

def require (r : Resolver) (field : Value) : Except Fault Category :=
  match r.resolve field with
  | .ok (some c) => .ok c
  | .ok none => (Fault.unresolved field).raise
  | .error f => .error f

def contains (r : Resolver) (field : Value) : Except Fault Bool :=
  match r with
  | table t => if field.isKey then .ok (t.get? field).isSome else .error .wrongKind
  | _ => .error .wrongKind

def isAbsent : Resolver → Bool
  | absent => true
  | _ => false

end Resolver
end TableQuery
