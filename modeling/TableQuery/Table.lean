import TableQuery.Value.Equality
import TableQuery.Value.Fingerprint

/-!
# Tables

An association of keys with entries, in the order the keys were first written. Writing a key again
keeps its place and its first spelling and replaces the entry, so no two keys are ever equal.
-/
namespace TableQuery

abbrev Table (α : Type) := List (Value × α)

namespace Table

variable {α : Type}

def get? (key : Value) : Table α → Option α
  | [] => none
  | (k, a) :: rest => if k.same key then some a else get? key rest

def insert (key : Value) (a : α) : Table α → Table α
  | [] => [(key, a)]
  | (k, b) :: rest => if k.same key then (k, a) :: rest else (k, b) :: insert key a rest

def ofEntries (entries : List (Value × α)) : Table α :=
  entries.foldl (fun t e => t.insert e.1 e.2) []

/-- Changes the entry under a key, starting from a given one if there is none. -/
def update (key : Value) (start : α) (f : α → α) : Table α → Table α
  | [] => [(key, f start)]
  | (k, b) :: rest => if k.same key then (k, f b) :: rest else (k, b) :: update key start f rest

end Table

/-- Items without their later repetitions; the first of equal items stays in its place. -/
def distinct (items : List Value) : List Value :=
  items.foldl (fun kept v => if kept.any (·.same v) then kept else kept ++ [v]) []

end TableQuery
