import TableQuery.Predicate.Check
import TableQuery.Sqlite.Clause
import TableQuery.Sorting
import TableQuery.Page

/-!
# Lowering to clauses

Every operator is checked first, and nothing is bound if that fails. Then a node becomes a clause
from left to right; when a leaf fails, the values bound before it are kept beside the fault. A
converter remembers the values of its last conversion and nothing else.
-/
namespace TableQuery.Sqlite

structure Stuck where
  fault : Fault
  collected : List Value

def comparator? : Operator → Option Comparator
  | .eq => some .eq
  | .ne => some .ne
  | .gt => some .gt
  | .gte => some .gte
  | .lt => some .lt
  | .lte => some .lte
  | _ => none

/-- Comparing with null for equality asks whether the value is missing. -/
def compareClause (t : Term) (o : Comparator) (v : Value) : Clause :=
  match o, v with
  | .eq, .null => .isNull t false
  | .ne, .null => .isNull t true
  | o, v => .compare t o v

def operatorClause (t : Term) (c : Comparison) : Except Fault Clause :=
  match c.operator with
  | .isIn => .ok (if c.operands.isEmpty then .constant false else .member t c.operands)
  | .between =>
    match c.operands with
    | [low, high] => .ok (.between t low high)
    | _ => .error .badValue
  | .like => c.operand.map (.like t false)
  | .notLike => c.operand.map (.like t true)
  | o =>
    match comparator? o with
    | some sign => c.operand.map (compareClause t sign)
    | none => .error (.operatorRefused o .sqlite)

def comparisonClause (l : Layout) (c : Comparison) : Except Fault Clause := do
  let ref ← l.reference c.field
  operatorClause ⟨ref, c.foldsCase⟩ c

def leafClause (l : Layout) : Leaf → Except Fault Clause
  | .comparison c => comparisonClause l c
  | _ => .error .badValue

/-- The clause of a junction; without parts it is always true or always false. -/
def junctionClause (how : Connective) (parts : List Clause) : Clause :=
  if parts.isEmpty then .constant (how = .all) else .junction how parts

mutual

def lower (l : Layout) : Node → Except Stuck Clause
  | .atom a =>
    match leafClause l a with
    | .ok c => .ok c
    | .error f => .error ⟨f, []⟩
  | .junction how parts =>
    match lowerAll l parts with
    | .ok cs => .ok (junctionClause how cs)
    | .error s => .error s

def lowerAll (l : Layout) : List Node → Except Stuck (List Clause)
  | [] => .ok []
  | n :: rest =>
    match lower l n with
    | .error s => .error s
    | .ok c =>
      match lowerAll l rest with
      | .ok cs => .ok (c :: cs)
      | .error s => .error ⟨s.fault, c.bound ++ s.collected⟩

end

def isNothing : Node → Bool
  | .atom (.value .null) => true
  | _ => false

def convert (l : Layout) (n : Node) : Except Stuck Clause :=
  if isNothing n then .ok (.constant true)
  else match n.check .sqlite l.refused with
    | .error f => .error ⟨f, []⟩
    | .ok _ => lower l n

def orderKey (l : Layout) (o : SortOrder) : Except Fault (List Char) :=
  (l.reference o.field).map fun ref =>
    ref.chars ++ (if o.ascending then " ASC" else " DESC").toList

def orderBy (l : Layout) (sort : SortSpec) : Except Fault String :=
  if sort.isEmpty then .ok ""
  else (sort.mapM (orderKey l)).map fun keys =>
    String.ofList ("ORDER BY ".toList ++ separated ", ".toList keys)

/-- The page of a statement and the values it binds: the size, then the rows to skip. -/
def limit : Option PageWindow → Except Fault (String × List Value)
  | none => .ok ("", [])
  | some p => p.offset.map fun skip => ("LIMIT ? OFFSET ?", [p.size, skip])

structure Converter where
  layout : Layout
  params : List Value

namespace Converter

def ofLayout (l : Layout) : Converter := ⟨l, []⟩

def convert (c : Converter) (n : Node) : Converter × Except Fault Clause :=
  match Sqlite.convert c.layout n with
  | .ok clause => (⟨c.layout, clause.bound⟩, .ok clause)
  | .error s => (⟨c.layout, s.collected⟩, .error s.fault)

def validate (c : Converter) (n : Node) : Except Fault Unit := n.check .sqlite c.layout.refused

end Converter
end TableQuery.Sqlite
