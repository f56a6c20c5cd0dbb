import TableQuery.Predicate.Basic

/-!
# Operators a target understands

Before anything is lowered, every operator in a node is compared with those the target refuses, a
junction before its parts and from left to right. Null counts as no condition; anything else without
an operator cannot be checked.
-/
namespace TableQuery
namespace Node

def permit (refuser : Refuser) (refused : List Operator) (o : Operator) : Except Fault Unit :=
  if refused.contains o then .error (.operatorRefused o refuser) else .ok ()

/-- Checks a leaf. A criterion carries a connective in place of an operator, and no target
understands that. -/
def checkLeaf (refuser : Refuser) (refused : List Operator) : Leaf → Except Fault Unit
  | .comparison c => permit refuser refused c.operator
  | .bare o => permit refuser refused o
  | .value .null => .ok ()
  | .value (.criterion _ _ (some how)) => .error (.operatorRefused how.operator refuser)
  | .value _ => .error .partMissing

def check (refuser : Refuser) (refused : List Operator) (n : Node) : Except Fault Unit :=
  n.visit (checkLeaf refuser refused) fun how => permit refuser refused how.operator

end Node
end TableQuery
