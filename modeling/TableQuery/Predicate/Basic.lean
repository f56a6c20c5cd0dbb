import TableQuery.Predicate.Formula
import TableQuery.Value.Fingerprint
import TableQuery.Value.Literal

/-!
# Predicates

A comparison asks something of one field; a predicate joins comparisons. A node is what a lowering
may be handed: it may also hold things that are no comparison. Every value is a node and every node
a value: a junction is split into its parts, anything else is a leaf.
-/
namespace TableQuery

/-- A comparison of a field with operands: two for `between`, any number for `isIn`, else one.
When `foldsCase`, the field is taken in small letters; the operands already are. -/
structure Comparison where
  field : Value
  operator : Operator
  operands : List Value
  foldsCase : Bool

abbrev Predicate := Formula Comparison

inductive Leaf where
  | comparison (c : Comparison)
  /-- Something that carries an operator and nothing else. -/
  | bare (operator : Operator)
  | value (v : Value)

abbrev Node := Formula Leaf

namespace Comparison

def operand (c : Comparison) : Except Fault Value :=
  match c.operands with
  | [] => .error .placeMissing
  | v :: _ => .ok v

def toValue (c : Comparison) : Value := .comparison c.field c.operator c.operands c.foldsCase

def literal (c : Comparison) : Except Fault String := c.toValue.literal

def fingerprint? (c : Comparison) : Option Fingerprint := c.toValue.fingerprint?

end Comparison

namespace Leaf

def ofValue : Value → Leaf
  | .comparison field operator operands foldsCase =>
    .comparison ⟨field, operator, operands, foldsCase⟩
  | .bare operator => .bare operator
  | v => .value v

def toValue : Leaf → Value
  | comparison c => c.toValue
  | bare o => .bare o
  | value v => v

end Leaf

namespace Node

def ofPredicate (p : Predicate) : Node := p.map .comparison

def ofPredicate? (p : Option Predicate) : Node := p.elim (.atom (.value .null)) ofPredicate

mutual

def ofValue : Value → Node
  | .junction how parts => .junction how (ofValues parts)
  | v => .atom (.ofValue v)

def ofValues : List Value → List Node
  | [] => []
  | v :: rest => ofValue v :: ofValues rest

end

mutual

def toValue : Node → Value
  | .atom a => a.toValue
  | .junction how parts => .junction how (toValues parts)

def toValues : List Node → List Value
  | [] => []
  | n :: rest => toValue n :: toValues rest

end

def literal (n : Node) : Except Fault String := n.toValue.literal

/-- The texts of some leaves; null is passed over, and what is no comparison has none. -/
def textsOf : List Leaf → Except Fault (List String)
  | [] => .ok []
  | .comparison c :: rest => do
    let shown ← c.literal
    let others ← textsOf rest
    .ok (shown :: others)
  | .value .null :: rest => textsOf rest
  | _ :: _ => .error .partMissing

def leafTexts (n : Node) : Except Fault (List String) := textsOf n.atoms

def operator : Node → Except Fault Operator
  | .junction how _ => .ok how.operator
  | .atom (.comparison c) => .ok c.operator
  | .atom (.bare o) => .ok o
  | .atom (.value _) => .error .partMissing

end Node
end TableQuery
