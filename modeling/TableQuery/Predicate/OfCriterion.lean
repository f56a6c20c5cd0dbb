import TableQuery.Predicate.Basic
import TableQuery.Request.Basic
import TableQuery.Field.Resolver
import TableQuery.Text.Casing

/-!
# The comparison of one criterion

A criterion becomes a comparison according to its match mode and the category of its field. On a
text field every mode applies and the operands are texts in small letters; a pattern has a `%` where
any run of characters may stand. On other fields no pattern applies, and opaque fields only know
equality and membership. The field is resolved first, then the mode is checked, then the value.
-/
namespace TableQuery

namespace Category

def defaultMode : Category → MatchMode
  | text => .contains
  | _ => .equals

end Category

namespace MatchMode

/-- What a match mode asks of its value: a text to search for, open at either side, a single value,
two bounds, or any number of values. -/
inductive Demand where
  | pattern (operator : Operator) (openLeft openRight : Bool)
  | single (operator : Operator)
  | bounds
  | members

def demand : MatchMode → Demand
  | contains => .pattern .like true true
  | notContains => .pattern .notLike true true
  | startsWith => .pattern .like false true
  | endsWith => .pattern .like true false
  | equals => .single .eq
  | notEquals => .single .ne
  | lt => .single .lt
  | lte => .single .lte
  | gt => .single .gt
  | gte => .single .gte
  | between => .bounds
  | isIn => .members

def appliesTo (m : MatchMode) : Category → Bool
  | .text => true
  | .ordered =>
    match m.demand with
    | .pattern _ _ _ => false
    | _ => true
  | .opaqueKind =>
    match m with
    | equals | notEquals | isIn => true
    | _ => false

def takesNull : MatchMode → Bool
  | equals | notEquals => true
  | _ => false

end MatchMode

namespace Comparison

def misshapen {α : Type} (field : Value) (mode : MatchMode) (cause : Misshapen) : Except Fault α :=
  (Fault.misshapen field mode cause).raise

def foldedText (field : Value) (mode : MatchMode) (v : Value) : Except Fault String :=
  match v with
  | .null | .map _ | .list _ | .tuple _ | .set _ | .frozenset _ =>
    misshapen field mode (.notText v)
  | v => v.display.map Text.lower

def bounds (field : Value) (mode : MatchMode) (v : Value) : Except Fault (Value × Value) :=
  match v with
  | .list [low, high] | .tuple [low, high] => .ok (low, high)
  | v => misshapen field mode (.notPair v)

def members (field : Value) (mode : MatchMode) (v : Value) : Except Fault (List Value) :=
  match v with
  | .list items | .tuple items | .set items | .frozenset items => .ok items
  | v => misshapen field mode (.notMany v)

/-- A pattern that finds a text, with `%` at the open sides. -/
def pattern (openLeft openRight : Bool) (s : String) : String :=
  (if openLeft then "%" else "") ++ s ++ (if openRight then "%" else "")

def onText (field : Value) (mode : MatchMode) (v : Value) : Except Fault Comparison :=
  match mode.demand with
  | .pattern o openLeft openRight => do
    let s ← foldedText field mode v
    .ok ⟨field, o, [.text (pattern openLeft openRight s)], true⟩
  | .single o => do
    let s ← foldedText field mode v
    .ok ⟨field, o, [.text s], true⟩
  | .bounds => do
    let (low, high) ← bounds field mode v
    let a ← foldedText field mode low
    let b ← foldedText field mode high
    .ok ⟨field, .between, [.text a, .text b], true⟩
  | .members => do
    let items ← members field mode v
    let texts ← items.mapM (foldedText field mode)
    .ok ⟨field, .isIn, texts.map .text, true⟩

def onPlain (field : Value) (category : Category) (mode : MatchMode) (v : Value) :
    Except Fault Comparison :=
  match mode.demand with
  | .pattern _ _ _ => (Fault.modeRefused field mode category).raise
  | .single o =>
    if v.isSequence then misshapen field mode (.notSingle v)
    else match v with
      | .null =>
        if mode.takesNull then .ok ⟨field, o, [.null], false⟩ else misshapen field mode .missing
      | v => .ok ⟨field, o, [v], false⟩
  | .bounds => do
    let (low, high) ← bounds field mode v
    .ok ⟨field, .between, [low, high], false⟩
  | .members => do
    let items ← members field mode v
    .ok ⟨field, .isIn, items, false⟩

def ofCriterion (r : Resolver) (field : Value) (c : Criterion) : Except Fault Comparison := do
  let category ← r.require field
  let mode := c.mode.getD category.defaultMode
  if mode.appliesTo category then
    match category with
    | .text => onText field mode c.value
    | category => onPlain field category mode c.value
  else (Fault.modeRefused field mode category).raise

/-- The comparison of a value on one field; a value that is no criterion is only looked into once
the field is resolved. -/
def ofValue (r : Resolver) (field : Value) : Value → Except Fault Comparison
  | .criterion value mode connective => ofCriterion r field ⟨value, mode, connective⟩
  | _ => do
    let _ ← r.require field
    .error .partMissing

end Comparison
end TableQuery
