import TableQuery.Fault
import TableQuery.Qdrant.Moment
import TableQuery.Text.Blank

/-!
# Bounds of ranges

The operands of a range become bounds of one kind. If one of them is a date, the others are read as
dates or instants. Otherwise all are read as double-precision numbers. Null does not bound, and what
cannot be read breaks the schema.
-/
namespace TableQuery.Qdrant

def plainNumber? (text : List Char) : Option Binary64 :=
  if '_' ∈ text then none else Binary64.ofChars? text

def hasDoubleLine : List Char → Bool
  | '_' :: '_' :: _ => true
  | _ :: rest => hasDoubleLine rest
  | [] => false

/-- A text without its low lines. There has to be one, but none at the ends and no two in a row. -/
def withoutLines? (text : List Char) : Option (List Char) :=
  if '_' ∈ text ∧ text.head? ≠ some '_' ∧ text.getLast? ≠ some '_' ∧ !hasDoubleLine text then
    some (text.filter (· ≠ '_'))
  else none

def numberText? (text : List Char) : Option Binary64 :=
  match plainNumber? (Text.stripWhile Text.isSpace text) with
  | some x => some x
  | none => (withoutLines? text).bind Binary64.ofChars?

def numberOf? : Value → Option Binary64
  | .float x => some x
  | .bool b => some (Binary64.ofInt (if b then 1 else 0))
  | .int n => Binary64.ofInt? n
  | .decimal d => d.toBinary64?
  | v => v.asText?.bind fun s => numberText? s.toList

def bound {α : Type} (read? : Value → Option α) : Value → Except Fault (Option α)
  | .null => .ok none
  | v =>
    match read? v with
    | some a => .ok (some a)
    | none => .error .schemaViolated

def isMoment : Value → Bool
  | .date _ | .datetime _ => true
  | _ => false

def Range.mapM {α β : Type} (f : α → Except Fault (Option β)) (r : Range α) :
    Except Fault (Range β) := do
  let at? : Option α → Except Fault (Option β) := fun
    | none => .ok none
    | some a => f a
  let gt ← at? r.gt
  let gte ← at? r.gte
  let lt ← at? r.lt
  let lte ← at? r.lte
  .ok ⟨gt, gte, lt, lte⟩

def rangeTest (r : Range Value) : Except Fault Test :=
  if [r.gt, r.gte, r.lt, r.lte].any (fun b => (b.map isMoment).getD false) then
    (r.mapM (bound Moment.ofValue?)).map .inPeriod
  else (r.mapM (bound numberOf?)).map .inRange

end TableQuery.Qdrant
