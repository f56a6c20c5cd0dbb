import TableQuery.Fault
import TableQuery.Table

/-!
# Looking into values

What a reader of requests asks of a value: an entry of a map, the items one by one, the first item,
a difference, a product. Each asks for a kind of value and gives a fault for any other.
-/
namespace TableQuery
namespace Value

def entry (name : String) (entries : List (Value × Value)) : Value :=
  (Table.get? (text name) entries).getD null

def field (name : String) : Value → Except Fault Value
  | map entries => .ok (entry name entries)
  | _ => .error .partMissing

def entries : Value → Except Fault (List (Value × Value))
  | map es => .ok es
  | _ => .error .partMissing

/-- The items of a value, one by one: the keys of a map, the characters of a text, the numbers of
octets. -/
def items : Value → Except Fault (List Value)
  | list vs | tuple vs | set vs | frozenset vs => .ok vs
  | map es => .ok (es.map Prod.fst)
  | text s => .ok (s.toList.map fun c => text (String.singleton c))
  | bytes octets => .ok (octets.map fun b => int b.toNat)
  | _ => .error .wrongKind

def itemsIfGiven (v : Value) : Except Fault (List Value) :=
  if v.truthy then v.items else .ok []

def at? (vs : List Value) (n : Nat) : Except Fault Value :=
  match vs[n]? with
  | some v => .ok v
  | none => .error .placeMissing

def place (n : Nat) : Value → Except Fault Value
  | list vs | tuple vs => at? vs n
  | text s => at? (s.toList.map fun c => text (String.singleton c)) n
  | bytes octets => at? (octets.map fun b => int b.toNat) n
  | map es =>
    match Table.get? (int n) es with
    | some v => .ok v
    | none => .error .keyMissing
  | _ => .error .wrongKind

def asText? : Value → Option String
  | text s => some s
  | bytes octets => String.fromUTF8? octets.toByteArray
  | _ => none

def whole? : Value → Option Int
  | bool b => some (if b then 1 else 0)
  | int n => some n
  | _ => none

inductive Pair where
  | whole (m n : Int)
  | binary (x y : Binary64)
  | decimal (x y : Decimal)

def widened (n : Int) : Except Fault Binary64 :=
  match Binary64.ofInt? n with
  | some x => .ok x
  | none => .error .tooLarge

/-- Brings two numbers to one kind: whole numbers to that of the other one. Double-precision numbers
and decimal ones do not mix. -/
def pair (a b : Value) : Except Fault Pair :=
  match a.whole?, b.whole? with
  | some m, some n => .ok (.whole m n)
  | some m, none =>
    match b with
    | float y => (widened m).map (.binary · y)
    | decimal y => .ok (.decimal (.ofInt m) y)
    | _ => .error .wrongKind
  | none, some n =>
    match a with
    | float x => (widened n).map (.binary x ·)
    | decimal x => .ok (.decimal x (.ofInt n))
    | _ => .error .wrongKind
  | none, none =>
    match a, b with
    | float x, float y => .ok (.binary x y)
    | decimal x, decimal y => .ok (.decimal x y)
    | _, _ => .error .wrongKind

def ofDecimalResult : Except Decimal.Refusal Decimal → Except Fault Value
  | .ok d => .ok (decimal d)
  | .error .noNumber => .error .noDecimal
  | .error .tooLarge => .error .decimalTooLarge

def numberMinus (a b : Value) : Except Fault Value := do
  match ← pair a b with
  | .whole m n => .ok (int (m - n))
  | .binary x y => .ok (float (x.sub y))
  | .decimal x y => ofDecimalResult (x.sub y)

def numberTimes (a b : Value) : Except Fault Value := do
  match ← pair a b with
  | .whole m n => .ok (int (m * n))
  | .binary x y => .ok (float (x.mul y))
  | .decimal x y => ofDecimalResult (x.mul y)

/-- The difference of two values: of numbers, of two dates in days, of two times in microseconds
if both or neither have an offset, and of sets. -/
def minus : Value → Value → Except Fault Value
  | date a, date b => .ok (int (a.ordinal - b.ordinal))
  | datetime a, datetime b =>
    match a.instant?, b.instant? with
    | some i, some j => .ok (int (i - j))
    | none, none => .ok (int (a.faceMicros - b.faceMicros))
    | _, _ => .error .wrongKind
  | set as, set bs | set as, frozenset bs =>
    .ok (set (as.filter fun a => !bs.any (·.same a)))
  | frozenset as, set bs | frozenset as, frozenset bs =>
    .ok (frozenset (as.filter fun a => !bs.any (·.same a)))
  | a, b => numberMinus a b

def greatestLength : Nat := Nat.pow 2 63 - 1

def greatestHeld : Nat := Nat.pow 2 24

/-- Some items written one after the other a number of times, none of a negative number; `overlong`
is the fault of a length that cannot be counted. -/
def repeated {α : Type} (overlong : Fault) (items : List α) (n : Int) : Except Fault (List α) :=
  if n < -(greatestLength : Int) - 1 ∨ (greatestLength : Int) < n then .error .tooLarge
  else if items.isEmpty then .ok []
  else if greatestLength < items.length * n.toNat then .error overlong
  else if greatestHeld < items.length * n.toNat then .error .tooLong
  else .ok (List.replicate n.toNat items).flatten

def repeats (v : Value) (n : Int) : Except Fault Value :=
  match v with
  | text s => (repeated .tooLarge s.toList n).map fun cs => text (String.ofList cs)
  | bytes octets => (repeated .tooLarge octets n).map bytes
  | list items => (repeated .tooLong items n).map list
  | tuple items => (repeated .tooLong items n).map tuple
  | _ => .error .wrongKind

def times (a b : Value) : Except Fault Value :=
  match a, b with
  | text _, b | bytes _, b | list _, b | tuple _, b =>
    match b.whole? with
    | some n => a.repeats n
    | none => .error .wrongKind
  | a, text _ | a, bytes _ | a, list _ | a, tuple _ =>
    match a.whole? with
    | some n => b.repeats n
    | none => .error .wrongKind
  | a, b => numberTimes a b

/-- Whether a filter that holds a value is in use: an empty list is, zero and false are not. A value
that cannot be compared with zero gives a fault. -/
def inUse : Value → Except Fault Bool
  | list _ | tuple _ => .ok true
  | null | bool false | text "" => .ok false
  | v => (v.equal (int 0)).map (!·)

end Value
end TableQuery
