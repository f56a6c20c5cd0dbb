import TableQuery.Number.Binary

/-!
# Decimal numbers

Decimal numbers keep the zeros they were written with: `1.50` is equal to `1.5` but shows as
written. Besides the infinite ones there are those that are no number; they carry a diagnostic, and
some of them signal: arithmetic refuses them. Results are exact up to 28 digits and rounded to
nearest, ties to even, beyond; their exponents are bounded.
-/
namespace TableQuery

inductive Decimal where
  | finite (numeral : Numeral)
  | infinite (negative : Bool)
  | notANumber (negative signals : Bool) (diagnostic : Nat)
  deriving DecidableEq

namespace Decimal

def greatestWritten : Int := 999999999999999999

def leastWritten : Int := -1999999999999999997

def isWritable (n : Numeral) : Bool :=
  leastWritten ≤ n.exponent ∧
    (if n.coefficient = 0 then n.exponent
      else n.exponent + (decimalDigits n.coefficient).length - 1) ≤ greatestWritten

/-- The diagnostic behind the name of what is no number: digits, or nothing for zero. -/
def diagnostic? (text : List Char) : Option Nat :=
  text.foldl (fun n c => n.bind fun n => (Numeral.digit? c).map fun d => 10 * n + d) (some 0)

def named? (negative : Bool) : List Char → Option Decimal
  | ['i', 'n', 'f'] => some (.infinite negative)
  | ['i', 'n', 'f', 'i', 'n', 'i', 't', 'y'] => some (.infinite negative)
  | 'n' :: 'a' :: 'n' :: digits => (diagnostic? digits).map (.notANumber negative false)
  | 's' :: 'n' :: 'a' :: 'n' :: digits => (diagnostic? digits).map (.notANumber negative true)
  | _ => none

def ofChars? (text : List Char) : Option Decimal :=
  let (negative, rest) := Numeral.scanSign text
  match named? negative (rest.map Char.toLower) with
  | some d => some d
  | none =>
    match Numeral.scanUnsigned negative rest with
    | some n => if isWritable n then some (.finite n) else none
    | none => none

/-- The text of a decimal number: positional unless the exponent is positive or the first digit
stands more than six places behind the point. -/
def display : Decimal → String
  | notANumber negative signals n =>
    String.ofList ((if negative then ['-'] else []) ++ (if signals then ['s'] else []) ++
      ['N', 'a', 'N'] ++ (if n = 0 then [] else decimalDigits n))
  | infinite false => "Infinity"
  | infinite true => "-Infinity"
  | finite ⟨negative, c, e⟩ =>
    let digits := decimalDigits c
    let left : Int := e + digits.length
    let point : Int := if e ≤ 0 ∧ -6 < left then left else 1
    let (whole, fraction) := placePoint digits point
    let power : List Char :=
      if left = point then []
      else 'E' :: (if left < point then '-' else '+') :: decimalDigits (left - point).natAbs
    String.ofList ((if negative then ['-'] else []) ++ whole ++
      (if fraction = [] then [] else '.' :: fraction) ++ power)

def isZero : Decimal → Bool
  | finite n => n.coefficient = 0
  | _ => false

def toBinary64? : Decimal → Option Binary64
  | finite n => some (Binary64.ofNumeral n)
  | infinite negative => some (.infinite negative)
  | notANumber _ false _ => some .notANumber
  | notANumber _ true _ => none

def ofInt (n : Int) : Decimal := finite ⟨n < 0, n.natAbs, 0⟩

/-! ## Results -/

def precision : Nat := 28

def greatestPower : Int := 999999

def leastExponent : Int := -999999 - (precision - 1)

inductive Refusal where
  | noNumber
  | tooLarge
  deriving DecidableEq

def size (c : Nat) : Nat := (decimalDigits c).length

/-- Cuts a coefficient to what is left above `places` digits, to nearest. -/
def cut (c places : Nat) : Nat :=
  if size c < places then 0 else Binary64.roundQuotient c (Nat.pow 10 places)

/-- A numeral as a result: rounded to the precision and to the smallest exponent. A carry to one
more digit is cut again without loss. -/
def settled (n : Numeral) : Except Refusal Numeral :=
  if n.coefficient = 0 then
    .ok ⟨n.negative, 0, min (max n.exponent leastExponent) greatestPower⟩
  else
    let least := max leastExponent (n.exponent + size n.coefficient - precision)
    let (c, e) :=
      if n.exponent < least then
        let c := cut n.coefficient (least - n.exponent).natAbs
        if precision < size c then (c / 10, least + 1) else (c, least)
      else (n.coefficient, n.exponent)
    if greatestPower < e + size c - 1 then .error .tooLarge else .ok ⟨n.negative, c, e⟩

def settledDiagnostic (n : Nat) : Nat := n % Nat.pow 10 precision

def signedAt (n : Numeral) (e : Int) : Int :=
  let c : Int := n.coefficient * Nat.pow 10 (n.exponent - e).natAbs
  if n.negative then -c else c

/-- A numeral that a sum cannot tell from a given one which is far below the last digit of the
other summand: one unit there. -/
def nudge (far : Numeral) (other : Numeral) : Numeral :=
  let place := other.exponent + min (-1) (size other.coefficient - (precision : Int) - 2)
  if far.exponent + size far.coefficient - 1 < place then ⟨far.negative, 1, place⟩ else far

def loweredTo (n : Numeral) (e : Int) : Numeral :=
  ⟨n.negative, n.coefficient * Nat.pow 10 (n.exponent - e).natAbs, e⟩

def rawSum (a b : Numeral) : Numeral :=
  let least := min a.exponent b.exponent
  if a.coefficient = 0 ∧ b.coefficient = 0 then ⟨a.negative && b.negative, 0, least⟩
  else if a.coefficient = 0 then loweredTo b (max least (b.exponent - precision - 1))
  else if b.coefficient = 0 then loweredTo a (max least (a.exponent - precision - 1))
  else
    let (a, b) := if a.exponent < b.exponent then (nudge a b, b) else (a, nudge b a)
    let e := min a.exponent b.exponent
    let c := signedAt a e + signedAt b e
    ⟨c < 0, c.natAbs, e⟩

/-- What is no number, handed on by an operation: the first operand that is none. A signal is
refused. -/
def passed? : Decimal → Decimal → Option (Except Refusal Decimal)
  | notANumber _ true _, _ | _, notANumber _ true _ => some (.error .noNumber)
  | notANumber s false n, _ => some (.ok (notANumber s false (settledDiagnostic n)))
  | _, notANumber s false n => some (.ok (notANumber s false (settledDiagnostic n)))
  | _, _ => none

def sub (a b : Decimal) : Except Refusal Decimal :=
  match passed? a b with
  | some r => r
  | none =>
    match a, b with
    | finite a, finite b => (settled (rawSum a ⟨!b.negative, b.coefficient, b.exponent⟩)).map finite
    | infinite a, infinite b => if a = b then .error .noNumber else .ok (infinite a)
    | infinite a, _ => .ok (infinite a)
    | _, infinite b => .ok (infinite !b)
    | a, _ => .ok a

def mul (a b : Decimal) : Except Refusal Decimal :=
  match passed? a b with
  | some r => r
  | none =>
    match a, b with
    | finite a, finite b =>
      (settled ⟨a.negative != b.negative, a.coefficient * b.coefficient,
        a.exponent + b.exponent⟩).map finite
    | infinite a, infinite b => .ok (infinite (a != b))
    | infinite a, finite b | finite b, infinite a =>
      if b.coefficient = 0 then .error .noNumber else .ok (infinite (a != b.negative))
    | a, _ => .ok a

end Decimal
end TableQuery
