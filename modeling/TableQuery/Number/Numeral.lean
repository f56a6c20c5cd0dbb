/-!
# Numerals

How a number is written in decimal: a sign, digits with at most one point, and an optional power
of ten. A numeral keeps its trailing zeros, so `1.50` and `1.5` are different numerals of one
number. Digits are the ASCII ones.
-/
namespace TableQuery

/-- The number `± coefficient · 10 ^ exponent`, as written. -/
structure Numeral where
  negative : Bool
  coefficient : Nat
  exponent : Int
  deriving DecidableEq

namespace Numeral

def digit? (c : Char) : Option Nat :=
  if '0' ≤ c ∧ c ≤ '9' then some (c.toNat - '0'.toNat) else none

/-- Digits in front of a text, as their value and count, and what follows. A low line may stand
between two digits. -/
def scanDigits (value count : Nat) : List Char → Nat × Nat × List Char
  | [] => (value, count, [])
  | '_' :: c :: rest =>
    match digit? c, count with
    | some d, k + 1 => scanDigits (10 * value + d) (k + 2) rest
    | _, _ => (value, count, '_' :: c :: rest)
  | c :: rest =>
    match digit? c with
    | some d => scanDigits (10 * value + d) (count + 1) rest
    | none => (value, count, c :: rest)

def scanSign : List Char → Bool × List Char
  | '-' :: rest => (true, rest)
  | '+' :: rest => (false, rest)
  | rest => (false, rest)

def scanExponent : List Char → Option Int
  | [] => some 0
  | c :: rest =>
    if c = 'e' ∨ c = 'E' then
      let (negative, rest) := scanSign rest
      match scanDigits 0 0 rest with
      | (value, _ + 1, []) => some (if negative then -(value : Int) else value)
      | _ => none
    else none

def scanUnsigned (negative : Bool) (text : List Char) : Option Numeral :=
  let (whole, wholeCount, rest) := scanDigits 0 0 text
  let (value, fractionCount, rest) := match rest with
    | '.' :: rest =>
      let (fraction, count, rest) := scanDigits 0 0 rest
      (whole * Nat.pow 10 count + fraction, count, rest)
    | rest => (whole, 0, rest)
  if wholeCount + fractionCount = 0 then none
  else (scanExponent rest).map fun exponent => ⟨negative, value, exponent - fractionCount⟩

def ofChars? (text : List Char) : Option Numeral :=
  let (negative, rest) := scanSign text
  scanUnsigned negative rest

end Numeral

def decimalDigits (n : Nat) : List Char := Nat.toDigits 10 n

/-- Digits with the point set after `point` of them, zeros filling what is missing on either side:
the part in front of the point and the part behind it. -/
def placePoint (digits : List Char) (point : Int) : List Char × List Char :=
  if point ≤ 0 then (['0'], List.replicate point.natAbs '0' ++ digits)
  else if (digits.length : Int) ≤ point then
    (digits ++ List.replicate (point.natAbs - digits.length) '0', [])
  else (digits.take point.natAbs, digits.drop point.natAbs)

end TableQuery
