import TableQuery.Number.Numeral

/-!
# Double-precision numbers

A finite number is a sign, a whole mantissa below `2 ^ 53` and a power of two not below `-1074`,
so its value is an exact fraction. Rounding is to the nearest such number, a tie to the even
mantissa. Nothing here rests on machine arithmetic.
-/
namespace TableQuery

/-- A double-precision number; a finite one is `± mantissa · 2 ^ exponent`. -/
inductive Binary64 where
  | finite (negative : Bool) (mantissa : Nat) (exponent : Int)
  | infinite (negative : Bool)
  | notANumber
  deriving DecidableEq

namespace Binary64

def leastExponent : Int := -1074

def greatestExponent : Int := 971

/-- The whole number nearest to `n / d`, the even one of two. -/
def roundQuotient (n d : Nat) : Nat :=
  let q := n / d
  let r := n % d
  if 2 * r < d then q else if d < 2 * r then q + 1 else q + q % 2

def zero (negative : Bool) : Binary64 := .finite negative 0 leastExponent

def shifted (n d : Nat) (e : Int) : Nat × Nat :=
  if e < 0 then (n * Nat.pow 2 e.natAbs, d) else (n, d * Nat.pow 2 e.natAbs)

/-- The power of two at which `n / d` has a mantissa of 53 bits, or the least one. -/
def exponentOf (n d : Nat) : Int :=
  let guess : Int := (n.log2 : Int) - d.log2 - 53
  let (a, b) := shifted n d guess
  max leastExponent (if a / b < Nat.pow 2 53 then guess else guess + 1)

/-- The number nearest to `± n / d`; beyond the largest one it is infinite. -/
def ofQuotient (negative : Bool) (n d : Nat) : Binary64 :=
  if n = 0 then zero negative
  else
    let e := exponentOf n d
    let (a, b) := shifted n d e
    let m := roundQuotient a b
    let (m, e) := if m = Nat.pow 2 53 then (Nat.pow 2 52, e + 1) else (m, e)
    if m = 0 then zero negative
    else if greatestExponent < e then .infinite negative
    else .finite negative m e

def ofRat (q : Rat) : Binary64 := ofQuotient (q.num < 0) q.num.natAbs q.den

def ofInt (n : Int) : Binary64 := ofQuotient (n < 0) n.natAbs 1

def toRat? : Binary64 → Option Rat
  | finite negative m e =>
    let magnitude : Rat := if e < 0 then mkRat m (Nat.pow 2 e.natAbs) else m * Nat.pow 2 e.natAbs
    some (if negative then -magnitude else magnitude)
  | _ => none

def isZero : Binary64 → Bool
  | finite _ m _ => m = 0
  | _ => false

/-- The number nearest to a numeral. Numerals far outside the range are decided by their size, so
that no power of ten is ever computed for them. -/
def ofNumeral (n : Numeral) : Binary64 :=
  if n.coefficient = 0 then zero n.negative
  else
    let size : Int := (decimalDigits n.coefficient).length + n.exponent
    if 310 < size then .infinite n.negative
    else if size < -330 then zero n.negative
    else if n.exponent < 0 then
      ofQuotient n.negative n.coefficient (Nat.pow 10 n.exponent.natAbs)
    else ofQuotient n.negative (n.coefficient * Nat.pow 10 n.exponent.natAbs) 1

def named? (negative : Bool) : List Char → Option Binary64
  | ['i', 'n', 'f'] => some (.infinite negative)
  | ['i', 'n', 'f', 'i', 'n', 'i', 't', 'y'] => some (.infinite negative)
  | ['n', 'a', 'n'] => some .notANumber
  | _ => none

def ofChars? (text : List Char) : Option Binary64 :=
  let (negative, rest) := Numeral.scanSign text
  match named? negative (rest.map Char.toLower) with
  | some x => some x
  | none => (Numeral.scanUnsigned negative rest).map ofNumeral

def sub : Binary64 → Binary64 → Binary64
  | notANumber, _ => notANumber
  | _, notANumber => notANumber
  | infinite a, infinite b => if a = b then notANumber else infinite a
  | infinite a, finite _ _ _ => infinite a
  | finite _ _ _, infinite b => infinite !b
  | x@(finite a _ _), y@(finite b _ _) =>
    match x.toRat?, y.toRat? with
    | some p, some q => if p = q then zero (a && !b && x.isZero) else ofRat (p - q)
    | _, _ => notANumber

def mul : Binary64 → Binary64 → Binary64
  | notANumber, _ | _, notANumber => notANumber
  | infinite a, infinite b => infinite (a != b)
  | infinite a, finite b m _ | finite b m _, infinite a =>
    if m = 0 then notANumber else infinite (a != b)
  | x@(finite a m _), y@(finite b n _) =>
    if m = 0 ∨ n = 0 then zero (a != b)
    else match x.toRat?, y.toRat? with
      | some p, some q => ofQuotient (a != b) (p.num.natAbs * q.num.natAbs) (p.den * q.den)
      | _, _ => notANumber

def ofInt? (n : Int) : Option Binary64 :=
  match ofInt n with
  | infinite _ => none
  | x => some x

end Binary64
end TableQuery
