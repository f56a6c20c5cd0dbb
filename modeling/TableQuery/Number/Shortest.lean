import TableQuery.Number.Binary

/-!
# The shortest decimal that reads back

Of all decimals that round to a given double-precision number, the text shows one with the fewest
digits, and of those the nearest; a tie goes to the even last digit. On the grid of a given number
of digits only the two neighbours of the number can be nearest, so those two are tried, in exact
whole-number arithmetic, for 1, 2, … 17 digits.
-/
namespace TableQuery
namespace Binary64

/-- The decimals that read back as a number lie between `low` and `high`, in units of
`2 ^ (exponent - 2)`; the ends count when `closed`. -/
structure Interval where
  low : Nat
  value : Nat
  high : Nat
  closed : Bool

/-- The interval around `mantissa · 2 ^ exponent`. Below a power of two the gap is half as wide. -/
def interval (mantissa : Nat) (exponent : Int) : Interval :=
  { low := 4 * mantissa - (if mantissa = Nat.pow 2 52 ∧ leastExponent < exponent then 1 else 2)
    value := 4 * mantissa
    high := 4 * mantissa + 2
    closed := mantissa % 2 = 0 }

def Interval.within (closed : Bool) (lo x hi : Nat) : Bool :=
  if closed then lo ≤ x ∧ x ≤ hi else lo < x ∧ x < hi

/-- The multiple of `10 ^ k`, if one reads back, that is nearest to the number; as the factor of
`10 ^ k`. -/
def onGrid (i : Interval) (exponent k : Int) : Option Nat :=
  let scale (b : Nat) (e : Int) : Nat := if e < 0 then 1 else Nat.pow b e.natAbs
  let up := scale 2 (exponent - 2) * scale 10 (-k)
  let unit := scale 2 (2 - exponent) * scale 10 k
  let v := i.value * up
  let c := v / unit
  let hit (c : Nat) : Bool := Interval.within i.closed (i.low * up) (c * unit) (i.high * up)
  match hit c, hit (c + 1) with
  | true, true =>
    let below := v - c * unit
    let above := (c + 1) * unit - v
    some (if below < above then c else if above < below then c + 1 else c + c % 2)
  | true, false => some c
  | false, true => some (c + 1)
  | false, false => none

/-- The power of ten of the leading digit of `mantissa · 2 ^ exponent`, for a positive mantissa:
every such number is above `10 ^ (-350)`. -/
def leadingPower (mantissa : Nat) (exponent : Int) : Int :=
  let scaled := mantissa * Nat.pow 10 350
  let power := Nat.pow 2 exponent.natAbs
  let floor := if exponent < 0 then scaled / power else scaled * power
  (decimalDigits floor).length - 1 - 350

def searchGrids (i : Interval) (exponent lead : Int) (count : Nat) : Nat → Nat × Int
  | 0 => (0, 0)
  | fuel + 1 =>
    let k := lead + 1 - count
    match onGrid i exponent k with
    | some c => (c, k)
    | none => searchGrids i exponent lead (count + 1) fuel

/-- The shortest decimal of `mantissa · 2 ^ exponent`: a coefficient and a power of ten. Seventeen
digits always suffice. -/
def shortest (mantissa : Nat) (exponent : Int) : Nat × Int :=
  searchGrids (interval mantissa exponent) exponent (leadingPower mantissa exponent) 1 17

def dropTrailingZeros (digits : List Char) : List Char :=
  match (digits.reverse.dropWhile (· = '0')).reverse with
  | [] => ['0']
  | kept => kept

/-- How a number is laid out: positional from `10 ^ lowest` up to below `10 ^ highest`, with one
digit at least behind the point; outside with a signed power of ten of two digits at least. -/
structure Layout where
  lowest : Int
  highest : Int

def layout : Layout := ⟨-4, 16⟩

def Layout.write (l : Layout) (digits : List Char) (power : Int) : List Char :=
  if l.lowest ≤ power ∧ power < l.highest then
    let (whole, fraction) := placePoint digits (power + 1)
    whole ++ '.' :: (if fraction = [] then ['0'] else fraction)
  else
    let size := decimalDigits power.natAbs
    digits.take 1 ++ (if digits.length ≤ 1 then [] else '.' :: digits.drop 1) ++
      'e' :: (if power < 0 then '-' else '+') :: (if size.length < 2 then '0' :: size else size)

def display : Binary64 → String
  | notANumber => "nan"
  | infinite false => "inf"
  | infinite true => "-inf"
  | finite negative m e =>
    let body :=
      if m = 0 then ['0', '.', '0']
      else
        let (c, k) := shortest m e
        let all := decimalDigits c
        layout.write (dropTrailingZeros all) (all.length - 1 + k)
    String.ofList (if negative then '-' :: body else body)

end Binary64
end TableQuery
