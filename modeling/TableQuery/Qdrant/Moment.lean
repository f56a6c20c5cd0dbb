import TableQuery.Calendar.Iso
import TableQuery.Qdrant.Filter
import TableQuery.Value.Access

/-!
# Instants of bounds

Beside a date, a bound is read as a date or an instant. A text, or octets that encode one, is a
date, a date with a time, or a number; a time is `T10:20` or `T10:20:30.5` behind one of four
separators, with `Z`, an offset or nothing behind it. A number counts seconds since the start of
1970, or milliseconds when it is large. A count of double precision is taken apart into the whole
units below it and a rest, which is never negative; the rest becomes microseconds in that precision,
so a half microsecond is one that is half in double precision; it is rounded up.
-/
namespace TableQuery.Qdrant
namespace Moment

/-! ## Counts -/

def epochMicros : Int := (Date.ordinal ⟨1970, 1, 1⟩ : Int) * 86400000000

/-- A count larger than this one, of either sign, is taken for milliseconds. -/
def greatestSeconds : Nat := 20000000000

def unitOf (count : Rat) : Nat :=
  if (greatestSeconds : Rat) < count ∨ count < -(greatestSeconds : Rat) then 1000 else 1000000

def ofMicros? (micros : Int) : Option Moment :=
  (Datetime.ofFaceMicros? (epochMicros + micros)).map .datetime

def ofWhole? (n : Int) : Option Moment :=
  ofMicros? (n * unitOf n)

/-- What a count has beyond its whole units, in microseconds: a difference and a product of double
precision, rounded to the nearest whole number, a half upward. -/
def microsBeyond (x : Binary64) (whole : Int) (unit : Nat) : Int :=
  match ((x.sub (.ofInt whole)).mul (.ofInt unit)).toRat? with
  | some micros => (micros + 1 / 2).floor
  | none => 0

/-- The instant that a double-precision number names: its whole units, counted down to the one
below it, and the rest. -/
def ofBinary64? (x : Binary64) : Option Moment :=
  match x.toRat? with
  | none => none
  | some count =>
    let unit := unitOf count
    ofMicros? (count.floor * unit + microsBeyond x count.floor unit)

def ofNumberText? (text : List Char) : Option Moment :=
  let (negative, rest) := Numeral.scanSign text
  let digits := rest.takeWhile Calendar.isDigit
  match rest.dropWhile Calendar.isDigit with
  | [] =>
    match Numeral.scanDigits 0 0 digits with
    | (value, _ + 1, _) => ofWhole? (if negative then -(value : Int) else value)
    | _ => none
  | '.' :: _ => if '_' ∈ text then none else (Binary64.ofChars? text).bind ofBinary64?
  | _ => none

/-! ## Written times -/

def readChar (c : Char) : List Char → Option (List Char)
  | d :: rest => if d = c then some rest else none
  | [] => none

def scanDate (text : List Char) : Option (Date × List Char) := do
  let (year, rest) ← Calendar.readDigits 0 4 text
  let (month, rest) ← Calendar.readDigits 0 2 (← readChar '-' rest)
  let (day, rest) ← Calendar.readDigits 0 2 (← readChar '-' rest)
  some (← Date.ofParts? year month day, rest)

def scanFraction : List Char → Option (Nat × List Char)
  | '.' :: rest | ',' :: rest =>
    match rest.takeWhile Calendar.isDigit with
    | [] => none
    | digits =>
      let kept := digits.take 6
      some ((Numeral.scanDigits 0 0 kept).1 * Nat.pow 10 (6 - kept.length),
        rest.dropWhile Calendar.isDigit)
  | rest => some (0, rest)

def scanSeconds : List Char → Option (Nat × Nat × List Char)
  | ':' :: rest => do
    let (second, rest) ← Calendar.readDigits 0 2 rest
    let (micro, rest) ← scanFraction rest
    some (second, micro, rest)
  | rest => some (0, 0, rest)

def scanOffset (text : List Char) : Option Nat := do
  let (hours, rest) ← Calendar.readDigits 0 2 text
  let rest := match rest with
    | ':' :: rest => rest
    | rest => rest
  let (minutes, rest) ← Calendar.readDigits 0 2 rest
  if rest = [] ∧ hours < 24 ∧ minutes < 60 then some ((hours * 60 + minutes) * 60000000) else none

def scanZone : List Char → Option (Option Int)
  | [] => some none
  | ['Z'] | ['z'] => some (some 0)
  | '+' :: rest => (scanOffset rest).map fun n => some (n : Int)
  | '-' :: rest | '−' :: rest => (scanOffset rest).map fun n => some (-(n : Int))
  | _ => none

def scanTime (d : Date) (text : List Char) : Option Datetime := do
  let (hour, rest) ← Calendar.readDigits 0 2 text
  let (minute, rest) ← Calendar.readDigits 0 2 (← readChar ':' rest)
  let (second, micro, rest) ← scanSeconds rest
  let offset ← scanZone rest
  Datetime.ofClock? d ⟨hour, minute, second, micro, []⟩ offset

def isSeparator (c : Char) : Bool := c = 'T' || c = 't' || c = ' ' || c = '_'

def ofTimeText? (text : List Char) : Option Datetime := do
  let (d, rest) ← scanDate text
  match rest with
  | [] => some ⟨d, 0, 0, 0, 0, none⟩
  | c :: rest => if isSeparator c then scanTime d rest else none

def ofText? (text : List Char) : Option Moment :=
  match ofTimeText? text with
  | some t => some (.datetime t)
  | none => ofNumberText? text

def ofValue? : Value → Option Moment
  | .date d => some (.date d)
  | .datetime t => some (.datetime t)
  | .int n => ofWhole? n
  | .float x => ofBinary64? x
  | .decimal d => d.toBinary64?.bind ofBinary64?
  | v => v.asText?.bind fun s => ofText? s.toList

end Moment
end TableQuery.Qdrant
