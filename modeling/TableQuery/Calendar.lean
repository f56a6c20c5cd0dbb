import TableQuery.Number.Numeral

/-!
# Dates and times of day

Dates of the Gregorian calendar, extended backwards, and times with microseconds, with or without
an offset from UTC. The written form is `2024-02-29T10:20:30.000120+00:00`. Two times with offsets
are the same when they name the same instant, two without when they are written alike; a time with
and one without an offset never are.
-/
namespace TableQuery

structure Date where
  year : Nat
  month : Nat
  day : Nat
  deriving DecidableEq

/-- A date with a time of day; `offset` is in microseconds east of UTC. -/
structure Datetime where
  date : Date
  hour : Nat
  minute : Nat
  second : Nat
  micro : Nat
  offset : Option Int
  deriving DecidableEq

namespace Calendar

def isLeap (year : Nat) : Bool := year % 4 = 0 ∧ (year % 100 ≠ 0 ∨ year % 400 = 0)

def daysInMonth (year month : Nat) : Nat :=
  match month with
  | 2 => if isLeap year then 29 else 28
  | 4 | 6 | 9 | 11 => 30
  | _ => 31

def padded (width n : Nat) : List Char :=
  let digits := decimalDigits n
  List.replicate (width - digits.length) '0' ++ digits

end Calendar

open Calendar

namespace Date

def exists? (d : Date) : Bool :=
  1 ≤ d.year ∧ d.year ≤ 9999 ∧ 1 ≤ d.month ∧ d.month ≤ 12 ∧ 1 ≤ d.day ∧
    d.day ≤ daysInMonth d.year d.month

/-- The number of days up to and including this one, the first day of year 1 being day 1. -/
def ordinal (d : Date) : Nat :=
  let y := d.year - 1
  365 * y + y / 4 - y / 100 + y / 400 +
    ((List.range (d.month - 1)).map fun m => daysInMonth d.year (m + 1)).foldl (· + ·) 0 + d.day

/-- The date of an ordinal. A year is counted from its first of March, so that a leap day ends it; a
day is looked for in its span of four hundred years, then in its year, then in its month. -/
def ofOrdinal (ordinal : Nat) : Date :=
  let n := ordinal + 305
  let ofEra := n % 146097
  let year := (ofEra - ofEra / 1460 + ofEra / 36524 - ofEra / 146096) / 365
  let ofYear := ofEra - (365 * year + year / 4 - year / 100)
  let month := (5 * ofYear + 2) / 153
  let day := ofYear - (153 * month + 2) / 5 + 1
  let years := 400 * (n / 146097) + year
  if month < 10 then ⟨years, month + 3, day⟩ else ⟨years + 1, month - 9, day⟩

def chars (d : Date) : List Char :=
  padded 4 d.year ++ '-' :: padded 2 d.month ++ '-' :: padded 2 d.day

def display (d : Date) : String := String.ofList d.chars

end Date

namespace Datetime

/-- An offset as written: hours and minutes, seconds and a fraction only if there are some. -/
def offsetChars (offset : Int) : List Char :=
  let n := offset.natAbs
  let seconds := n / 1000000
  (if offset < 0 then '-' else '+') :: padded 2 (seconds / 3600) ++
    ':' :: padded 2 (seconds / 60 % 60) ++
    (if n % 60000000 = 0 then [] else ':' :: padded 2 (seconds % 60)) ++
    (if n % 1000000 = 0 then [] else '.' :: padded 6 (n % 1000000))

def written (separator : Char) (t : Datetime) : String :=
  String.ofList <| t.date.chars ++ separator :: padded 2 t.hour ++ ':' :: padded 2 t.minute ++
    ':' :: padded 2 t.second ++ (if t.micro = 0 then [] else '.' :: padded 6 t.micro) ++
    (match t.offset with | none => [] | some offset => offsetChars offset)

def isoText (t : Datetime) : String := t.written 'T'

def display (t : Datetime) : String := t.written ' '

def faceMicros (t : Datetime) : Int :=
  (((t.date.ordinal * 24 + t.hour) * 60 + t.minute) * 60 + t.second) * 1000000 + t.micro

def instant? (t : Datetime) : Option Int :=
  t.offset.map fun offset => t.faceMicros - offset

def ofFaceMicros? (micros : Int) : Option Datetime :=
  let seconds := (micros / 1000000).toNat
  let date := Date.ofOrdinal (seconds / 86400)
  if 0 < micros ∧ date.exists? then
    some ⟨date, seconds / 3600 % 24, seconds / 60 % 60, seconds % 60, (micros % 1000000).toNat,
      some 0⟩
  else none

def same (a b : Datetime) : Bool :=
  match a.instant?, b.instant? with
  | some i, some j => i = j
  | none, none => a = b
  | _, _ => false

end Datetime
end TableQuery
