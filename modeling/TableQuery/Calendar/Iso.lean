import TableQuery.Calendar

/-!
# Reading dates and times

Dates are read in the forms `2024-02-29` and `2024-W09-4`, where the day of a week may be left out,
with or without the lines between the parts. A time follows after any one character: hours, then
minutes, seconds and a fraction as far as they are given, with or without colons, then perhaps `Z`
or an offset, which is a time behind a sign. Digits are the ASCII ones.
-/
namespace TableQuery

namespace Calendar

def isDigit (c : Char) : Bool := (Numeral.digit? c).isSome

def readDigits (value : Nat) : (width : Nat) → List Char → Option (Nat × List Char)
  | 0, rest => some (value, rest)
  | width + 1, c :: rest =>
    match Numeral.digit? c with
    | some d => readDigits (10 * value + d) width rest
    | none => none
  | _ + 1, [] => none

def readLine (lined : Bool) (text : List Char) : Option (List Char) :=
  if lined then
    match text with
    | '-' :: rest => some rest
    | _ => none
  else some text

end Calendar

open Calendar

namespace Date

def ofParts? (year month day : Nat) : Option Date :=
  let d : Date := ⟨year, month, day⟩
  if d.exists? then some d else none

def weekday (ordinal : Nat) : Nat := (ordinal + 6) % 7

/-- Whether a year has a week 53: it begins on a Thursday, or is a leap year and begins on a
Wednesday. -/
def hasLongCount (year : Nat) : Bool :=
  let first := weekday (ordinal ⟨year, 1, 1⟩)
  first = 3 || (first = 2 && isLeap year)

/-- The ordinal before the first Monday that a year counts its weeks from; the week of the fourth of
January is the first. -/
def weekOrigin (year : Nat) : Int :=
  let first := ordinal ⟨year, 1, 1⟩
  let back : Int := weekday first
  if 3 < back then first - back + 7 else first - back

def ofWeek? (year week day : Nat) : Option Date :=
  if 1 ≤ year ∧ 1 ≤ week ∧ (week ≤ 52 ∨ (week = 53 ∧ hasLongCount year)) ∧ 1 ≤ day ∧ day ≤ 7 then
    let ordinal := weekOrigin year + (7 * (week - 1) + (day - 1) : Nat)
    if 1 ≤ ordinal then
      let d := ofOrdinal ordinal.toNat
      if d.exists? then some d else none
    else none
  else none

def scanWeek (year : Nat) (lined : Bool) (more : Bool) (text : List Char) : Option Date := do
  let (week, rest) ← readDigits 0 2 text
  if more then
    let (day, _) ← readDigits 0 1 (← readLine lined rest)
    ofWeek? year week day
  else ofWeek? year week 1

/-- Reads a date in front of a text; `length` characters are known to belong to it, which tells
whether a day of a week is given. -/
def scan (length : Nat) (text : List Char) : Option Date := do
  let (year, rest) ← readDigits 0 4 text
  let lined := rest.head? = some '-'
  let rest ← readLine lined rest
  match rest with
  | 'W' :: rest => scanWeek year lined ((if lined then 8 else 7) < length) rest
  | rest =>
    let (month, rest) ← readDigits 0 2 rest
    let (day, _) ← readDigits 0 2 (← readLine lined rest)
    ofParts? year month day

/-- Reads a date that stands alone. Texts of any other length than those of the known forms are
refused; what follows a short form within such a length is passed over. -/
def ofText? (text : String) : Option Date :=
  let length := text.utf8ByteSize
  if length = 7 ∨ length = 8 ∨ length = 10 then scan length text.toList else none

end Date

namespace Datetime

/-- How many characters in front of a time belong to its date. Where week and time cannot be told
apart by their marks, a line behind the week is taken to lead to a time, and digits are divided so
that the time has an even number of them. -/
def dateLength (text : List Char) : Nat :=
  if text.length = 7 then 7
  else
    match text.drop 4 with
    | '-' :: 'W' :: rest =>
      if rest[2]? = some '-' then
        if (rest[4]?.map isDigit).getD false then 8 else 10
      else 8
    | '-' :: _ => 10
    | 'W' :: rest =>
      let digits := 5 + (rest.takeWhile isDigit).length
      if digits < 9 then digits else if digits % 2 = 0 then 7 else 8
    | _ => 8

structure Clock where
  hour : Nat
  minute : Nat
  second : Nat
  micro : Nat
  rest : List Char

/-- Reads a fraction of a second, in microseconds: up to six digits count, further ones are passed
over. -/
def scanFraction (text : List Char) : Option (Nat × List Char) := do
  let width := min 6 text.length
  let (value, rest) ← readDigits 0 width text
  some (value * Nat.pow 10 (6 - width), rest.dropWhile isDigit)

inductive Follow where
  | finished (rest : List Char)
  | another (rest : List Char)
  | fraction (rest : List Char)

/-- Decides what follows a part of a time: another part, behind a colon if colons are in use, or a
fraction behind a point or a comma. One character of ASCII alone leads nowhere and is left. -/
def follow (colons : Bool) : List Char → Option Follow
  | [] => some (.finished [])
  | [c] => if c.toNat < 0x80 then some (.finished [c]) else none
  | c :: rest =>
    if colons && c = ':' then some (.another rest)
    else if c = '.' ∨ c = ',' then some (.fraction rest)
    else if colons then none
    else some (.another (c :: rest))

def scanClock (text : List Char) : Option Clock := do
  let (hour, rest) ← readDigits 0 2 text
  let colons := rest.head? = some ':'
  match ← follow colons rest with
  | .finished rest => some ⟨hour, 0, 0, 0, rest⟩
  | .fraction rest =>
    let (micro, rest) ← scanFraction rest
    some ⟨hour, 0, 0, micro, rest⟩
  | .another rest =>
    let (minute, rest) ← readDigits 0 2 rest
    match ← follow colons rest with
    | .finished rest => some ⟨hour, minute, 0, 0, rest⟩
    | .fraction rest =>
      let (micro, rest) ← scanFraction rest
      some ⟨hour, minute, 0, micro, rest⟩
    | .another rest =>
      let (second, rest) ← readDigits 0 2 rest
      match ← follow colons rest with
      | .finished rest => some ⟨hour, minute, second, 0, rest⟩
      | .fraction rest | .another rest =>
        let (micro, rest) ← scanFraction rest
        some ⟨hour, minute, second, micro, rest⟩

/-- An offset from UTC in microseconds; it is less than a day. An offset without whole seconds is
none. -/
def offsetOf? (negative : Bool) (c : Clock) : Option Int :=
  let seconds := (c.hour * 60 + c.minute) * 60 + c.second
  let micros := if seconds = 0 then 0 else seconds * 1000000 + c.micro
  if micros < 86400000000 then some (if negative then -(micros : Int) else micros) else none

def scanOffset : List Char → Option Int
  | ['Z'] => some 0
  | c :: rest =>
    if c = '+' ∨ c = '-' then
      match scanClock rest with
      | some clock => if clock.rest = [] then offsetOf? (c = '-') clock else none
      | none => none
    else none
  | [] => none

def beginsOffset (c : Char) : Bool := c = '+' || c = '-' || c = 'Z'

def ofClock? (date : Date) (c : Clock) (offset : Option Int) : Option Datetime :=
  if c.hour < 24 ∧ c.minute < 60 ∧ c.second < 60 then
    some ⟨date, c.hour, c.minute, c.second, c.micro, offset⟩
  else none

/-- Reads the time of a date. What is left of the face in front of an offset is passed over. -/
def scanTime (date : Date) (text : List Char) : Option Datetime := do
  let face := text.takeWhile fun c => !beginsOffset c
  let clock ← scanClock face
  match text.dropWhile fun c => !beginsOffset c with
  | [] => if clock.rest = [] then ofClock? date clock none else none
  | zone =>
    let offset ← scanOffset zone
    ofClock? date clock (some offset)

def ofText? (text : String) : Option Datetime :=
  let chars := text.toList
  let length := dateLength chars
  match Date.scan length chars with
  | none => none
  | some date =>
    match chars.drop length with
    | [] => some ⟨date, 0, 0, 0, 0, none⟩
    | _ :: rest => scanTime date rest

end Datetime
end TableQuery
