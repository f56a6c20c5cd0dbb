import TableQuery.Value.Basic

/-!
# Fingerprints

A fingerprint is what two equal values have in common, so that they can stand for each other as keys
of a table. A number is taken modulo the prime `2 ^ 61 - 1`, whatever its kind; texts and octets are
taken by the bytes they are stored in; the members of the vocabulary by their labels. A row of
numbers is mixed into one number of 64 bits; a row with anything else in it is known by its parts.
So is a set, whose parts have no order.
Lists, sets and maps have no fingerprint and cannot be keys, and neither has a number that signals.
A number that is none has a fingerprint of its own each time.
-/
namespace TableQuery

inductive Fingerprint where
  | nothing
  | number (bits : UInt64)
  | octets (bytes : List Nat)
  | row (parts : List Fingerprint)
  | bag (parts : List Fingerprint)
  | unique

namespace Fingerprint

mutual

def agrees : Fingerprint → Fingerprint → Bool
  | nothing, nothing => true
  | number a, number b => a = b
  | octets a, octets b => a = b
  | row a, row b => agreeAll a b
  | bag a, bag b => agreeInAnOrder a b
  | _, _ => false

def agreeAll : List Fingerprint → List Fingerprint → Bool
  | [], [] => true
  | a :: as, b :: bs => agrees a b && agreeAll as bs
  | _, _ => false

def agreeInAnOrder : List Fingerprint → List Fingerprint → Bool
  | [], bs => bs.isEmpty
  | a :: as, bs =>
    (List.range bs.length).any fun i => bs[i]?.any (agrees a) && agreeInAnOrder as (bs.eraseIdx i)

end

def numbers? : List Fingerprint → Option (List UInt64)
  | [] => some []
  | number b :: rest => (numbers? rest).map (b :: ·)
  | _ :: _ => none

/-- One lane of a row mixed into what came before it: multiplied, turned by 31 bits, multiplied. -/
def mixLane (mixed lane : UInt64) : UInt64 :=
  let sum := mixed + lane * 14029467366897019727
  ((sum <<< 31) ||| (sum >>> 33)) * 11400714785074694791

def rowSeed : UInt64 := 2870177450012600261

def rowEnd : UInt64 := rowSeed ^^^ 3527539

/-- A row of numbers as one number; all bits set is no number of a row. -/
def mixRow (lanes : List UInt64) : UInt64 :=
  let mixed := lanes.foldl mixLane rowSeed + (UInt64.ofNat lanes.length ^^^ rowEnd)
  if mixed = 18446744073709551615 then 1546275796 else mixed

def spread (bits : UInt64) : UInt64 :=
  ((bits ^^^ (89869747 : UInt64)) ^^^ (bits <<< 16)) * 3644798167

def mixBag (members : List UInt64) : UInt64 :=
  let joined := members.foldl (fun (mixed bits : UInt64) => mixed ^^^ spread bits) 0
  let sized := joined ^^^ ((UInt64.ofNat members.length + 1) * 1927868237)
  let mixed := (sized ^^^ ((sized >>> 11) ^^^ (sized >>> 25))) * 69069 + 907133923
  if mixed = 18446744073709551615 then 590923713 else mixed

def ofRow (parts : List Fingerprint) : Fingerprint :=
  match numbers? parts with
  | some lanes => number (mixRow lanes)
  | none => row parts

def ofBag (parts : List Fingerprint) : Fingerprint :=
  match numbers? parts with
  | some members => number (mixBag members)
  | none => bag parts

def modulus : Nat := Nat.pow 2 61 - 1

def powMod (b e : Nat) : (bits : Nat) → Nat
  | 0 => 1
  | bits + 1 =>
    let rest := powMod (b * b % modulus) (e / 2) bits
    if e % 2 = 1 then rest * b % modulus else rest

/-- The power of ten modulo the prime; a negative one is a power of the inverse of ten. -/
def tenTo (e : Int) : Nat :=
  let base := if e < 0 then powMod 10 (modulus - 2) 61 else 10
  powMod base e.natAbs (e.natAbs.log2 + 1)

/-- A signed number as bits; minus one is set aside and shares the bits of minus two. -/
def ofResidue (n : Int) : Fingerprint := number (UInt64.ofInt (if n = -1 then -2 else n))

def ofScaled (c e : Int) : Fingerprint :=
  let r : Int := (c.natAbs % modulus) * tenTo e % modulus
  ofResidue (if c < 0 then -r else r)

def infinity : Int := 314159

/-- The fingerprint of stored bytes; no bytes at all count as zero. -/
def ofBytes (bytes : List Nat) : Fingerprint :=
  if bytes = [] then ofResidue 0 else octets bytes

def lowBytes : (width n : Nat) → List Nat
  | 0, _ => []
  | width + 1, n => n % 256 :: lowBytes width (n / 256)

/-- A text is stored with as many bytes to a character as its largest one needs. -/
def ofText (text : List Char) : Fingerprint :=
  let codes := text.map Char.toNat
  let greatest := codes.foldl max 0
  let width := if greatest < 0x100 then 1 else if greatest < 0x10000 then 2 else 4
  ofBytes (codes.flatMap (lowBytes width))

def ofLabel (label : String) : Fingerprint := ofText label.toList

def ofBool (b : Bool) : Fingerprint := ofResidue (if b then 1 else 0)

def ofInt (n : Int) : Fingerprint := ofScaled n 0

def ofDate (d : Date) : Fingerprint :=
  ofBytes [d.year / 256, d.year % 256, d.month, d.day]

/-- A time without an offset is taken by its stored fields, one with an offset by its instant. -/
def ofDatetime (t : Datetime) : Fingerprint :=
  match t.instant? with
  | none =>
    ofBytes [t.date.year / 256, t.date.year % 256, t.date.month, t.date.day, t.hour, t.minute,
      t.second, t.micro / 65536, t.micro / 256 % 256, t.micro % 256]
  | some instant =>
    let seconds := Int.fdiv instant 1000000
    ofRow [ofInt (Int.fdiv seconds 86400), ofInt (Int.fmod seconds 86400),
      ofInt (Int.fmod instant 1000000)]

def ofLabel? : Option String → Fingerprint
  | none => nothing
  | some label => ofLabel label

end Fingerprint

namespace Value

open Fingerprint in
def Magnitude.fingerprint? : Magnitude → Option Fingerprint
  | .finite c e => some (ofScaled c e)
  | .infinite false => some (ofResidue infinity)
  | .infinite true => some (ofResidue (-infinity))
  | .notANumber => some unique
  | .signal => none

mutual

def fingerprint? : Value → Option Fingerprint
  | null => some .nothing
  | text s => some (.ofText s.toList)
  | bytes octets => some (.ofBytes (octets.map UInt8.toNat))
  | date d => some (.ofDate d)
  | datetime t => some (.ofDatetime t)
  | list _ | set _ | map _ => none
  | tuple items => (fingerprints? items).map .ofRow
  | frozenset items => (fingerprints? items).map .ofBag
  | mode m => some (.ofLabel m.label)
  | connective c => some (.ofLabel c.label)
  | category c => some (.ofLabel c.label)
  | sortKey field direction =>
    some (.ofRow [.ofText field.toList, (direction.map Fingerprint.ofInt).getD .nothing])
  | criterion value m c =>
    (fingerprint? value).map fun f =>
      .ofRow [f, .ofLabel? (m.map MatchMode.label), .ofLabel? (c.map Connective.label)]
  | comparison field o operands foldsCase =>
    match fingerprint? field, fingerprints? operands with
    | some f, some fs => some (.ofRow [f, .ofLabel o.label, .ofRow fs, .ofBool foldsCase])
    | _, _ => none
  | junction how parts =>
    (fingerprints? parts).map fun fs => .ofRow [.ofLabel how.operator.label, .ofRow fs]
  | bare _ => some .unique
  | v => v.magnitude?.bind Magnitude.fingerprint?

def fingerprints? : List Value → Option (List Fingerprint)
  | [] => some []
  | v :: rest =>
    match fingerprint? v, fingerprints? rest with
    | some f, some fs => some (f :: fs)
    | _, _ => none

end

def isKey (v : Value) : Bool := v.fingerprint?.isSome

end Value
end TableQuery
