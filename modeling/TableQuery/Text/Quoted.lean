import TableQuery.Text.PrintableTable
import TableQuery.Text.CaseTable

/-!
# Quoted texts

A text is shown between single quotes, or between double quotes when it holds a single quote and no
double one. The quote in use and the backslash are escaped, and so is every character without a
visible form, by its code point in hexadecimal digits. Octets are shown likewise behind a `b`.
-/
namespace TableQuery.Text

def isPrintable (c : Char) : Bool := !inRanges c.toNat unprintableRanges

def hexPadded : (width n : Nat) → List Char
  | 0, _ => []
  | width + 1, n => hexPadded width (n / 16) ++ [Nat.digitChar (n % 16)]

def shortEscape? (n : Nat) : Option Char :=
  match n with
  | 9 => some 't'
  | 10 => some 'n'
  | 13 => some 'r'
  | _ => none

def quoteFor (text : List Char) : Char :=
  if text.contains '\'' && !text.contains '"' then '"' else '\''

def escaped (quote c : Char) : List Char :=
  let n := c.toNat
  if c = quote ∨ c = '\\' then ['\\', c]
  else match shortEscape? n with
    | some e => ['\\', e]
    | none =>
      if isPrintable c then [c]
      else if n < 0x100 then '\\' :: 'x' :: hexPadded 2 n
      else if n < 0x10000 then '\\' :: 'u' :: hexPadded 4 n
      else '\\' :: 'U' :: hexPadded 8 n

def quoted (text : List Char) : List Char :=
  let quote := quoteFor text
  quote :: text.flatMap (escaped quote) ++ [quote]

def escapedOctet (quote : Char) (n : Nat) : List Char :=
  let c := Char.ofNat n
  if c = quote ∨ c = '\\' then ['\\', c]
  else match shortEscape? n with
    | some e => ['\\', e]
    | none => if 0x20 ≤ n ∧ n < 0x7F then [c] else '\\' :: 'x' :: hexPadded 2 n

def quotedOctets (octets : List Nat) : List Char :=
  let quote := quoteFor (octets.map Char.ofNat)
  'b' :: quote :: octets.flatMap (escapedOctet quote) ++ [quote]

end TableQuery.Text
