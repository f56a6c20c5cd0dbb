import TableQuery.Number.Decimal
import TableQuery.Text.Digit

/-!
# Written numbers

Numbers as a client writes them: with the digits of any script and with blanks around them. Whole
numbers are read up to a number of digits, double-precision numbers are rounded to nearest, and
decimal numbers are kept as they are written.
-/
namespace TableQuery

def greatestWhole : Nat := 4300

/-- Reads a whole number: a sign and digits, with a low line between two of them at most. -/
def wholeOfText? (text : String) : Option Int := do
  let (negative, digits) := Numeral.scanSign (← Text.plainNumber text)
  match Numeral.scanDigits 0 0 digits with
  | (value, _ + 1, []) =>
    if (digits.filter (· ≠ '_')).length ≤ greatestWhole then
      some (if negative then -(value : Int) else value)
    else none
  | _ => none

def Binary64.ofText? (text : String) : Option Binary64 :=
  (Text.plainNumber text).bind Binary64.ofChars?

def Decimal.ofText? (text : String) : Option Decimal :=
  (Text.plainDecimal text).bind Decimal.ofChars?

end TableQuery
