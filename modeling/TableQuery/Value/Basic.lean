import TableQuery.Number.Decimal
import TableQuery.Number.Shortest
import TableQuery.Calendar
import TableQuery.Vocabulary

/-!
# Values

What a client may send, a column may hold and a statement may bind; conditions are values too. A map
keeps its entries in the order they were written. Sets are written with one element at most, so
their order never shows.
-/
namespace TableQuery

inductive Value where
  | null
  | bool (b : Bool)
  | int (n : Int)
  | float (x : Binary64)
  | decimal (d : Decimal)
  | text (s : String)
  | bytes (octets : List UInt8)
  | date (d : Date)
  | datetime (t : Datetime)
  | list (items : List Value)
  | tuple (items : List Value)
  | set (items : List Value)
  | frozenset (items : List Value)
  | map (entries : List (Value × Value))
  | mode (m : MatchMode)
  | connective (c : Connective)
  | category (c : Category)
  | sortKey (field : String) (direction : Option Int)
  | criterion (value : Value) (mode : Option MatchMode) (connective : Option Connective)
  | comparison (field : Value) (operator : Operator) (operands : List Value) (foldsCase : Bool)
  | junction (how : Connective) (parts : List Value)
  /-- Something that carries an operator and nothing else. -/
  | bare (operator : Operator)

namespace Value

instance : Inhabited Value := ⟨null⟩

def kindName : Value → String
  | null => "NoneType"
  | bool _ => "bool"
  | int _ => "int"
  | float _ => "float"
  | decimal _ => "Decimal"
  | text _ => "str"
  | bytes _ => "bytes"
  | date _ => "date"
  | datetime _ => "datetime"
  | list _ => "list"
  | tuple _ => "tuple"
  | set _ => "set"
  | frozenset _ => "frozenset"
  | map _ => "dict"
  | mode _ => "MatchMode"
  | connective _ => "FilterOperator"
  | category _ => "FieldValueCategory"
  | sortKey _ _ => "SortCriterion"
  | criterion _ _ _ => "FilterCriterion"
  | comparison _ _ _ _ => "Comparison"
  | junction _ _ => "Junction"
  | bare _ => "Duck"

/-- Whether a value counts as given: zero, the empty text and the empty collections do not. -/
def truthy : Value → Bool
  | null => false
  | bool b => b
  | int n => n ≠ 0
  | float x => !x.isZero
  | decimal d => !d.isZero
  | text s => s ≠ ""
  | bytes octets => !octets.isEmpty
  | list items | tuple items | set items | frozenset items => !items.isEmpty
  | map entries => !entries.isEmpty
  | _ => true

def isSequence : Value → Bool
  | list _ | tuple _ | set _ | frozenset _ => true
  | _ => false

def isMap : Value → Bool
  | map _ => true
  | _ => false

/-- A number that values of different kinds may stand for. A finite one is `coefficient · 10 ^
exponent`; as built by `Magnitude.scaled`, equal numbers have equal parts. -/
inductive Magnitude where
  | finite (coefficient exponent : Int)
  | infinite (negative : Bool)
  | notANumber
  /-- No number, and not to be passed on quietly. -/
  | signal
  deriving DecidableEq

/-- Moves zeros at the end of a coefficient into the count of them; `fuel` bounds their number. -/
def trimZeros : (fuel coefficient count : Nat) → Nat × Nat
  | 0, c, k => (c, k)
  | fuel + 1, c, k => if c % 10 = 0 then trimZeros fuel (c / 10) (k + 1) else (c, k)

def Magnitude.scaled (negative : Bool) (coefficient : Nat) (exponent : Int) : Magnitude :=
  if coefficient = 0 then .finite 0 0
  else
    let (c, k) := trimZeros (coefficient.log2 + 1) coefficient 0
    .finite (if negative then -(c : Int) else c) (exponent + k)

def Magnitude.ofBinary64 : Binary64 → Magnitude
  | .finite s m e =>
    if e < 0 then .scaled s (m * Nat.pow 5 e.natAbs) e else .scaled s (m * Nat.pow 2 e.natAbs) 0
  | .infinite s => .infinite s
  | .notANumber => .notANumber

def Magnitude.ofDecimal : Decimal → Magnitude
  | .finite n => .scaled n.negative n.coefficient n.exponent
  | .infinite s => .infinite s
  | .notANumber _ false _ => .notANumber
  | .notANumber _ true _ => .signal

/-- The number behind a value; truth values count as zero and one. -/
def magnitude? : Value → Option Magnitude
  | bool b => some (.scaled false (if b then 1 else 0) 0)
  | int n => some (.scaled (n < 0) n.natAbs 0)
  | float x => some (.ofBinary64 x)
  | decimal d => some (.ofDecimal d)
  | _ => none

end Value
end TableQuery
