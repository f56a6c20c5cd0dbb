import TableQuery.Fault
import TableQuery.Text.Quoted

/-!
# Values as text

`literal` shows a value so that its kind can be told, texts between quotes; messages use it.
`display` shows a value plainly, a text as it is; text comparisons use it. A whole number with too
many digits and a comparison without the operands its operator needs have no text.
-/
namespace TableQuery
namespace Value

def listed (parts : List String) : String := ", ".intercalate parts

def literalBool (b : Bool) : String := if b then "True" else "False"

def greatestDigits : Nat := 4300

def leastUnshown : Nat := Nat.pow 10 greatestDigits

def literalInt (n : Int) : Except Fault String :=
  if n.natAbs < leastUnshown then .ok (toString n) else .error .badValue

def literalDate (d : Date) : String :=
  s!"datetime.date({d.year}, {d.month}, {d.day})"

/-- An offset from UTC: whole days first, so that the rest is never negative. -/
def literalOffset (offset : Int) : String :=
  if offset = 0 then "datetime.timezone.utc"
  else
    let part (name : String) (n : Int) : List String :=
      if n = 0 then [] else [name ++ "=" ++ toString n]
    let parts := part "days" (Int.fdiv offset 86400000000) ++
      part "seconds" (Int.fdiv (Int.fmod offset 86400000000) 1000000) ++
      part "microseconds" (Int.fmod offset 1000000)
    "datetime.timezone(datetime.timedelta(" ++ listed parts ++ "))"

/-- Seconds are left out when nothing but zeros would follow, microseconds when they are zero. -/
def literalDatetime (t : Datetime) : String :=
  let tail :=
    if t.micro ≠ 0 then [t.second, t.micro] else if t.second ≠ 0 then [t.second] else []
  let clock := [t.date.year, t.date.month, t.date.day, t.hour, t.minute] ++ tail
  let zone := match t.offset with
    | none => []
    | some offset => ["tzinfo=" ++ literalOffset offset]
  "datetime.datetime(" ++ listed (clock.map toString ++ zone) ++ ")"

def literalMode (m : MatchMode) : String := s!"<MatchMode.{m.label}: '{m.name}'>"

def literalConnective (c : Connective) : String := s!"<FilterOperator.{c.label}: '{c.name}'>"

def literalCategory (c : Category) : String := s!"<FieldValueCategory.{c.label}: '{c.name}'>"

def literalMode? : Option MatchMode → String
  | none => "None"
  | some m => literalMode m

def literalConnective? : Option Connective → String
  | none => "None"
  | some c => literalConnective c

def comparisonText (target : Except Fault String) (o : Operator) (foldsCase : Bool)
    (operands : List (Except Fault String)) : Except Fault String := do
  let shown ← target
  let target := if foldsCase then "lower(" ++ shown ++ ")" else shown
  match o, operands with
  | .isIn, items => do
    let items ← items.mapM id
    .ok (target ++ " in [" ++ listed items ++ "]")
  | .between, low :: high :: _ => do
    let low ← low
    let high ← high
    .ok (target ++ " between " ++ low ++ " and " ++ high)
  | .between, [low] => do
    let _ ← low
    .error .placeMissing
  | o, item :: _ => do
    let item ← item
    .ok (target ++ " " ++ o.name ++ " " ++ item)
  | _, [] => .error .placeMissing

mutual

def shown (plainly : Bool) : Value → Except Fault String
  | null => .ok "None"
  | bool b => .ok (literalBool b)
  | int n => literalInt n
  | float x => .ok x.display
  | decimal d => .ok (if plainly then d.display else "Decimal('" ++ d.display ++ "')")
  | text s => .ok (if plainly then s else String.ofList (Text.quoted s.toList))
  | bytes octets => .ok (String.ofList (Text.quotedOctets (octets.map UInt8.toNat)))
  | date d => .ok (if plainly then d.display else literalDate d)
  | datetime t => .ok (if plainly then t.display else literalDatetime t)
  | list items => do
    let parts ← (shownAll items).mapM id
    .ok ("[" ++ listed parts ++ "]")
  | tuple items => do
    let parts ← (shownAll items).mapM id
    .ok ("(" ++ listed parts ++ (if items.length = 1 then ",)" else ")"))
  | set [] => .ok "set()"
  | set items => do
    let parts ← (shownAll items).mapM id
    .ok ("\x7b" ++ listed parts ++ "\x7d")
  | frozenset [] => .ok "frozenset()"
  | frozenset items => do
    let parts ← (shownAll items).mapM id
    .ok ("frozenset(\x7b" ++ listed parts ++ "\x7d)")
  | map entries => do
    let parts ← (shownEntries entries).mapM id
    .ok ("\x7b" ++ listed parts ++ "\x7d")
  | mode m => .ok (if plainly then "MatchMode." ++ m.label else literalMode m)
  | connective c => .ok (if plainly then "FilterOperator." ++ c.label else literalConnective c)
  | category c => .ok (if plainly then "FieldValueCategory." ++ c.label else literalCategory c)
  | sortKey field direction => do
    let direction ← match direction with
      | none => .ok "None"
      | some n => literalInt n
    .ok ("SortCriterion(field=" ++ String.ofList (Text.quoted field.toList) ++ ", direction=" ++
      direction ++ ")")
  | criterion value m c => do
    let value ← shown false value
    .ok ("FilterCriterion(value=" ++ value ++ ", match_mode=" ++ literalMode? m ++ ", operator=" ++
      literalConnective? c ++ ")")
  | comparison field o operands foldsCase =>
    comparisonText (shown true field) o foldsCase (shownAll operands)
  | junction how parts => do
    let parts ← (shownAll parts).mapM id
    .ok (how.name ++ "([" ++ listed parts ++ "])")
  | bare o => .ok ("<" ++ o.name ++ ">")

def shownAll : List Value → List (Except Fault String)
  | [] => []
  | v :: rest => shown false v :: shownAll rest

def shownEntries : List (Value × Value) → List (Except Fault String)
  | [] => []
  | (k, v) :: rest =>
    (do
      let key ← shown false k
      let value ← shown false v
      .ok (key ++ ": " ++ value)) :: shownEntries rest

end

def literal (v : Value) : Except Fault String := shown false v

def display (v : Value) : Except Fault String := shown true v

def literals (vs : List Value) : Except Fault (List String) := vs.mapM literal

end Value
end TableQuery
