import TableQuery.Value.Literal

/-!
# Texts of faults

A fault that names its cause is reported with a text that shows the values in question. A value may
have no text of its own; then the fault of showing it takes the place of the fault to be reported,
which is what `Fault.raise` does.
-/
namespace TableQuery

namespace Malformed

def message : Malformed → Except Fault String
  | modeNotText v => v.literal.map ("Match mode must be a string, got " ++ ·)
  | unknownMode name => .ok ("Unknown match mode: " ++ name)
  | connectiveNotText v => v.literal.map ("Filter operator must be a string, got " ++ ·)
  | unknownConnective name => .ok ("Unknown filter operator: " ++ name)
  | sortFieldNotName v => v.literal.map ("Sort field must be a non-empty string, got " ++ ·)
  | directionNotWhole v => v.literal.map ("Sort direction must be an integer, got " ++ ·)
  | sortEntryNotMap kind => .ok ("Sort entries must be objects, got " ++ kind)
  | criterionNotMap kind => .ok ("Filter entries must be objects, got " ++ kind)
  | notWhole part v => v.literal.map (part ++ " must be an integer, got " ++ ·)
  | negative part n => (Value.int n).literal.map (part ++ " must be non-negative, got " ++ ·)
  | sortKeyExpected kind => .ok ("Expected SortCriterion, got " ++ kind)
  | criteriaNotMap => .ok "field_criteria must be a mapping"
  | fieldNotText v => v.literal.map ("Filter keys must be strings, got " ++ ·)
  | criterionExpected field kind =>
    .ok ("Expected FilterCriterion for " ++ field ++ ", got " ++ kind)
  | payloadNotMap kind => .ok ("Expected an object, got " ++ kind)
  | sortFieldsNotList => .ok "sortFields must be a list"
  | filtersNotMap => .ok "filters must be an object"
  | entriesNotList field => field.display.map fun s => "Criteria for " ++ s ++ " must be a list"

end Malformed

namespace Misshapen

def message : Misshapen → Except Fault String
  | notText v => v.literal.map ("expected a text value, got " ++ ·)
  | notPair v => v.literal.map ("expected exactly 2 bounds, got " ++ ·)
  | notMany v => v.literal.map ("expected a list of values, got " ++ ·)
  | notSingle v => v.literal.map ("expected a single value, got " ++ ·)
  | missing => .ok "a value is required"

end Misshapen

namespace Refuser

def name : Refuser → String
  | sqlite => "SQLite"
  | qdrant => "Qdrant"
  | qdrantTextRanges => "Qdrant (text ranges)"
  | qdrantAffixPatterns => "Qdrant (prefix/suffix patterns)"

end Refuser

namespace Fault

def message : Fault → Except Fault (Option String)
  | malformed cause => cause.message.map some
  | unresolved field => field.display.map fun s => some ("Unable to resolve field: " ++ s)
  | modeRefused field mode category =>
    field.display.map fun s =>
      some ("Match mode " ++ mode.name ++ " is not supported for " ++ category.name ++ " field " ++
        s)
  | misshapen field mode cause => do
    let shown ← cause.message
    let name ← field.display
    .ok (some ("Invalid value for " ++ name ++ " (" ++ mode.name ++ "): " ++ shown))
  | operatorRefused operator refuser =>
    .ok (some ("Operator " ++ operator.name ++ " is not supported by " ++ refuser.name))
  | notLogical operator => .ok (some ("Not a logical operator: " ++ operator.name))
  | _ => .ok none

def raise {α : Type} (f : Fault) : Except Fault α :=
  match f.message with
  | .ok _ => .error f
  | .error g => .error g

end Fault

def Malformed.raise {α : Type} (cause : Malformed) : Except Fault α :=
  (Fault.malformed cause).raise

end TableQuery
