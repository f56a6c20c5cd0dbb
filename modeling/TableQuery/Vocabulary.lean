/-!
# The fixed vocabulary

The names a table client may use for a comparison and for the way criteria combine, and the kinds of
value a field can hold. Each word has the name it is written with and the label it is shown with.
-/
namespace TableQuery

inductive MatchMode where
  | equals | notEquals
  | contains | notContains | startsWith | endsWith
  | lt | lte | gt | gte
  | between | isIn
  deriving DecidableEq

inductive Connective where
  | all | any
  deriving DecidableEq

/-- The kind of value a field holds. Text is folded and searched, ordered values are compared,
opaque ones can only be equal. -/
inductive Category where
  | text | ordered | opaqueKind
  deriving DecidableEq

/-- The operators of a condition: ten compare a field with operands, the last two combine. -/
inductive Operator where
  | eq | ne | lt | lte | gt | gte
  | between | isIn
  | like | notLike
  | and | or
  deriving DecidableEq

namespace MatchMode

def name : MatchMode → String
  | equals => "equals"
  | notEquals => "notEquals"
  | contains => "contains"
  | notContains => "notContains"
  | startsWith => "startsWith"
  | endsWith => "endsWith"
  | lt => "lt"
  | lte => "lte"
  | gt => "gt"
  | gte => "gte"
  | between => "between"
  | isIn => "in"

def label : MatchMode → String
  | equals => "EQUALS"
  | notEquals => "NOT_EQUALS"
  | contains => "CONTAINS"
  | notContains => "NOT_CONTAINS"
  | startsWith => "STARTS_WITH"
  | endsWith => "ENDS_WITH"
  | lt => "LT"
  | lte => "LTE"
  | gt => "GT"
  | gte => "GTE"
  | between => "BETWEEN"
  | isIn => "IN"

def every : List MatchMode :=
  [equals, notEquals, contains, notContains, startsWith, endsWith, lt, lte, gt, gte, between, isIn]

def aliases : List (String × String) :=
  [("after", "gt"), ("dateAfter", "gt"), ("before", "lt"), ("dateBefore", "lt"),
   ("is", "equals"), ("dateIs", "equals"), ("isNot", "notEquals"), ("dateIsNot", "notEquals")]

/-- The general name behind an alias; any other name stands for itself. -/
def plainName (name : String) : String := (aliases.lookup name).getD name

def ofName? (name : String) : Option MatchMode :=
  every.find? fun m => m.name = plainName name

end MatchMode

namespace Connective

def name : Connective → String
  | all => "and"
  | any => "or"

def label : Connective → String
  | all => "AND"
  | any => "OR"

def ofName? (name : String) : Option Connective :=
  [all, any].find? fun c => c.name = name

end Connective

namespace Category

def name : Category → String
  | text => "text"
  | ordered => "ordered"
  | opaqueKind => "opaque"

def label : Category → String
  | text => "TEXT"
  | ordered => "ORDERED"
  | opaqueKind => "OPAQUE"

def ofName? (name : String) : Option Category :=
  [text, ordered, opaqueKind].find? fun c => c.name = name

end Category

namespace Operator

def name : Operator → String
  | eq => "eq"
  | ne => "ne"
  | lt => "lt"
  | lte => "lte"
  | gt => "gt"
  | gte => "gte"
  | between => "between"
  | isIn => "in"
  | like => "like"
  | notLike => "not_like"
  | and => "and"
  | or => "or"

def label : Operator → String
  | eq => "EQ"
  | ne => "NE"
  | lt => "LT"
  | lte => "LTE"
  | gt => "GT"
  | gte => "GTE"
  | between => "BETWEEN"
  | isIn => "IN"
  | like => "LIKE"
  | notLike => "NOT_LIKE"
  | and => "AND"
  | or => "OR"

def every : List Operator :=
  [eq, ne, lt, lte, gt, gte, between, isIn, like, notLike, and, or]

def ofName? (name : String) : Option Operator := every.find? fun o => o.name = name

def connective? : Operator → Option Connective
  | and => some .all
  | or => some .any
  | _ => none

def isLogical (o : Operator) : Bool := o.connective?.isSome

end Operator

def Connective.operator : Connective → Operator
  | .all => .and
  | .any => .or

end TableQuery
