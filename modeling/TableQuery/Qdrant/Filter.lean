import TableQuery.Value.Basic
import TableQuery.Number.Binary

/-!
# Qdrant filters

A filter asks that all of some conditions hold and none of others, or that at least one of some
holds. A condition tests one payload key, or is a filter itself. In a range every bound is a
double-precision number, or every bound is a date.
-/
namespace TableQuery.Qdrant

/-- Bounds of a range; what is absent does not bound. -/
structure Range (α : Type) where
  gt : Option α
  gte : Option α
  lt : Option α
  lte : Option α

inductive Exact where
  | bool (b : Bool)
  | int (n : Int)
  | text (s : String)
  deriving DecidableEq

inductive Choice where
  | texts (items : List String)
  | ints (items : List Int)
  deriving DecidableEq

inductive Moment where
  | date (d : Date)
  | datetime (t : Datetime)
  deriving DecidableEq

inductive Test where
  | equals (v : Exact)
  | oneOf (items : Choice)
  | hasText (s : String)
  | inRange (r : Range Binary64)
  | inPeriod (r : Range Moment)

/-- A condition or a filter. Lists that ask for nothing are left out when a filter is written, but
not the alternatives of `anyOf`. -/
inductive Condition where
  | test (key : String) (t : Test)
  | isNull (key : String)
  | allOf (must mustNot : List Condition)
  | anyOf (should : List Condition)

def Condition.isFilter : Condition → Bool
  | .allOf _ _ | .anyOf _ => true
  | _ => false

namespace Condition

mutual

def holds (v : Condition → Bool) : Condition → Bool
  | test key t => v (test key t)
  | isNull key => v (isNull key)
  | allOf must mustNot => holdsAll v must && holdsNone v mustNot
  | anyOf should => holdsAny v should

def holdsAll (v : Condition → Bool) : List Condition → Bool
  | [] => true
  | c :: rest => holds v c && holdsAll v rest

def holdsNone (v : Condition → Bool) : List Condition → Bool
  | [] => true
  | c :: rest => !holds v c && holdsNone v rest

def holdsAny (v : Condition → Bool) : List Condition → Bool
  | [] => false
  | c :: rest => holds v c || holdsAny v rest

end

end Condition
end TableQuery.Qdrant
