import TableQuery.Sqlite.Call

/-!
# Faults

Everything that can stop a request, a comparison, a lowering or a statement, by its cause. Faults of
the first kind name what is wrong with a request and are reported with a text; the others come from
a value used in a way its kind does not allow, from a result that cannot be held, and from outside,
and have none.
-/
namespace TableQuery

inductive Malformed where
  | modeNotText (given : Value)
  | unknownMode (name : String)
  | connectiveNotText (given : Value)
  | unknownConnective (name : String)
  | sortFieldNotName (given : Value)
  | directionNotWhole (given : Value)
  | sortEntryNotMap (kind : String)
  | criterionNotMap (kind : String)
  | notWhole (part : String) (given : Value)
  | negative (part : String) (given : Int)
  | sortKeyExpected (kind : String)
  | criteriaNotMap
  | fieldNotText (given : Value)
  | criterionExpected (field : String) (kind : String)
  | payloadNotMap (kind : String)
  | sortFieldsNotList
  | filtersNotMap
  | entriesNotList (field : Value)

inductive Misshapen where
  | notText (given : Value)
  | notPair (given : Value)
  | notMany (given : Value)
  | notSingle (given : Value)
  | missing

inductive Refuser where
  | sqlite
  | qdrant
  | qdrantTextRanges
  | qdrantAffixPatterns
  deriving DecidableEq

/-- Which call to the outside was refused: one to a source of rows, or on a connection the `n`-th of
its kind. -/
inductive RefusedCall where
  | find
  | count
  | onConnection (c : Sqlite.Call) (n : Nat)
  deriving DecidableEq

inductive Fault where
  | malformed (cause : Malformed)
  | unresolved (field : Value)
  | modeRefused (field : Value) (mode : MatchMode) (category : Category)
  | misshapen (field : Value) (mode : MatchMode) (cause : Misshapen)
  | operatorRefused (operator : Operator) (refuser : Refuser)
  | notLogical (operator : Operator)
  /-- A value of the right kind that cannot be used here. -/
  | badValue
  /-- A value of a kind that does not allow what was asked of it. -/
  | wrongKind
  /-- A value without the part that was asked for. -/
  | partMissing
  /-- A map without the key that was asked for. -/
  | keyMissing
  /-- A list without the place that was asked for. -/
  | placeMissing
  /-- A whole number beyond every double-precision number, or beyond every length. -/
  | tooLarge
  /-- A collection longer than can be held. -/
  | tooLong
  /-- A decimal result that is no number, of operands that do not say so quietly. -/
  | noDecimal
  /-- A decimal result beyond the largest exponent. -/
  | decimalTooLarge
  /-- A value outside the schema of a Qdrant filter. -/
  | schemaViolated
  | storageFailed {call : RefusedCall}

@[match_pattern]
def Fault.refused (call : RefusedCall) : Fault := @storageFailed call

end TableQuery
