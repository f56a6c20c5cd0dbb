import TableQuery.Request.Basic

/-!
# Equality of requests

Requests are equal when they ask for the same, whatever the order of their fields. Their parts are
compared one after the other, so a difference found before values that cannot be compared settles
the comparison. The fingerprint of a request depends on the order of its fields.
-/
namespace TableQuery
namespace Request

def criteriaValue (cs : List Criterion) : Value := .tuple (cs.map Criterion.toValue)

def equalCriteria (others : List (String × List Criterion)) :
    List (String × List Criterion) → Except Fault Bool
  | [] => .ok true
  | (field, cs) :: rest =>
    match others.lookup field with
    | none => .ok false
    | some ds =>
      match (criteriaValue ds).equal (criteriaValue cs) with
      | .ok true => equalCriteria others rest
      | r => r

def equal (a b : Request) : Except Fault Bool :=
  if a.offset = b.offset ∧ a.pageSize = b.pageSize ∧ a.sortKeys = b.sortKeys ∧
      a.criteria.length = b.criteria.length then
    match equalCriteria a.criteria b.criteria with
    | .ok true => a.globalField.equal b.globalField
    | r => r
  else .ok false

def fieldRow (e : String × List Criterion) : Value := .tuple [.text e.1, criteriaValue e.2]

/-- A request as one row of values, its fields in the order they were given. -/
def row (r : Request) : Value :=
  .tuple [.int r.offset, .int r.pageSize, .tuple (r.sortKeys.map SortKey.toValue),
    .tuple (r.criteria.map fieldRow), r.globalField]

def fingerprint? (r : Request) : Option Fingerprint := r.row.fingerprint?

end Request
end TableQuery
