import TableQuery.Predicate.OfCriterion
import TableQuery.Predicate.Search

/-!
# The predicate of a request

Every field contributes the comparisons of its criteria, joined by the first connective that one of
them names, and by "at least one" if none does. A criterion of the global search stands for "at
least one of the searched attributes meets it"; without attributes the field is passed over, and
noted. The fields are joined by "all of". One criterion that fails stops everything, and so does a
predicate that has no text.
-/
namespace TableQuery

def Criterion.connectiveOf (criteria : List Criterion) : Connective :=
  (criteria.findSome? Criterion.connective).getD .any

namespace Predicate

def isGlobal (globalField : Value) (field : String) : Bool := globalField.same (.text field)

def ofTargets (r : Resolver) (targets : List Value) (c : Criterion) :
    Except Fault (List Predicate) :=
  targets.mapM fun target => (Comparison.ofCriterion r target c).map .atom

def ofGlobal (r : Resolver) (attributes : List Value) (c : Criterion) :
    Except Fault (List Predicate) := do
  let found ← ofTargets r attributes c
  .ok (Formula.join? .any found).toList

def ofField (r : Resolver) (globalField : Value) (attributes : List Value)
    (entry : String × List Criterion) : Except Fault (Option Predicate) := do
  let inner ←
    if isGlobal globalField entry.1 then entry.2.mapM (ofGlobal r attributes)
    else entry.2.mapM (ofTargets r [.text entry.1])
  .ok (Formula.join? (Criterion.connectiveOf entry.2) inner.flatten)

/-- What compiling a request comes to: the global searches passed over, as far as it came, and the
predicate or the fault. -/
structure Compiled where
  passedOver : List String
  outcome : Except Fault (Option Predicate)

def ofFields (r : Resolver) (globalField : Value) (attributes : List Value) :
    List (String × List Criterion) → List String × Except Fault (List Predicate)
  | [] => ([], .ok [])
  | entry :: rest =>
    if isGlobal globalField entry.1 && attributes.isEmpty then
      let (passed, found) := ofFields r globalField attributes rest
      (entry.1 :: passed, found)
    else
      match ofField r globalField attributes entry with
      | .error f => ([], .error f)
      | .ok p =>
        let (passed, found) := ofFields r globalField attributes rest
        (passed, found.map (p.toList ++ ·))

def noted (p : Option Predicate) : Except Fault (Option Predicate) :=
  match p with
  | none => .ok none
  | some p => (Node.ofPredicate p).literal.map fun _ => some p

def ofRequest (r : Resolver) (attributes : List Value) (request : Request) : Compiled :=
  let (passed, found) := ofFields r request.globalField attributes request.criteria
  ⟨passed, found.bind fun ps => noted (Formula.join? .all ps)⟩

/-- Compiles a request whose attributes are still to be read; a request without criteria does not
look at them. -/
def ofRequestWith (r : Resolver) (attributes : Except Fault SearchSet) (request : Request) :
    Compiled :=
  if request.criteria.isEmpty then ⟨[], .ok none⟩
  else match attributes with
    | .ok s => ofRequest r s.fields request
    | .error f => ⟨[], .error f⟩

def passedOverText (field : String) : String :=
  "Ignoring global search field '" ++ field ++ "': no global attributes configured"

end Predicate
end TableQuery
