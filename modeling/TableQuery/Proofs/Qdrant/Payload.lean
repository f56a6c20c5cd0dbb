import TableQuery.Proofs.Predicate.Structure
import TableQuery.Proofs.Qdrant.Meaning

/-!
# What a payload meets

A payload has values under keys. No test is passed by a null, and only a question for null is met by
one; a condition that denies something is met by whatever does not meet what it denies.
-/
namespace TableQuery

namespace Qdrant

def Layout.key (l : Layout) (field : Value) : Except Fault String := do
  match ← rootedKey l field with
  | some key => .ok key
  | none => keyOfField field

/-- What a condition of one key is of a payload. No test is passed by null. -/
def met (payload : String → Value) (answer : Test → Value → Bool) : Condition → Bool
  | .test key t =>
    match payload key with
    | .null => false
    | v => answer t v
  | .isNull key =>
    match payload key with
    | .null => true
    | _ => false
  | _ => false

variable {l : Layout} {payload : String → Value} {answer : Test → Value → Bool}

theorem key_of_comparisonCondition {c : Comparison} {q : Condition} {name : String}
    (hname : c.field = .text name) (h : comparisonCondition l c = .ok q) :
    ∃ key, l.key (.text name) = .ok key ∧ operatorCondition (.ok key) c = .ok q := by
  obtain ⟨rooted, hrooted, h⟩ := Outcome.bind_ok.mp h
  rw [hname] at hrooted h
  cases rooted with
  | some key => exact ⟨key, by rw [Layout.key, hrooted]; rfl, h⟩
  | none => exact ⟨name, by rw [Layout.key, hrooted]; rfl, h⟩

theorem met_testUnder {key : String} {t : Test} {q : Condition} (hnull : payload key = .null)
    (h : testUnder (.ok key) t = .ok q) : met payload answer q = false := by
  obtain rfl := Except.ok.inj h
  rw [met, hnull]

theorem met_equality {key : String} {v : Value} {q : Condition} (hnull : payload key = .null)
    (hv : v ≠ .null) (h : equality (.ok key) v = .ok q) : met payload answer q = false := by
  unfold equality at h
  split at h
  case h_1 => contradiction
  case h_6 => cases h
  all_goals
    obtain rfl := Except.ok.inj h
    rw [met, hnull]

/-- Of null, a condition that denies nothing is only met if it asks for nulls. -/
theorem met_null {key : String} {c : Comparison} {q : Condition} (hnull : payload key = .null)
    (hdenies : c.denies = false) (h : operatorCondition (.ok key) c = .ok q) :
    met payload answer q = c.asksNull := by
  obtain ⟨field, o, operands, folds⟩ := c
  cases o with
  | eq =>
    obtain ⟨v, hv, hq⟩ := Outcome.bind_ok.mp h
    obtain ⟨vs, hvs⟩ := Comparison.operands_of_operand hv
    by_cases hnone : v = .null
    · subst hnone
      obtain rfl := Except.ok.inj hq
      rw [met, hnull, Comparison.asksNull, hvs]
    · rw [met_equality hnull hnone hq, Comparison.asksNull_of_ne_null hvs hnone]
  | ne | notLike => cases hdenies
  | isIn =>
    obtain ⟨_, _, hq⟩ := Outcome.bind_ok.mp h
    exact met_testUnder hnull hq
  | like =>
    obtain ⟨_, _, hq⟩ := Outcome.bind_ok.mp h
    obtain ⟨_, _, hq⟩ := Outcome.bind_ok.mp hq
    exact met_testUnder hnull hq
  | between =>
    simp only [operatorCondition] at h
    split at h
    · cases h
    · split at h
      · obtain ⟨_, _, hq⟩ := Outcome.bind_ok.mp h
        exact met_testUnder hnull hq
      · cases h
  | lt | lte | gt | gte =>
    simp only [operatorCondition, rangeOf?] at h
    split at h
    · cases h
    · obtain ⟨_, _, hq⟩ := Outcome.bind_ok.mp h
      obtain ⟨_, _, hq⟩ := Outcome.bind_ok.mp hq
      exact met_testUnder hnull hq
  | and | or => cases h

theorem convert_some {p : Predicate} {filter : Option Condition}
    (h : convert l (Node.ofPredicate p) = .ok filter) : ∃ f, filter = some f := by
  unfold convert at h
  split at h
  · next hnothing => cases p <;> cases hnothing
  · split at h
    · cases h
    · obtain ⟨q, _, rfl⟩ := Outcome.map_ok.mp h
      exact ⟨_, rfl⟩

end Qdrant

end TableQuery
