import Mathlib
import TableQuery.Value.Access

/-!
# Texts and numbers among values

A text is equal to itself and to no other value. Numbers are compared by their magnitudes, which can
always be done unless one of them signals; so whether a value is in use can be told unless it is
such a number.
-/
namespace TableQuery.Value

variable {v w : Value}

theorem same_text {s : String} : v.same (.text s) = true ↔ v = .text s := by
  unfold same
  cases v <;> simp [equal, magnitude?]

@[simp]
theorem same_texts (a b : String) : (text a).same (text b) = decide (a = b) := by
  rw [Bool.eq_iff_iff, same_text, decide_eq_true_iff, text.injEq]

theorem equal_of_magnitudes {p q : Magnitude} (hv : v.magnitude? = some p)
    (hw : w.magnitude? = some q) : v.equal w = p.equal q := by
  unfold equal
  split <;> first | cases hv | rw [hv, hw]

/-- Whether a value is a number that cannot be compared with another. -/
def Signals (v : Value) : Prop := v.magnitude? = some .signal

theorem magnitude?_zero : (int 0).magnitude? = some (.finite 0 0) := by decide

theorem Magnitude.equal_zero {p : Magnitude} (hp : p ≠ .signal) :
    ∃ same, p.equal (.finite 0 0) = .ok same := by
  cases p with
  | signal => exact absurd rfl hp
  | _ => exact ⟨_, rfl⟩

theorem equal_zero (h : ¬ v.Signals) : ∃ same, v.equal (int 0) = .ok same := by
  cases hv : v.magnitude? with
  | some p =>
    have hp : p ≠ .signal := fun heq => h (hv.trans (congrArg some heq))
    rw [equal_of_magnitudes hv magnitude?_zero]
    exact Magnitude.equal_zero hp
  | none =>
    refine ⟨false, ?_⟩
    cases v <;> first | (cases hv; done) | simp [equal, magnitude?]

/-- Whether a value is not in use: null, false, the empty text and whatever is equal to zero. -/
def isIdle : Value → Bool
  | null | bool false | text "" => true
  | v => v.same (int 0)

theorem inUse_eq (h : ¬ v.Signals) : v.inUse = .ok (!v.isIdle) := by
  obtain ⟨same, hsame⟩ := equal_zero h
  unfold inUse
  split
  · simp [isIdle, Value.same, equal, magnitude?]
  · simp [isIdle, Value.same, equal, magnitude?]
  · rfl
  · rfl
  · rfl
  · next hnull hfalse hempty =>
    have hidle : v.isIdle = v.same (int 0) := by
      unfold isIdle
      split <;> first | contradiction | rfl
    rw [hidle, Value.same, hsame]
    rfl

theorem inUse_signals (h : v.Signals) : v.inUse = .error .noDecimal := by
  have hequal : v.equal (int 0) = .error .noDecimal := equal_of_magnitudes h magnitude?_zero
  unfold inUse
  split
  iterate 5 cases h
  rw [hequal]
  rfl

end TableQuery.Value
