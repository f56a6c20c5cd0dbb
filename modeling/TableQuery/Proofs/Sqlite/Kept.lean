import Mathlib
import TableQuery.Proofs.Sqlite.Conversion
import TableQuery.Proofs.Sqlite.Truth

/-!
# Which rows a clause keeps

A clause keeps a row exactly when the predicate it was lowered from is true, if a comparison counts
as true when its own clause keeps the row. So nothing is lost when what is unknown counts as false.
-/
namespace TableQuery

namespace Connective

theorem verdict_eq_true {how : Connective} {vs : List (Option Bool)} :
    how.verdict vs = some true ↔ how.truth (vs.map fun v => decide (v = some true)) = true := by
  cases how with
  | all =>
    -- a false part comes before an unknown one, so only parts that are all true are true together
    have hall : (∀ v ∈ vs, v = some true) ↔ some false ∉ vs ∧ none ∉ vs := by
      constructor
      · exact fun h => ⟨fun hv => by simpa using h _ hv, fun hv => by simpa using h _ hv⟩
      · rintro ⟨hfalse, hnone⟩ v hv
        match v with
        | some true => rfl
        | some false => exact absurd hv hfalse
        | none => exact absurd hv hnone
    simp only [verdict, truth, List.all_map, List.all_eq_true, Function.comp_apply, id_eq,
      decide_eq_true_eq, hall]
    split_ifs <;> simp_all
  | any =>
    simp only [verdict, truth, List.any_map, List.any_eq_true, Function.comp_apply, id_eq,
      decide_eq_true_eq, exists_eq_right]
    split_ifs <;> simp_all

end Connective

namespace Sqlite

variable {l : Layout} {row : ColumnRef → Value} {other : Clause → Value → Bool}

@[simp]
theorem Clause.truths_eq (cs : List Clause) :
    Clause.truths row other cs = cs.map (Clause.truth row other) := by
  induction cs with
  | nil => rfl
  | cons c cs ih => rw [Clause.truths, ih, List.map_cons]

theorem keeps_junctionClause (how : Connective) (cs : List Clause) :
    (junctionClause how cs).keeps row other = how.truth (cs.map (Clause.keeps row other)) := by
  cases cs with
  | nil => cases how <;> rfl
  | cons c cs =>
    rw [Bool.eq_iff_iff, junctionClause, List.isEmpty_cons, if_neg Bool.false_ne_true, Clause.keeps,
      Clause.truth, Clause.truths_eq, decide_eq_true_eq, Connective.verdict_eq_true, List.map_map]
    rfl

theorem field_of_reference {field : Value} {ref : ColumnRef} (h : l.reference field = .ok ref) :
    ∃ name, field = .text name := by
  obtain ⟨_, _, h⟩ := Outcome.bind_ok.mp h
  obtain ⟨name, hname, _⟩ := Outcome.bind_ok.mp h
  exact ⟨name, nameOf_ok.mp hname⟩

def leafKeeps (l : Layout) (row : ColumnRef → Value) (other : Clause → Value → Bool)
    (c : Comparison) : Bool :=
  match comparisonClause l c with
  | .ok clause => clause.keeps row other
  | .error _ => false

theorem keeps_of_lower {p : Predicate} {clause : Clause}
    (h : lower l (Node.ofPredicate p) = .ok clause) :
    clause.keeps row other = Formula.holds (leafKeeps l row other) p := by
  refine lower_induction h (fun c clause hc => ?_) (fun how parts cs hparts => ?_)
  · rw [Formula.holds, leafKeeps, hc]
  · rw [keeps_junctionClause, Formula.holds_junction,
      Outcome.map_eq_of_forall₂ (hparts.imp fun _ _ h => h.symm)]

theorem atoms_of_lower {p : Predicate} {clause : Clause}
    (h : lower l (Node.ofPredicate p) = .ok clause) :
    ∀ c ∈ p.atoms, ∃ clause, comparisonClause l c = .ok clause := by
  refine lower_induction h (fun c clause hc => ?_) (fun how parts cs hparts => ?_)
  · simpa [Formula.atoms] using ⟨clause, hc⟩
  · intro c hc
    obtain ⟨p, hp, hc⟩ := Formula.mem_atoms_junction.mp hc
    obtain ⟨_, _, hatoms⟩ := Outcome.exists_of_forall₂ hparts p hp
    exact hatoms c hc

/-- Of null, a clause only keeps a row if it asks for nulls. -/
theorem keeps_null {t : Term} {c : Comparison} {clause : Clause} (hnull : row t.ref = .null)
    (h : operatorClause t c = .ok clause) : clause.keeps row other = c.asksNull := by
  have hvalue : t.valueIn row = .null := by
    rw [Term.valueIn, hnull]
    split <;> rfl
  have hunknown : ∀ d : Clause, d.ask row other t = none := by
    intro d
    rw [Clause.ask, hvalue]
  unfold operatorClause at h
  split at h
  · next ho =>
    obtain rfl := Except.ok.inj h
    rw [Comparison.asksNull_eq_false (by simp [ho])]
    split <;> simp [Clause.keeps, Clause.truth, hunknown]
  · next ho =>
    split at h
    · obtain rfl := Except.ok.inj h
      rw [Comparison.asksNull_eq_false (by simp [ho])]
      simp [Clause.keeps, Clause.truth, hunknown]
    · cases h
  · next ho =>
    obtain ⟨v, _, rfl⟩ := Outcome.map_ok.mp h
    rw [Comparison.asksNull_eq_false (by simp [ho])]
    simp [Clause.keeps, Clause.truth, hunknown]
  · next ho =>
    obtain ⟨v, _, rfl⟩ := Outcome.map_ok.mp h
    rw [Comparison.asksNull_eq_false (by simp [ho])]
    simp [Clause.keeps, Clause.truth, hunknown]
  · split at h
    · next sign hsign =>
      obtain ⟨v, hv, rfl⟩ := Outcome.map_ok.mp h
      obtain ⟨vs, hvs⟩ := Comparison.operands_of_operand hv
      by_cases hnone : v = .null
      · subst hnone
        have ho := comparator?_eq_some hsign
        cases sign <;>
          simp [Comparison.asksNull, ho, hvs, Comparator.operator, compareClause, Clause.keeps,
            Clause.truth, Clause.isNullIn, hvalue, hunknown]
      · rw [compareClause_of_ne_null hnone, Comparison.asksNull_of_ne_null hvs hnone]
        simp [Clause.keeps, Clause.truth, hunknown]
    · cases h

end Sqlite

end TableQuery
