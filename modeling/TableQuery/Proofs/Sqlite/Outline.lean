import TableQuery.Proofs.Literal
import TableQuery.Proofs.Predicate.Outline
import TableQuery.Proofs.Sqlite.Conversion
import TableQuery.Proofs.Sqlite.Session

/-!
# Statements without their values

The text of a clause comes from the outline of its predicate, and the values it binds are operands.
So alike requests lead to the same statements, and what they were asked with is only ever bound.
-/
namespace TableQuery.Sqlite

structure Clause.SameText (c d : Clause) : Prop where
  chars : c.chars = d.chars
  bound : c.bound.length = d.bound.length

variable {l : Layout}

theorem compareClause_standIn {o : Operator} {sign : Comparator} (h : comparator? o = some sign)
    (t : Term) (v : Value) :
    (compareClause t sign (Comparison.standIn o v)).SameText (compareClause t sign v) := by
  by_cases hv : v = .null
  · subst hv
    cases o <;> cases h <;> exact ⟨rfl, rfl⟩
  · rw [Comparison.standIn_of_ne_null o hv, compareClause_of_ne_null hv,
      compareClause_of_ne_null (by simp)]
    exact ⟨rfl, rfl⟩

theorem operand_outline (c : Comparison) :
    c.outline.operand = c.operand.map (Comparison.standIn c.operator) := by
  rw [Comparison.operand, Comparison.operand, Comparison.outline]
  cases c.operands <;> rfl

theorem operatorClause_outline {t : Term} {c : Comparison} {clause : Clause}
    (h : operatorClause t c = .ok clause) :
    ∃ d, operatorClause t c.outline = .ok d ∧ d.SameText clause := by
  have hsingle : ∀ {f : Value → Clause},
      (∀ v, (f (Comparison.standIn c.operator v)).SameText (f v)) → c.operand.map f = .ok clause →
        ∃ d, c.outline.operand.map f = .ok d ∧ d.SameText clause := by
    intro f hf h
    obtain ⟨v, hv, rfl⟩ := Outcome.map_ok.mp h
    exact ⟨_, by rw [operand_outline, hv]; rfl, hf v⟩
  have ho : c.outline.operator = c.operator := rfl
  unfold operatorClause at h ⊢
  rw [ho]
  split at h
  · obtain rfl := Except.ok.inj h
    refine ⟨_, rfl, ?_⟩
    rw [Comparison.outline]
    cases c.operands with
    | nil => exact ⟨rfl, rfl⟩
    | cons v vs =>
      constructor
      · simp [Clause.chars, Function.comp_def]
      · simp [Clause.bound]
  · split at h
    · next low high hv =>
      obtain rfl := Except.ok.inj h
      rw [Comparison.outline, hv]
      exact ⟨_, rfl, rfl, rfl⟩
    · cases h
  · exact hsingle (fun _ => ⟨rfl, rfl⟩) h
  · exact hsingle (fun _ => ⟨rfl, rfl⟩) h
  · split at h
    · next sign hsign =>
      exact hsingle (compareClause_standIn hsign t) h
    · cases h

theorem junctionClause_sameText {how : Connective} {cs ds : List Clause}
    (h : List.Forall₂ Clause.SameText cs ds) :
    (junctionClause how cs).SameText (junctionClause how ds) := by
  have hchars : cs.map Clause.chars = ds.map Clause.chars :=
    Outcome.map_eq_of_forall₂ (h.imp fun _ _ hcd => hcd.chars)
  have hbound : cs.map (fun c => c.bound.length) = ds.map fun d => d.bound.length :=
    Outcome.map_eq_of_forall₂ (h.imp fun _ _ hcd => hcd.bound)
  cases h with
  | nil => exact ⟨rfl, rfl⟩
  | cons =>
    constructor
    · rw [junctionClause, junctionClause]
      simp only [List.isEmpty_cons, Bool.false_eq_true, if_false, Clause.chars, Clause.charsAll_eq,
        hchars]
    · rw [junctionClause, junctionClause]
      simp only [List.isEmpty_cons, Bool.false_eq_true, if_false, Clause.bound, Clause.boundAll_eq,
        List.length_flatMap, hbound]

theorem lower_outline {p : Predicate} {clause : Clause}
    (h : lower l (Node.ofPredicate p) = .ok clause) :
    ∃ d, lower l (Node.ofPredicate (p.map Comparison.outline)) = .ok d ∧ d.SameText clause := by
  refine lower_induction h (fun c clause hc => ?_) (fun how parts cs hparts => ?_)
  · obtain ⟨ref, href, hclause⟩ := Outcome.bind_ok.mp hc
    obtain ⟨d, hd, hsame⟩ := operatorClause_outline hclause
    refine ⟨d, ?_, hsame⟩
    rw [Formula.map, lower_atom, comparisonClause]
    exact Outcome.bind_ok.mpr ⟨ref, href, hd⟩
  · obtain ⟨ds, hds, hsame⟩ := Outcome.forall₂_comp hparts
    refine ⟨junctionClause how ds, ?_, junctionClause_sameText hsame⟩
    rw [Formula.map, Formula.mapAll_eq]
    exact lower_junction how (List.forall₂_map_left_iff.mpr hds)

theorem mem_operands {c : Comparison} {v : Value} (h : c.operand = .ok v) : v ∈ c.operands := by
  obtain ⟨vs, hvs⟩ := Comparison.operands_of_operand h
  simp [hvs]

theorem bound_operatorClause {t : Term} {c : Comparison} {clause : Clause}
    (h : operatorClause t c = .ok clause) : ∀ v ∈ clause.bound, v ∈ c.operands := by
  unfold operatorClause at h
  split at h
  · obtain rfl := Except.ok.inj h
    split
    · simp [Clause.bound]
    · exact fun _ => id
  · split at h
    · next low high hv =>
      obtain rfl := Except.ok.inj h
      simp [hv, Clause.bound]
    · cases h
  · obtain ⟨v, hv, rfl⟩ := Outcome.map_ok.mp h
    simpa [Clause.bound] using mem_operands hv
  · obtain ⟨v, hv, rfl⟩ := Outcome.map_ok.mp h
    simpa [Clause.bound] using mem_operands hv
  · split at h
    · obtain ⟨v, hv, rfl⟩ := Outcome.map_ok.mp h
      unfold compareClause
      split
      · simp [Clause.bound]
      · simp [Clause.bound]
      · simpa [Clause.bound] using mem_operands hv
    · cases h

theorem bound_of_lower {p : Predicate} {clause : Clause}
    (h : lower l (Node.ofPredicate p) = .ok clause) :
    ∀ v ∈ clause.bound, ∃ c ∈ p.atoms, v ∈ c.operands := by
  refine lower_induction h (fun c clause hc => ?_) (fun how parts cs hparts => ?_)
  · obtain ⟨ref, _, hclause⟩ := Outcome.bind_ok.mp hc
    exact fun v hv => ⟨c, by simp [Formula.atoms], bound_operatorClause hclause v hv⟩
  · intro v hv
    rw [bound_junctionClause] at hv
    obtain ⟨c, hc, hv⟩ := List.mem_flatMap.mp hv
    obtain ⟨p, hp, hoperand⟩ := Outcome.exists_of_forall₂ hparts.flip c hc
    obtain ⟨q, hq, hv⟩ := hoperand v hv
    exact ⟨q, Formula.mem_atoms_junction.mpr ⟨p, hp, hq⟩, hv⟩

end TableQuery.Sqlite
