import TableQuery.Proofs.Outcome
import TableQuery.Proofs.Qdrant.Filter

/-!
# What a lowered filter asks

A predicate and the filter it becomes are true of the same records, whichever conditions of single
keys are. A comparison has the truth of its condition, "not equal" and "does not contain" have the
opposite of the condition they deny. Alternatives stay what they are, wherever negations move.
-/
namespace TableQuery

namespace Comparison

/-- The comparison that a denying one denies, any other comparison itself. -/
def positive (c : Comparison) : Comparison :=
  match c.operator with
  | .ne => { c with operator := .eq }
  | .notLike => { c with operator := .like }
  | _ => c

def denies (c : Comparison) : Bool :=
  match c.operator with
  | .ne | .notLike => true
  | _ => false

end Comparison

namespace Formula

variable {α : Type}

mutual

def alternatives : Formula α → List Nat
  | atom _ => []
  | junction .all parts => alternativesIn parts
  | junction .any parts => parts.length :: alternativesIn parts

def alternativesIn : List (Formula α) → List Nat
  | [] => []
  | f :: rest => alternatives f ++ alternativesIn rest

end

@[simp]
theorem alternativesIn_eq (fs : List (Formula α)) :
    alternativesIn fs = fs.flatMap alternatives := by
  induction fs with
  | nil => rfl
  | cons f fs ih => rw [alternativesIn, ih, List.flatMap_cons]

end Formula

namespace Qdrant

open Condition

/-- The truth of a comparison when `v` says which conditions of single keys are true. -/
def leafHolds (l : Layout) (v : Condition → Bool) (c : Comparison) : Bool :=
  match comparisonCondition l c.positive with
  | .ok q => v q != c.denies
  | .error _ => false

theorem equality_single {key : Except Fault String} {v : Value} {q : Condition}
    (h : equality key v = .ok q) : q.isFilter = false := by
  unfold equality at h
  split at h
  case h_6 => cases h
  all_goals
    obtain ⟨_, _, rfl⟩ := Outcome.map_ok.mp h
    rfl

theorem testUnder_single {key : Except Fault String} {t : Test} {q : Condition}
    (h : testUnder key t = .ok q) : q.isFilter = false := by
  obtain ⟨_, _, rfl⟩ := Outcome.map_ok.mp h
  rfl

theorem substring_like {o : Operator} {v : Value} {s : String} (h : substring o v = .ok s) :
    substring .like v = .ok s := by
  unfold substring at h ⊢
  split at h <;> try split at h
  all_goals first | exact h | cases h

/-- An operator gives a condition of one key, negated when it denies; what is negated is the
condition of the comparison that is denied. -/
theorem operatorCondition_ok {key : Except Fault String} {c : Comparison} {q : Condition}
    (h : operatorCondition key c = .ok q) :
    ∃ q', operatorCondition key c.positive = .ok q' ∧ q'.isFilter = false ∧
      q = if c.denies then .allOf [] [q'] else q' := by
  obtain ⟨field, o, operands, folds⟩ := c
  cases o with
  | eq =>
    obtain ⟨v, _, hq⟩ := Outcome.bind_ok.mp h
    exact ⟨q, h, equality_single hq, rfl⟩
  | ne =>
    obtain ⟨v, hv, h⟩ := Outcome.bind_ok.mp h
    obtain ⟨q', hq', h⟩ := Outcome.bind_ok.mp h
    exact ⟨q', Outcome.bind_ok.mpr ⟨v, hv, hq'⟩, equality_single hq', (Except.ok.inj h).symm⟩
  | like =>
    obtain ⟨v, _, hq⟩ := Outcome.bind_ok.mp h
    obtain ⟨s, _, hq⟩ := Outcome.bind_ok.mp hq
    exact ⟨q, h, testUnder_single hq, rfl⟩
  | notLike =>
    obtain ⟨v, hv, h⟩ := Outcome.bind_ok.mp h
    obtain ⟨s, hs, h⟩ := Outcome.bind_ok.mp h
    obtain ⟨q', hq', h⟩ := Outcome.bind_ok.mp h
    exact ⟨q', Outcome.bind_ok.mpr ⟨v, hv, Outcome.bind_ok.mpr ⟨s, substring_like hs, hq'⟩⟩,
      testUnder_single hq', (Except.ok.inj h).symm⟩
  | isIn =>
    obtain ⟨items, _, hq⟩ := Outcome.bind_ok.mp h
    exact ⟨q, h, testUnder_single hq, rfl⟩
  | between =>
    refine ⟨q, h, ?_, rfl⟩
    simp only [operatorCondition] at h
    split at h
    · cases h
    · split at h
      · obtain ⟨t, _, hq⟩ := Outcome.bind_ok.mp h
        exact testUnder_single hq
      · cases h
  | lt | lte | gt | gte =>
    refine ⟨q, h, ?_, rfl⟩
    simp only [operatorCondition, rangeOf?] at h
    split at h
    · cases h
    · obtain ⟨v, _, hq⟩ := Outcome.bind_ok.mp h
      obtain ⟨t, _, hq⟩ := Outcome.bind_ok.mp hq
      exact testUnder_single hq
  | and | or => cases h

theorem positive_field (c : Comparison) : c.positive.field = c.field := by
  obtain ⟨field, o, operands, folds⟩ := c
  cases o <;> rfl

theorem comparisonCondition_ok {l : Layout} {c : Comparison} {q : Condition}
    (h : comparisonCondition l c = .ok q) :
    ∃ q', comparisonCondition l c.positive = .ok q' ∧ q'.isFilter = false ∧
      q = if c.denies then .allOf [] [q'] else q' := by
  obtain ⟨rooted, hr, h⟩ := Outcome.bind_ok.mp h
  rw [← positive_field] at hr
  cases rooted with
  | some key =>
    obtain ⟨q', hq', hs⟩ := operatorCondition_ok h
    exact ⟨q', Outcome.bind_ok.mpr ⟨some key, hr, hq'⟩, hs⟩
  | none =>
    obtain ⟨q', hq', hs⟩ := operatorCondition_ok h
    rw [← positive_field] at hq'
    exact ⟨q', Outcome.bind_ok.mpr ⟨none, hr, hq'⟩, hs⟩

/-- What a condition keeps of the predicate it was lowered from. That only conditions of single keys
are negated is what lets negations move without moving an alternative. -/
structure Keeps (l : Layout) (p : Predicate) (q : Condition) : Prop where
  truth : ∀ v, Condition.holds v q = Formula.holds (leafHolds l v) p
  positives : ∀ c ∈ p.atoms, ∃ q', comparisonCondition l c.positive = .ok q' ∧ q'.isFilter = false
  negates : NegatesSingles q
  branches : Condition.alternatives q = Formula.alternatives p

theorem keeps_comparison {l : Layout} {c : Comparison} {q : Condition}
    (h : comparisonCondition l c = .ok q) : Keeps l (.atom c) q := by
  obtain ⟨q', hq', hsingle, rfl⟩ := comparisonCondition_ok h
  have hleaf : ∀ v, leafHolds l v c = (v q' != c.denies) := fun v => by rw [leafHolds, hq']
  have hpositive : ∀ d ∈ Formula.atoms (.atom c), ∃ q',
      comparisonCondition l d.positive = .ok q' ∧ q'.isFilter = false := by
    simpa [Formula.atoms] using ⟨q', hq', hsingle⟩
  cases hd : c.denies with
  | true =>
    refine ⟨fun v => ?_, hpositive, by simpa [NegatesSingles] using hsingle, ?_⟩
    · simp [Condition.holds, Formula.holds, hleaf, hd, holds_of_single v hsingle]
    · simp [Condition.alternatives, Formula.alternatives, alternatives_of_single hsingle]
  | false =>
    refine ⟨fun v => ?_, hpositive, ?_, ?_⟩
    · simp [Formula.holds, hleaf, hd, holds_of_single v hsingle]
    · cases q' <;> simp_all [NegatesSingles, isFilter]
    · simp [Formula.alternatives, alternatives_of_single hsingle]

theorem lowerAll_eq (l : Layout) (ns : List Node) : lowerAll l ns = ns.mapM (lower l) := by
  induction ns with
  | nil => rfl
  | cons n ns ih =>
    rw [lowerAll, List.mapM_cons, ih]
    cases lower l n with
    | error f => rfl
    | ok c => cases ns.mapM (lower l) <;> rfl

theorem lower_junction (l : Layout) (how : Connective) (parts : List Predicate) :
    lower l (Node.ofPredicate (.junction how parts)) =
      (parts.mapM fun p => lower l (Node.ofPredicate p)).map (junctionCondition how) := by
  have hparts : lowerAll l (parts.map Node.ofPredicate) =
      parts.mapM fun p => lower l (Node.ofPredicate p) := by
    rw [lowerAll_eq, List.mapM_map]
    rfl
  rw [Node.ofPredicate_junction, lower, hparts]
  cases parts.mapM fun p => lower l (Node.ofPredicate p) <;> rfl

theorem keeps_junction {l : Layout} {parts : List Predicate} {cs : List Condition}
    (how : Connective) (h : List.Forall₂ (Keeps l) parts cs) :
    Keeps l (.junction how parts) (junctionCondition how cs) := by
  have htruth : ∀ v, parts.map (Formula.holds (leafHolds l v)) = cs.map (Condition.holds v) :=
    fun v => Outcome.map_eq_of_forall₂ (h.imp fun _ _ hq => (hq.truth v).symm)
  have hbranches : parts.map Formula.alternatives = cs.map Condition.alternatives :=
    Outcome.map_eq_of_forall₂ (h.imp fun _ _ hq => hq.branches.symm)
  have hpositives : ∀ c ∈ parts.flatMap Formula.atoms, ∃ q',
      comparisonCondition l c.positive = .ok q' ∧ q'.isFilter = false := by
    intro c hc
    obtain ⟨p, hp, hc⟩ := List.mem_flatMap.mp hc
    obtain ⟨q, _, hq⟩ := Outcome.exists_of_forall₂ h p hp
    exact hq.positives c hc
  have hnegates : ∀ q ∈ cs, NegatesSingles q := by
    intro q hq
    obtain ⟨p, _, hp⟩ := Outcome.exists_of_forall₂ h.flip q hq
    exact hp.negates
  refine ⟨fun v => ?_, by simpa [Formula.atoms] using hpositives,
    negatesSingles_junctionCondition how hnegates, ?_⟩
  · rw [holds_junctionCondition, ← htruth v, Formula.holds_junction]
  · cases how with
    | all =>
      have hnone := alternatives_of_singles (gather_negatesSingles hnegates)
      simp [junctionCondition, Condition.alternatives, Formula.alternatives, hnone,
        alternatives_gather hnegates, List.flatMap_def, hbranches]
    | any =>
      simp [junctionCondition, Condition.alternatives, Formula.alternatives, List.flatMap_def,
        hbranches, h.length_eq]

theorem keeps_lower {l : Layout} {p : Predicate} {q : Condition}
    (h : lower l (Node.ofPredicate p) = .ok q) : Keeps l p q := by
  induction p using Formula.inductionOn generalizing q with
  | atom c => exact keeps_comparison h
  | junction how parts ih =>
    rw [lower_junction] at h
    obtain ⟨cs, hcs, rfl⟩ := Outcome.map_ok.mp h
    have hparts := Outcome.mapM_ok.mp hcs
    exact keeps_junction how (Outcome.forall₂_of_mem hparts fun p hp q hq => ih p hp hq)

theorem convert_ok {l : Layout} {p : Predicate} {f : Condition}
    (h : convert l (Node.ofPredicate p) = .ok (some f)) :
    ∃ q, lower l (Node.ofPredicate p) = .ok q ∧ f = asFilter q := by
  unfold convert at h
  split at h
  · cases h
  · split at h
    · cases h
    · obtain ⟨q, hq, hf⟩ := Outcome.map_ok.mp h
      exact ⟨q, hq, (Option.some.inj hf).symm⟩

/-- The result of a conversion is a filter that is true exactly when the predicate is. Every
comparison has a condition of one key to be true by, and every "at least one" keeps all of its
alternatives. -/
theorem converted_holds_eq {l : Layout} {p : Predicate} {f : Condition}
    (h : convert l (Node.ofPredicate p) = .ok (some f)) :
    f.isFilter = true ∧
    (∀ v, Condition.holds v f = Formula.holds (leafHolds l v) p) ∧
    (∀ c ∈ p.atoms, ∃ q, comparisonCondition l c.positive = .ok q ∧ q.isFilter = false) ∧
    Condition.alternatives f = Formula.alternatives p := by
  obtain ⟨q, hq, rfl⟩ := convert_ok h
  have hkeeps := keeps_lower hq
  refine ⟨isFilter_asFilter q, fun v => ?_, hkeeps.positives, ?_⟩
  · rw [holds_asFilter, hkeeps.truth v]
  · rw [alternatives_asFilter, hkeeps.branches]

namespace Example

def leaf (field : String) (o : Operator) (operand : Value) : Predicate :=
  .atom ⟨.text field, o, [operand], true⟩

/-- Denials under "all of", once nested and once under "at least one". -/
def predicate : Predicate :=
  .junction .all [
    .junction .all [leaf "role" .ne (.text "villain"), leaf "name" .notLike (.text "%bolt%")],
    .junction .any [leaf "age" .ne .null,
      .junction .all [leaf "team" .eq (.text "x"), leaf "role" .ne (.text "y")]],
    leaf "state" .eq (.text "me")]

def equalTo (key s : String) : Condition := .test key (.equals (.text s))

def filter : Condition :=
  .allOf [
      .anyOf [.allOf [] [.isNull "m.age"],
        .allOf [equalTo "m.team" "x"] [equalTo "m.role" "y"]],
      equalTo "m.state" "me"]
    [equalTo "m.role" "villain", .test "m.name" (.hasText "bolt")]

end Example

theorem converted_holds_eq_nested :
    convert ⟨.text "m", []⟩ (Node.ofPredicate Example.predicate) = .ok (some Example.filter) ∧
    Example.filter.isFilter = true ∧
    (∀ v, Condition.holds v Example.filter =
      Formula.holds (leafHolds ⟨.text "m", []⟩ v) Example.predicate) ∧
    (∀ c ∈ Example.predicate.atoms, ∃ q,
      comparisonCondition ⟨.text "m", []⟩ c.positive = .ok q ∧ q.isFilter = false) ∧
    Condition.alternatives Example.filter = Formula.alternatives Example.predicate := by
  have h : convert ⟨.text "m", []⟩ (Node.ofPredicate Example.predicate) =
      .ok (some Example.filter) := by cbv
  exact ⟨h, converted_holds_eq h⟩

end Qdrant
end TableQuery
