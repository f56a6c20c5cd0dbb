import TableQuery.Proofs.Predicate.Formula
import TableQuery.Proofs.Predicate.Structure

/-!
# Which values have a text

A whole number has a text unless its digits are too many, a collection when its items have, and
whether a value has one does not depend on the manner it is shown in. So a well-formed comparison
has a text when its field and its operands have, and a predicate when its comparisons have.
-/
namespace TableQuery

namespace Value

def HasText (v : Value) : Prop := ∃ s, v.literal = .ok s

@[simp]
theorem shownAll_eq (vs : List Value) : shownAll vs = vs.map literal := by
  induction vs with
  | nil => rfl
  | cons v vs ih =>
    rw [shownAll, ih]
    rfl

theorem literals_ok {vs : List Value} : (∃ ts, literals vs = .ok ts) ↔ ∀ v ∈ vs, HasText v :=
  Outcome.exists_mapM

theorem mapM_literals (vs : List Value) : (vs.map literal).mapM id = literals vs := by
  rw [List.mapM_map]
  rfl

theorem hasText_int {n : Int} : HasText (int n) ↔ n.natAbs < leastUnshown := by
  rw [HasText, literal, shown, literalInt]
  split <;> simp_all

theorem hasText_of_digits {n : Int} {k : Nat} (hk : k ≤ greatestDigits) (h : n.natAbs < 10 ^ k) :
    HasText (int n) := by
  refine hasText_int.mpr (Nat.lt_of_lt_of_le h ?_)
  unfold leastUnshown
  -- the power itself is never computed
  generalize greatestDigits = d at hk ⊢
  exact Nat.pow_le_pow_right (n := 10) (by decide) hk

theorem hasText_list {vs : List Value} : HasText (list vs) ↔ ∀ v ∈ vs, HasText v := by
  rw [← literals_ok, HasText, literal, shown, shownAll_eq, mapM_literals]
  exact Outcome.exists_bind_ok

theorem hasText_junction {how : Connective} {parts : List Value} :
    HasText (junction how parts) ↔ ∀ v ∈ parts, HasText v := by
  rw [← literals_ok, HasText, literal, shown, shownAll_eq, mapM_literals]
  exact Outcome.exists_bind_ok

theorem hasText_members {v : Value} {items : List Value} (hitems : v.members? = some items)
    (h : HasText v) : ∀ item ∈ items, HasText item := by
  have hopen : ∀ {vs : List Value} {wrap : List String → String} {s : String},
      (literals vs >>= fun parts => Except.ok (wrap parts)) = .ok s →
      ∀ item ∈ vs, HasText item := by
    intro vs wrap s h
    obtain ⟨parts, hparts, _⟩ := Outcome.bind_ok.mp h
    exact literals_ok.mp ⟨parts, hparts⟩
  obtain ⟨s, hs⟩ := h
  cases v with
  | list vs | tuple vs =>
    obtain rfl := Option.some.inj hitems
    simp only [literal, shown, shownAll_eq, mapM_literals] at hs
    exact hopen hs
  | set vs | frozenset vs =>
    obtain rfl := Option.some.inj hitems
    cases vs with
    | nil => simp
    | cons w vs =>
      simp only [literal, shown, shownAll_eq, mapM_literals] at hs
      exact hopen hs
  | _ => cases hitems

def shownEntry (e : Value × Value) : Except Fault String := do
  let key ← e.1.literal
  let value ← e.2.literal
  .ok (key ++ ": " ++ value)

theorem shownEntries_eq (es : List (Value × Value)) : shownEntries es = es.map shownEntry := by
  induction es with
  | nil => rfl
  | cons e es ih =>
    rw [shownEntries, ih]
    rfl

theorem shownEntry_ok {e : Value × Value} :
    (∃ s, shownEntry e = .ok s) ↔ HasText e.1 ∧ HasText e.2 := by
  constructor
  · rintro ⟨part, hpart⟩
    obtain ⟨key, hkey, hpart⟩ := Outcome.bind_ok.mp hpart
    obtain ⟨value, hvalue, _⟩ := Outcome.bind_ok.mp hpart
    exact ⟨⟨key, hkey⟩, ⟨value, hvalue⟩⟩
  · rintro ⟨⟨key, hkey⟩, ⟨value, hvalue⟩⟩
    rw [shownEntry, hkey, hvalue]
    exact ⟨_, rfl⟩

theorem hasText_map {es : List (Value × Value)} :
    HasText (map es) ↔ ∀ e ∈ es, HasText e.1 ∧ HasText e.2 := by
  rw [HasText, literal, shown, shownEntries_eq, List.mapM_map]
  refine Outcome.exists_bind_ok.trans ?_
  rw [Outcome.exists_mapM]
  exact forall₂_congr fun _ _ => shownEntry_ok

theorem hasText_entries {es : List (Value × Value)} (h : HasText (map es)) :
    ∀ e ∈ es, HasText e.1 ∧ HasText e.2 :=
  hasText_map.mp h

/-- Only how it is shown depends on the manner, not whether. -/
theorem display_of_hasText {v : Value} (h : HasText v) : ∃ s, v.display = .ok s := by
  obtain ⟨s, hs⟩ := h
  cases v with
  | decimal d | text t | date d | datetime t | mode m | connective c | category c =>
    rw [display, shown]
    exact ⟨_, rfl⟩
  | set vs | frozenset vs => cases vs <;> exact ⟨s, by simpa [literal, display, shown] using hs⟩
  | _ => exact ⟨s, by simpa only [literal, display, shown] using hs⟩

end Value

open Value

namespace Comparison

variable {r : Resolver} {c : Comparison}

theorem literal_toValue (c : Comparison) :
    c.toValue.literal =
      comparisonText c.field.display c.operator c.foldsCase (c.operands.map Value.literal) := by
  simp only [toValue, Value.literal, Value.display, Value.shown, shownAll_eq]

theorem hasText_of_wellFormed (h : c.WellFormed r) (hfield : HasText c.field)
    (hoperands : ∀ v ∈ c.operands, HasText v) : HasText c.toValue := by
  obtain ⟨target, htarget⟩ := display_of_hasText hfield
  rw [HasText, literal_toValue, htarget]
  obtain ⟨field, o, operands, folds⟩ := c
  have hsingle : o ≠ .between → o ≠ .isIn →
      ∃ s, comparisonText (.ok target) o folds (operands.map Value.literal) = .ok s := by
    intro hbetween hin
    obtain ⟨v, rfl⟩ := List.length_eq_one_iff.mp (h.single hbetween hin)
    obtain ⟨s, hs⟩ := hoperands v (by simp)
    rw [List.map_singleton, hs]
    cases o <;> first | exact ⟨_, rfl⟩ | contradiction
  cases o with
  | isIn =>
    obtain ⟨parts, hparts⟩ := literals_ok.mpr hoperands
    simp only [comparisonText, mapM_literals, hparts]
    exact ⟨_, rfl⟩
  | between =>
    obtain ⟨low, high, rfl⟩ := List.length_eq_two.mp (h.pair rfl)
    obtain ⟨a, ha⟩ := hoperands low (by simp)
    obtain ⟨b, hb⟩ := hoperands high (by simp)
    rw [List.map_cons, List.map_singleton, ha, hb]
    exact ⟨_, rfl⟩
  | _ => exact hsingle (by decide) (by decide)

theorem operands_hasText (h : c.WellFormed r) (htext : HasText c.toValue) :
    ∀ v ∈ c.operands, HasText v := by
  obtain ⟨s, hs⟩ := htext
  rw [literal_toValue] at hs
  obtain ⟨target, _, hs⟩ := Outcome.bind_ok.mp hs
  obtain ⟨field, o, operands, folds⟩ := c
  by_cases hin : o = .isIn
  · obtain rfl := hin
    obtain ⟨parts, hparts, _⟩ := Outcome.bind_ok.mp hs
    rw [mapM_literals] at hparts
    exact literals_ok.mp ⟨parts, hparts⟩
  by_cases hbetween : o = .between
  · obtain rfl := hbetween
    obtain ⟨low, high, rfl⟩ := List.length_eq_two.mp (h.pair rfl)
    obtain ⟨a, ha, hs⟩ := Outcome.bind_ok.mp hs
    obtain ⟨b, hb, _⟩ := Outcome.bind_ok.mp hs
    simpa using ⟨⟨a, ha⟩, ⟨b, hb⟩⟩
  · obtain ⟨v, rfl⟩ := List.length_eq_one_iff.mp (h.single hbetween hin)
    rw [List.map_singleton] at hs
    have hshown : HasText v := by
      cases o <;> first
        | contradiction
        | obtain ⟨a, ha, _⟩ := Outcome.bind_ok.mp hs; exact ⟨a, ha⟩
    simpa using hshown

end Comparison

namespace Node

@[simp]
theorem toValues_eq (ns : List Node) : toValues ns = ns.map toValue := by
  induction ns with
  | nil => rfl
  | cons n ns ih => rw [toValues, ih, List.map_cons]

theorem hasText_ofPredicate {p : Predicate} :
    HasText (ofPredicate p).toValue ↔ ∀ c ∈ p.atoms, HasText c.toValue := by
  induction p using Formula.inductionOn with
  | atom c => simp [Formula.atoms, ofPredicate, Formula.map, toValue, Leaf.toValue]
  | junction how parts ih =>
    have hparts : HasText (Node.toValue (ofPredicate (.junction how parts))) ↔
        ∀ p ∈ parts, HasText (ofPredicate p).toValue := by
      rw [ofPredicate_junction, toValue, toValues_eq, List.map_map, hasText_junction]
      simp
    rw [hparts]
    simp only [Formula.mem_atoms_junction, forall_exists_index, and_imp]
    exact ⟨fun h c p hp hc => (ih p hp).mp (h p hp) c hc,
      fun h p hp => (ih p hp).mpr fun c hc => h c p hp hc⟩

end Node
end TableQuery
