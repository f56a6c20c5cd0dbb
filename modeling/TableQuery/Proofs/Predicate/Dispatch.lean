import TableQuery.Proofs.Fault
import TableQuery.Proofs.Predicate.Criterion

/-!
# How a criterion is turned down

Three things are looked at, one after the other: whether the field is known, whether its category
takes the mode, and whether the value has the shape that the mode asks for. What is wrong with the
first of them is what is reported; a value plays no part in it before the mode is settled.
-/
namespace TableQuery

open Outcome Value

namespace Category

def Refuses : Category → MatchMode → Prop
  | text, _ => False
  | ordered, m => m ∈ [.contains, .notContains, .startsWith, .endsWith]
  | opaqueKind, m => m ∉ [.equals, .notEquals, .isIn]

theorem appliesTo_iff {k : Category} {m : MatchMode} : m.appliesTo k = true ↔ ¬k.Refuses m := by
  cases k <;> cases m <;> simp [MatchMode.appliesTo, MatchMode.demand, Refuses]

end Category

namespace MatchMode

def Misfits : MatchMode → Value → Prop
  | between, v => ∀ low high, v ≠ .list [low, high] ∧ v ≠ .tuple [low, high]
  | isIn, v => v.isSequence = false
  | _, v => v.isSequence = true

theorem not_parts_of_misfits {m : MatchMode} {v : Value} (h : m.Misfits v) {parts : List Value} :
    ¬m.Parts v parts := by
  rintro (⟨_, low, high, rfl | rfl⟩ | ⟨_, _, hitems⟩ | ⟨_, _, hbetween, hin, hsingle⟩)
  · exact (h low high).1 rfl
  · exact (h low high).2 rfl
  · have hmany : v.isSequence = true := by rw [isSequence_eq, hitems, Option.isSome_some]
    simp only [Misfits, hmany, Bool.true_eq_false] at h
  · cases m <;> first | contradiction | simp [Misfits, hsingle] at h

end MatchMode

namespace Comparison

def IsMisshapen (field : Value) (m : MatchMode) (f : Fault) : Prop :=
  ∃ cause, f = .misshapen field m cause

/-- How the comparison of a value can fail: on its shape, or on showing what has no text only if the
value or its field has none. -/
abbrev Fails (field : Value) (m : MatchMode) (v : Value) : Fault → Prop :=
  Fault.Reported (IsMisshapen field m) fun w => HasText field → HasText v → HasText w

variable {field v : Value} {m : MatchMode} {k : Category}

theorem failsOnly_misshapen {α : Type} {cause : Misshapen}
    (hgiven : ∀ w ∈ cause.given, HasText v → HasText w) :
    FailsOnly (Fails field m v) (misshapen field m cause : Except Fault α) := by
  refine Fault.failsOnly_reported ⟨cause, rfl⟩ ?_
  exact List.forall_mem_cons.mpr ⟨fun hfield _ => hfield, fun w hw _ => hgiven w hw⟩

theorem failsOnly_foldedText : FailsOnly (Fails field m v) (foldedText field m v) := by
  unfold foldedText
  split
  iterate 6 exact failsOnly_misshapen (by simp [Misshapen.given])
  exact ((failsOnly_display v).imp fun f => .hidden f v fun _ hv => hv).map

theorem failsOnly_operandOf : FailsOnly (Fails field m v) (operandOf field k m v) := by
  unfold operandOf
  split
  · exact failsOnly_foldedText.map
  · split
    · split
      · exact failsOnly_misshapen (by simp [Misshapen.given])
      · exact failsOnly_ok
    · exact failsOnly_ok

theorem partsOf_or_misshapen :
    (∃ parts, partsOf field k m v = .ok parts) ∨
      ∃ cause, cause.given = [v] ∧ partsOf field k m v = misshapen field m cause := by
  unfold partsOf
  split
  iterate 2
    split
    · exact .inr ⟨.notSingle v, rfl, rfl⟩
    · exact .inl ⟨[v], rfl⟩
  · unfold bounds
    split
    iterate 2 exact .inl ⟨_, rfl⟩
    exact .inr ⟨.notPair v, rfl, raise_map _ _⟩
  · unfold members
    split
    iterate 4 exact .inl ⟨_, rfl⟩
    exact .inr ⟨.notMany v, rfl, rfl⟩

theorem failsOnly_partsOf : FailsOnly (Fails field m v) (partsOf field k m v) := by
  have hparts : (∃ parts, partsOf field k m v = .ok parts) ∨ _ := partsOf_or_misshapen
  rcases hparts with ⟨parts, hparts⟩ | ⟨cause, hgiven, hcause⟩
  · rw [hparts]
    exact failsOnly_ok
  · rw [hcause]
    exact failsOnly_misshapen (by simp [hgiven])

theorem hasText_of_partsOf {parts : List Value} (h : partsOf field k m v = .ok parts)
    (hv : HasText v) : ∀ part ∈ parts, HasText part := by
  unfold partsOf at h
  split at h
  iterate 2
    split at h
    · exact absurd h raise_ne_ok
    · obtain rfl := Except.ok.inj h
      simpa using hv
  · obtain ⟨⟨low, high⟩, hpair, rfl⟩ := map_ok.mp h
    refine hasText_members ?_ hv
    rcases bounds_ok.mp hpair with rfl | rfl <;> rfl
  · exact hasText_members (members_ok.mp h) hv

theorem failsOnly_ofParts : FailsOnly (Fails field m v) (ofParts field k m v) := by
  refine failsOnly_partsOf.bind fun parts hparts => ?_
  refine (FailsOnly.mapM fun part hpart => ?_).bind fun _ _ => failsOnly_ok
  refine failsOnly_operandOf.imp fun f => Fault.Reported.ofPart fun w hw hfield hv => ?_
  exact hw hfield (hasText_of_partsOf hparts hv part hpart)

theorem ofParts_or_misshapen (hfield : HasText field) (hv : HasText v) :
    (∃ q, ofParts field k m v = .ok q) ∨
      ∃ cause, ofParts field k m v = .error (.misshapen field m cause) := by
  cases hparts : ofParts field k m v with
  | ok q => exact .inl ⟨q, rfl⟩
  | error f =>
    obtain ⟨cause, rfl⟩ := (failsOnly_ofParts f hparts).of_shown fun _ hw => hw hfield hv
    exact .inr ⟨cause, rfl⟩

theorem misshapen_of_misfits (hfield : HasText field) (hv : HasText v) (h : m.Misfits v) :
    ∃ cause, ofParts field k m v = .error (.misshapen field m cause) := by
  refine (ofParts_or_misshapen hfield hv).resolve_left ?_
  rintro ⟨q, hq⟩
  obtain ⟨parts, hparts, _⟩ := (ofParts_ok.mp hq).operands
  exact MatchMode.not_parts_of_misfits h hparts

theorem onField_refused (hfield : HasText field) (h : k.Refuses m) :
    onField field v k m = .error (.modeRefused field m k) := by
  rw [onField, if_neg fun happlies => Category.appliesTo_iff.mp happlies h]
  exact Fault.raise_of_hasText (by simpa [Fault.given] using hfield)

theorem onField_taken (h : ¬k.Refuses m) : onField field v k m = ofParts field k m v :=
  if_pos (Category.appliesTo_iff.mpr h)

theorem ofParts_ne_error {f : Fault} (hshape : ¬IsMisshapen field m f) (htext : ¬f.Textless) :
    ofParts field k m v ≠ .error f := by
  intro h
  rcases failsOnly_ofParts f h with hf | ⟨_, _, hides⟩
  · exact hshape hf
  · exact htext hides.textless

theorem onField_ne_unresolved (hfield : HasText field) {g : Value} :
    onField field v k m ≠ .error (.unresolved g) := by
  by_cases hrefuses : k.Refuses m
  · rw [onField_refused hfield hrefuses]
    simp
  · rw [onField_taken hrefuses]
    exact ofParts_ne_error nofun nofun

theorem onField_refused_iff (hfield : HasText field) :
    (∃ g n j, onField field v k m = .error (.modeRefused g n j)) ↔ k.Refuses m := by
  constructor
  · rintro ⟨g, n, j, h⟩
    by_contra hrefuses
    rw [onField_taken hrefuses] at h
    refine absurd h (ofParts_ne_error ?_ ?_) <;> nofun
  · exact fun h => ⟨field, m, k, onField_refused hfield h⟩

variable {r : Resolver}

theorem ofCriterion_unresolved (h : r.resolve field = .ok none) (hfield : HasText field)
    (c : Criterion) : ofCriterion r field c = .error (.unresolved field) := by
  have hrequire : r.require field = .error (.unresolved field) := by
    rw [Resolver.require, h]
    exact Fault.raise_of_hasText (by simpa [Fault.given] using hfield)
  rw [ofCriterion_eq, hrequire]
  rfl

theorem ofCriterion_resolved (h : r.resolve field = .ok (some k)) (c : Criterion) :
    ofCriterion r field c = onField field c.value k (c.mode.getD k.defaultMode) := by
  rw [ofCriterion_eq, Resolver.require, h]
  rfl

/-- A criterion fails for want of a field exactly when the field is not known, then for its mode
exactly when the category turns that down, whatever the value is. Otherwise it becomes the
comparison that its mode makes of the value, or the value is misshapen; which it is whenever its
shape is not that of the mode. -/
theorem turned_down_in_order {answer : Option Category} (c : Criterion)
    (hanswer : r.resolve field = .ok answer) (hfield : HasText field) :
    ((∃ g, ofCriterion r field c = .error (.unresolved g)) ↔ answer = none) ∧
    ∀ k m, answer = some k → m = c.mode.getD k.defaultMode →
      ((∃ g n j, ofCriterion r field c = .error (.modeRefused g n j)) ↔ k.Refuses m) ∧
      (¬k.Refuses m →
        (∀ q, ofCriterion r field c = .ok q ↔ Made field k m c.value q) ∧
        (HasText c.value → (∃ q, ofCriterion r field c = .ok q) ∨
          ∃ cause, ofCriterion r field c = .error (.misshapen field m cause)) ∧
        (HasText c.value → m.Misfits c.value →
          ∃ cause, ofCriterion r field c = .error (.misshapen field m cause))) := by
  cases answer with
  | none =>
    exact ⟨iff_of_true ⟨field, ofCriterion_unresolved hanswer hfield c⟩ rfl, nofun⟩
  | some k =>
    rw [ofCriterion_resolved hanswer]
    refine ⟨iff_of_false ?_ nofun, ?_⟩
    · rintro ⟨g, hg⟩
      exact onField_ne_unresolved hfield hg
    · rintro _ _ ⟨⟩ rfl
      refine ⟨onField_refused_iff hfield, fun hrefuses => ?_⟩
      rw [onField_taken hrefuses]
      exact ⟨fun q => ofParts_ok, ofParts_or_misshapen hfield, misshapen_of_misfits hfield⟩

theorem turned_down_in_order_threeBounds :
    Resolver.resolve (.text "born") (.table [(.text "born", .ordered)]) = .ok (some .ordered) ∧
      HasText (.text "born") ∧
      ∃ cause, ofCriterion (.table [(.text "born", .ordered)]) (.text "born")
          ⟨.list [.text "1815", .text "1834", .text "1852"], some .between, none⟩ =
        .error (.misshapen (.text "born") .between cause) := by
  have hanswer : Resolver.resolve (.text "born") (.table [(.text "born", .ordered)]) =
      .ok (some .ordered) := by cbv
  have hfield : HasText (.text "born") := ⟨_, rfl⟩
  have hvalue : HasText (.list [.text "1815", .text "1834", .text "1852"]) := ⟨_, rfl⟩
  refine ⟨hanswer, hfield, ?_⟩
  obtain ⟨_, _, hmisshapen⟩ := ((turned_down_in_order
    ⟨.list [.text "1815", .text "1834", .text "1852"], some .between, none⟩ hanswer hfield).2
      .ordered .between rfl rfl).2 (by simp [Category.Refuses])
  exact hmisshapen hvalue (by simp [MatchMode.Misfits])

/-- A value without a text is neither compared nor misshapen: here a condition without the operand
that it needs, where a text is wanted. -/
theorem textless_neither_compared_nor_misshapen :
    ofCriterion (.table [(.text "name", .text)]) (.text "name")
      ⟨.comparison (.text "age") .eq [] false, some .equals, none⟩ = .error .placeMissing := by
  cbv

end Comparison
end TableQuery
