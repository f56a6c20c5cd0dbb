import TableQuery.Field.Kind
import TableQuery.Proofs.Predicate.Dispatch

/-!
# What the type of a field lets be asked

A type may belong to several families, and the first one that is looked for decides its category.
Truth values and enumerations are looked for before everything that has an order, so a field of such
a type can only be asked for equality, even where the values are whole numbers or dates too. Text is
looked for before them: an enumeration of texts is a text field, which is searched and folded.
-/
namespace TableQuery

namespace FieldType

/-- Whether the values of a type are listed one by one, as those of an enumeration and the two truth
values are. -/
def IsEnumerated (t : FieldType) : Prop := .enumeration ∈ t.families ∨ .truth ∈ t.families

variable {t : FieldType}

theorem isOneOf_iff {fs : List Family} : t.isOneOf fs = true ↔ ∃ f ∈ fs, f ∈ t.families := by
  simp only [isOneOf, List.any_eq_true, List.contains_iff_mem, and_comm]

theorem isOneOf_enumerated_iff : t.isOneOf [.truth, .enumeration] = true ↔ t.IsEnumerated := by
  rw [isOneOf_iff, IsEnumerated, or_comm]
  simp

theorem category_text (h : .text ∈ t.families) : t.category = .text :=
  if_pos (isOneOf_iff.mpr ⟨.text, List.mem_singleton_self _, h⟩)

theorem category_not_text (h : .text ∉ t.families) :
    t.category =
      if t.isOneOf [.truth, .enumeration] then .opaqueKind
      else if t.isOneOf Family.ordered then .ordered else .opaqueKind := by
  refine if_neg fun htext => h ?_
  simpa [isOneOf_iff] using htext

theorem category_eq_text_iff : t.category = .text ↔ .text ∈ t.families := by
  constructor
  · intro h
    by_contra htext
    rw [category_not_text htext] at h
    split at h
    · cases h
    · split at h <;> cases h
  · exact category_text

theorem category_eq_opaqueKind_iff : t.category = .opaqueKind ↔
    .text ∉ t.families ∧ (t.IsEnumerated ∨ ∀ f ∈ Family.ordered, f ∉ t.families) := by
  by_cases htext : .text ∈ t.families
  · rw [category_text htext]
    exact iff_of_false nofun fun h => h.1 htext
  rw [category_not_text htext]
  by_cases henumerated : t.IsEnumerated
  · rw [if_pos (isOneOf_enumerated_iff.mpr henumerated)]
    exact iff_of_true rfl ⟨htext, .inl henumerated⟩
  rw [if_neg (mt isOneOf_enumerated_iff.mp henumerated)]
  by_cases hordered : ∃ f ∈ Family.ordered, f ∈ t.families
  · rw [if_pos (isOneOf_iff.mpr hordered)]
    refine iff_of_false nofun ?_
    rintro ⟨_, h | hnone⟩
    · exact henumerated h
    · obtain ⟨f, hf, hmem⟩ := hordered
      exact hnone f hf hmem
  · rw [if_neg (mt isOneOf_iff.mp hordered)]
    exact iff_of_true rfl ⟨htext, .inr fun f hf hmem => hordered ⟨f, hf, hmem⟩⟩

/-- Truth values are whole numbers too, and have no order all the same. -/
example : (⟨[.truth, .whole]⟩ : FieldType).category = .opaqueKind := by decide

end FieldType

theorem Table.get?_map {α β : Type} (f : α → β) (key : Value) (t : Table α) :
    Table.get? key (t.map fun e => (e.1, f e.2)) = (t.get? key).map f := by
  induction t with
  | nil => rfl
  | cons e rest ih =>
    obtain ⟨k, a⟩ := e
    rw [List.map_cons, Table.get?, Table.get?, ih]
    split <;> rfl

namespace MatchMode

def equality : List MatchMode := [equals, notEquals, isIn]

variable {m : MatchMode}

theorem not_ordering_of_equality (h : m ∈ equality) : m ∉ ordering := by
  revert m
  decide

end MatchMode

namespace Comparison

variable {field v : Value} {m : MatchMode} {k : Category} {q : Comparison}

theorem made_plain_iff (hk : k ≠ .text) (hm : m ∉ MatchMode.ordering) :
    Made field k m v q ↔ ∃ parts, m.Parts v parts ∧ q = ⟨field, m.operator, parts, false⟩ := by
  constructor
  · intro h
    obtain ⟨parts, hparts, hall⟩ := h.operands
    have hsame : parts = q.operands := by
      rw [← List.forall₂_eq_eq_eq]
      refine hall.imp fun part operand hoperand => ?_
      rcases hoperand with ⟨_, htext, _⟩ | _
      · exact absurd htext hk
      · rfl
    have hfolds : q.foldsCase = false := by
      rw [← Bool.not_eq_true, h.folds]
      exact hk
    refine ⟨parts, hparts, ?_⟩
    rw [hsame, ← h.field, ← h.operator, ← hfolds]
  · rintro ⟨parts, hparts, rfl⟩
    refine ⟨rfl, rfl, by simp [hk], parts, hparts, ?_⟩
    exact List.forall₂_same.mpr fun _ _ => .plain hk fun _ => hm

theorem ofParts_plain_or_misshapen (hk : k ≠ .text) (hm : m ∉ MatchMode.ordering) :
    (∃ q, ofParts field k m v = .ok q) ∨
      ∃ cause, ofParts field k m v = misshapen field m cause := by
  have hparts : (∃ parts, partsOf field k m v = .ok parts) ∨ _ := partsOf_or_misshapen
  rcases hparts with ⟨parts, hparts⟩ | ⟨cause, _, hcause⟩
  · left
    have hplain : parts.mapM (operandOf field k m) = .ok parts :=
      mapM_operandOf hk fun _ _ _ => hm
    rw [ofParts, hparts, Outcome.ok_bind, hplain]
    exact ⟨_, rfl⟩
  · right
    rw [ofParts, hcause]
    exact ⟨cause, Outcome.raise_bind _ _⟩

end Comparison

namespace Resolver

open Comparison

/-- A field that can only be asked for equality, which is what it is asked for where a criterion
names no mode. Every other mode is turned down, whatever the value is. The parts of a value are
compared as they are, and a value without the parts that its mode looks at is misshapen. -/
structure OnlyEquality (r : Resolver) (field : Value) : Prop where
  resolved : r.resolve field = .ok (some .opaqueKind)
  refused : ∀ c : Criterion, ∀ m ∉ MatchMode.equality, c.mode.getD .equals = m →
    ofCriterion r field c = (Fault.modeRefused field m .opaqueKind).raise
  compared : ∀ c : Criterion, ∀ m ∈ MatchMode.equality, c.mode.getD .equals = m → ∀ q,
    ofCriterion r field c = .ok q ↔
      ∃ parts, m.Parts c.value parts ∧ q = ⟨field, m.operator, parts, false⟩
  misshapen : ∀ c : Criterion, ∀ m ∈ MatchMode.equality, c.mode.getD .equals = m →
    (∀ parts, ¬ m.Parts c.value parts) →
      ∃ cause, ofCriterion r field c = Comparison.misshapen field m cause

variable {r : Resolver} {field : Value} {c : Criterion} {m : MatchMode} {q : Comparison}

theorem ofCriterion_equality (h : r.resolve field = .ok (some .opaqueKind))
    (hm : m ∈ MatchMode.equality) (hmode : c.mode.getD .equals = m) :
    ofCriterion r field c = ofParts field .opaqueKind m c.value := by
  subst hmode
  rw [ofCriterion_resolved h]
  exact onField_taken fun hrefuses => hrefuses hm

theorem ofCriterion_equality_ok (h : r.resolve field = .ok (some .opaqueKind))
    (hm : m ∈ MatchMode.equality) (hmode : c.mode.getD .equals = m) :
    ofCriterion r field c = .ok q ↔
      ∃ parts, m.Parts c.value parts ∧ q = ⟨field, m.operator, parts, false⟩ := by
  rw [ofCriterion_equality h hm hmode, ofParts_ok]
  exact made_plain_iff (by decide) (MatchMode.not_ordering_of_equality hm)

theorem onlyEquality_of_resolve (h : r.resolve field = .ok (some .opaqueKind)) :
    OnlyEquality r field := by
  constructor
  case resolved => exact h
  case refused =>
    rintro c _ hm rfl
    have hrefuses : Category.opaqueKind.Refuses (c.mode.getD .equals) := hm
    rw [ofCriterion_resolved h]
    exact if_neg fun happlies => Category.appliesTo_iff.mp happlies hrefuses
  case compared => exact fun c m hm hmode q => ofCriterion_equality_ok h hm hmode
  case misshapen =>
    intro c m hm hmode hnone
    rw [ofCriterion_equality h hm hmode]
    have hordering := MatchMode.not_ordering_of_equality hm
    refine (ofParts_plain_or_misshapen (by decide) hordering).resolve_left ?_
    rintro ⟨q, hq⟩
    rw [← ofCriterion_equality h hm hmode] at hq
    obtain ⟨parts, hparts, _⟩ := (ofCriterion_equality_ok h hm hmode).mp hq
    exact hnone parts hparts

theorem onlyEquality_iff_resolve :
    OnlyEquality r field ↔ r.resolve field = .ok (some .opaqueKind) :=
  ⟨OnlyEquality.resolved, onlyEquality_of_resolve⟩

variable {types : Table FieldType} {t : FieldType}

theorem resolve_ofFieldTypes (hfield : field.isKey = true) (ht : types.get? field = some t) :
    (ofFieldTypes types).resolve field = .ok (some t.category) := by
  rw [ofFieldTypes, resolve, if_pos hfield, Table.get?_map, ht]
  rfl

/-- A field can only be asked for equality just if its type is no text and either has its values
listed one by one, whatever else they are, or has no order. A field of texts is a text field even
where they are listed: it is searched where no mode is named, and its operands are folded. -/
theorem onlyEquality_iff_families (hfield : field.isKey = true)
    (ht : types.get? field = some t) :
    (OnlyEquality (ofFieldTypes types) field ↔
      .text ∉ t.families ∧ (t.IsEnumerated ∨ ∀ f ∈ Family.ordered, f ∉ t.families)) ∧
    ((ofFieldTypes types).resolve field = .ok (some .text) ↔ .text ∈ t.families) ∧
    (.text ∈ t.families → ∀ c q, ofCriterion (ofFieldTypes types) field c = .ok q ↔
      Made field .text (c.mode.getD .contains) c.value q) := by
  have hresolve := resolve_ofFieldTypes hfield ht
  have hcategory : ∀ k, (ofFieldTypes types).resolve field = .ok (some k) ↔ t.category = k := by
    intro k
    rw [hresolve, Except.ok.injEq, Option.some.injEq]
  refine ⟨?_, ?_, fun h c q => ?_⟩
  · rw [onlyEquality_iff_resolve, hcategory, FieldType.category_eq_opaqueKind_iff]
  · rw [hcategory, FieldType.category_eq_text_iff]
  · rw [FieldType.category_text h] at hresolve
    rw [ofCriterion_resolved hresolve, onField_taken id]
    exact ofParts_ok

namespace Example

/-- A level is an enumeration of whole numbers, a state one of texts. -/
def heroes : Table FieldType :=
  [(.text "level", ⟨[.whole, .enumeration]⟩), (.text "state", ⟨[.text, .enumeration]⟩)]

end Example

theorem onlyEquality_iff_families_enumerations :
    ofTypes [(.text "level", "int_enum"), (.text "state", "str_enum")] =
      .ok (ofFieldTypes Example.heroes) ∧
    (Value.text "level").isKey = true ∧
    Example.heroes.get? (.text "level") = some ⟨[.whole, .enumeration]⟩ ∧
    OnlyEquality (ofFieldTypes Example.heroes) (.text "level") ∧
    (Value.text "state").isKey = true ∧
    Example.heroes.get? (.text "state") = some ⟨[.text, .enumeration]⟩ ∧
    ¬ OnlyEquality (ofFieldTypes Example.heroes) (.text "state") ∧
    ofCriterion (ofFieldTypes Example.heroes) (.text "state") ⟨.text "Active", none, none⟩ =
      .ok ⟨.text "state", .like, [.text "%active%"], true⟩ := by
  have hlevel : Example.heroes.get? (.text "level") = some ⟨[.whole, .enumeration]⟩ := by cbv
  have hstate : Example.heroes.get? (.text "state") = some ⟨[.text, .enumeration]⟩ := by cbv
  obtain ⟨hequality, _⟩ := onlyEquality_iff_families (by decide) hlevel
  obtain ⟨hsearched, _⟩ := onlyEquality_iff_families (by decide) hstate
  refine ⟨by cbv, by decide, hlevel, hequality.mpr ⟨by decide, ?_⟩, by decide, hstate, ?_, by cbv⟩
  · exact .inl (.inl (by decide))
  · intro h
    exact (hsearched.mp h).1 (by decide)

end Resolver
end TableQuery
