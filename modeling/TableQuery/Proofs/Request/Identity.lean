import TableQuery.Request.Equality
import TableQuery.Proofs.Fingerprint
import TableQuery.Proofs.Request.Valid

/-!
# Requests as keys

Equal requests may differ in the order of their fields, and their fingerprints see that order. When
the order is the same, the rows that the fingerprints are taken of are the same too. When it is not,
the fingerprints agree only if names that stand in the same place have fingerprints that agree: a
field has criteria and a criterion is a row, so the row of a field is never mixed into a number.
-/
namespace TableQuery

open Outcome Fingerprint Value

namespace Request

variable {a b : Request} {f g : Fingerprint}

def fields (r : Request) : List String := r.criteria.map Prod.fst

theorem equalCriteria_ok {others asked : List (String × List Criterion)} :
    equalCriteria others asked = .ok true ↔ ∀ e ∈ asked, ∃ ds, others.lookup e.1 = some ds ∧
      (criteriaValue ds).same (criteriaValue e.2) = true := by
  induction asked with
  | nil => simp [equalCriteria]
  | cons e asked ih =>
    rw [equalCriteria, List.forall_mem_cons, ← ih]
    split
    · next hnone => simp [hnone]
    · next ds hds =>
      simp only [hds, Option.some.injEq, exists_eq_left', same_iff]
      split
      · next h => simp [h]
      · next h => exact iff_of_false h fun hboth => h hboth.1

theorem equal_ok : a.equal b = .ok true ↔
    (a.offset = b.offset ∧ a.pageSize = b.pageSize ∧ a.sortKeys = b.sortKeys ∧
      a.criteria.length = b.criteria.length) ∧
    (∀ e ∈ b.criteria, ∃ ds, a.criteria.lookup e.1 = some ds ∧
      (criteriaValue ds).same (criteriaValue e.2) = true) ∧
    a.globalField.same b.globalField = true := by
  rw [equal, ← equalCriteria_ok, same_iff]
  split
  · next hparts =>
    split
    · next h => simp [hparts, h]
    · next h => exact iff_of_false h fun hall => h hall.2.1
  · next hparts => exact iff_of_false (by simp) fun hall => hparts hall.1

theorem lookup_of_mem {criteria : List (String × List Criterion)} {d : String × List Criterion}
    (honce : (criteria.map Prod.fst).Nodup) (hd : d ∈ criteria) :
    criteria.lookup d.1 = some d.2 := by
  induction criteria with
  | nil => cases hd
  | cons c criteria ih =>
    obtain ⟨hfirst, honce⟩ := List.nodup_cons.mp honce
    rw [List.lookup_cons]
    rcases List.mem_cons.mp hd with rfl | hd
    · simp
    · have hother : d.1 ≠ c.1 := fun h => hfirst (h ▸ List.mem_map_of_mem hd)
      rw [beq_false_of_ne hother]
      exact ih honce hd

theorem forall₂_of_fields {R : String × List Criterion → String × List Criterion → Prop}
    {criteria others : List (String × List Criterion)}
    (hfields : criteria.map Prod.fst = others.map Prod.fst)
    (h : ∀ d ∈ criteria, ∀ e ∈ others, d.1 = e.1 → R d e) : List.Forall₂ R criteria others := by
  induction criteria generalizing others with
  | nil =>
    rw [List.map_eq_nil_iff.mp hfields.symm]
    exact .nil
  | cons d criteria ih =>
    cases others with
    | nil => cases hfields
    | cons e others =>
      obtain ⟨hfirst, hrest⟩ := List.cons.inj hfields
      refine .cons (h d List.mem_cons_self e List.mem_cons_self hfirst) (ih hrest ?_)
      exact fun c hc o ho => h c (List.mem_cons_of_mem d hc) o (List.mem_cons_of_mem e ho)

theorem row_same (honce : a.fields.Nodup) (hfields : a.fields = b.fields)
    (h : a.equal b = .ok true) : a.row.same b.row = true := by
  obtain ⟨⟨hoffset, hpageSize, hkeys, _⟩, hcriteria, hglobal⟩ := equal_ok.mp h
  have hrows : AllSame (a.criteria.map fieldRow) (b.criteria.map fieldRow) := by
    rw [AllSame, List.forall₂_map_left_iff, List.forall₂_map_right_iff]
    refine forall₂_of_fields hfields fun d hd e he hde => ?_
    obtain ⟨ds, hds, hsame⟩ := hcriteria e he
    rw [← hde, lookup_of_mem honce hd, Option.some.injEq] at hds
    rw [← hds] at hsame
    exact same_tuple.mpr (.cons (hde ▸ same_text.mpr rfl) (.cons hsame .nil))
  have hsorts : AllSame (a.sortKeys.map SortKey.toValue) (b.sortKeys.map SortKey.toValue) := by
    rw [hkeys, AllSame, List.forall₂_map_left_iff, List.forall₂_map_right_iff, List.forall₂_same]
    exact fun k _ => same_sortKey k.field k.direction
  unfold row
  rw [hoffset, hpageSize]
  exact same_tuple.mpr (.cons (same_int _) (.cons (same_int _) (.cons (same_tuple.mpr hsorts)
    (.cons (same_tuple.mpr hrows) (.cons hglobal .nil)))))

section Rows

variable {p : Fingerprint} {e : String × List Criterion} {cs : List Criterion}

theorem fingerprint_criterion {c : Criterion} (h : c.toValue.fingerprint? = some p) :
    ∃ ps, p = .row ps := by
  obtain ⟨q, _, rfl⟩ := fingerprint?_criterion h
  exact ⟨_, ofRow_of_mem (by simp) (label_ne_number c.mode)⟩

theorem fingerprint_criteria (hcs : cs ≠ []) (h : (criteriaValue cs).fingerprint? = some p) :
    ∃ ps, p = .row ps := by
  obtain ⟨fs, hfs, rfl⟩ := fingerprint?_tuple h
  cases cs with
  | nil => exact absurd rfl hcs
  | cons c cs =>
    rcases fingerprints?_eq_some.mp hfs with _ | ⟨hc, _⟩
    obtain ⟨ps, rfl⟩ := fingerprint_criterion hc
    exact ⟨_, ofRow_of_row ps List.mem_cons_self⟩

theorem fingerprint_fieldRow (he : e.2 ≠ []) (h : (fieldRow e).fingerprint? = some p) :
    ∃ q, p = .row [ofText e.1.toList, q] := by
  obtain ⟨fs, hfs, rfl⟩ := fingerprint?_tuple h
  rcases fingerprints?_eq_some.mp hfs with _ | ⟨hname, _ | ⟨hcriteria, _ | _⟩⟩
  obtain rfl := Option.some.inj hname
  obtain ⟨ps, rfl⟩ := fingerprint_criteria he hcriteria
  exact ⟨.row ps, ofRow_of_row ps (by simp)⟩

theorem fingerprint_row {r : Request} (hr : r.Valid) (hasks : r.criteria ≠ [])
    (h : r.fingerprint? = some f) :
    ∃ offset pageSize sorts rows global, f = .row [offset, pageSize, sorts, .row rows, global] ∧
      List.Forall₂ (fun e p => ∃ q, p = .row [ofText e.1.toList, q]) r.criteria rows := by
  obtain ⟨fs, hfs, rfl⟩ := fingerprint?_tuple h
  rcases fingerprints?_eq_some.mp hfs with
    _ | ⟨_, _ | ⟨_, _ | ⟨_, _ | ⟨hfields, _ | ⟨_, _ | _⟩⟩⟩⟩⟩
  obtain ⟨rows, hrows, rfl⟩ := fingerprint?_tuple hfields
  rw [fingerprints?_eq_some, List.forall₂_map_left_iff] at hrows
  have hnamed := ((List.forall₂_and_left _ _).mpr ⟨hr.asked, hrows⟩).imp fun _ _ hep =>
    fingerprint_fieldRow hep.1 hep.2
  obtain ⟨e, he⟩ := List.exists_mem_of_ne_nil _ hasks
  obtain ⟨p, hp, q, rfl⟩ := exists_of_forall₂ hnamed e he
  rw [ofRow_of_row _ hp, ofRow_of_row rows (by simp)]
  exact ⟨_, _, _, rows, _, rfl, hnamed⟩

end Rows

/-- Whether two names are taken by the same bytes. -/
def SameBytes (name other : String) : Prop :=
  (ofText name.toList).agrees (ofText other.toList) = true

instance (name other : String) : Decidable (SameBytes name other) :=
  inferInstanceAs (Decidable (_ = true))

theorem fields_of_agrees (ha : a.Valid) (hb : b.Valid) (hequal : a.equal b = .ok true)
    (hf : a.fingerprint? = some f) (hg : b.fingerprint? = some g) (h : f.agrees g = true) :
    List.Forall₂ SameBytes a.fields b.fields := by
  have hlength := (equal_ok.mp hequal).1.2.2.2
  by_cases hasks : a.criteria = []
  · have hnone : b.criteria = [] := by simpa [hasks] using hlength.symm
    rw [fields, fields, hasks, hnone]
    exact .nil
  · have hasked : b.criteria ≠ [] := by
      rintro hnone
      simp [hnone, hasks] at hlength
    obtain ⟨_, _, _, rows, _, rfl, hrows⟩ := fingerprint_row ha hasks hf
    obtain ⟨_, _, _, others, _, rfl, hothers⟩ := fingerprint_row hb hasked hg
    rcases agree_of_rows h with _ | ⟨_, _ | ⟨_, _ | ⟨_, _ | ⟨hfields, _⟩⟩⟩⟩
    have hpairs : List.Forall₂ (fun p e => ∃ q, p.agrees (.row [ofText e.1.toList, q]) = true)
        rows b.criteria := by
      refine forall₂_trans (fun p r e hpr he => ?_) (agree_of_rows hfields) hothers.flip
      obtain ⟨q, rfl⟩ := he
      exact ⟨q, hpr⟩
    rw [fields, fields, List.forall₂_map_left_iff, List.forall₂_map_right_iff]
    refine forall₂_trans (fun d p e hd he => ?_) hrows hpairs
    obtain ⟨_, rfl⟩ := hd
    obtain ⟨_, he⟩ := he
    rcases agree_of_rows he with _ | ⟨hnames, _⟩
    exact hnames

/-- A name of which every character takes one byte. -/
def Narrow (name : String) : Prop := ∀ c ∈ name.toList, c.toNat < 256

theorem eq_of_sameBytes {name other : String} (hname : Narrow name) (hother : Narrow other)
    (h : SameBytes name other) : name = other := by
  rw [SameBytes, ofText_of_narrow hname, ofText_of_narrow hother] at h
  have hcodes := eq_of_agrees_ofBytes h
  have hchars : Function.Injective Char.toNat := Function.LeftInverse.injective Char.ofNat_toNat
  exact String.toList_inj.mp (List.map_injective_iff.mpr hchars hcodes)

theorem agrees_iff_fields (ha : a.Valid) (hb : b.Valid) (hequal : a.equal b = .ok true)
    (hf : a.fingerprint? = some f) (hg : b.fingerprint? = some g)
    (hnames : ∀ name ∈ a.fields, Narrow name) (hothers : ∀ name ∈ b.fields, Narrow name) :
    f.agrees g = true ↔ a.fields = b.fields := by
  constructor
  · intro h
    have hsame := fields_of_agrees ha hb hequal hf hg h
    have hnamed := ((List.forall₂_and_left _ _).mpr ⟨hnames, hsame⟩).flip
    have hboth := ((List.forall₂_and_left _ _).mpr ⟨hothers, hnamed⟩).flip
    have hpairs : List.Forall₂ Eq a.fields b.fields :=
      hboth.imp fun _ _ ⟨hother, hname, h⟩ => eq_of_sameBytes hname hother h
    rwa [List.forall₂_eq_eq_eq] at hpairs
  · exact fun hfields => agrees_of_same (row_same ha.once hfields hequal) hf hg

/-- Equal requests have fingerprints that agree if their fields come in the same order; and only if
the names of the fields are taken by the same bytes, one by one. With names of one byte to a
character the order alone decides. -/
theorem fingerprints_of_equal (ha : a.Valid) (hb : b.Valid) (hequal : a.equal b = .ok true)
    (hf : a.fingerprint? = some f) (hg : b.fingerprint? = some g) :
    (a.fields = b.fields → f.agrees g = true) ∧
      (f.agrees g = true → List.Forall₂ SameBytes a.fields b.fields) ∧
      ((∀ name ∈ a.fields, Narrow name) → (∀ name ∈ b.fields, Narrow name) →
        (f.agrees g = true ↔ a.fields = b.fields)) :=
  ⟨fun hfields => agrees_of_same (row_same ha.once hfields hequal) hf hg,
    fields_of_agrees ha hb hequal hf hg, agrees_iff_fields ha hb hequal hf hg⟩

namespace Example

def asks (first second : String × Value) : Request where
  offset := 0
  pageSize := 5
  sortKeys := [⟨"age", none⟩]
  criteria :=
    [(first.1, [⟨first.2, some .equals, none⟩]), (second.1, [⟨second.2, some .equals, none⟩])]
  globalField := .null

theorem asks_valid {first second : String × Value} (hnames : first.1 ≠ second.1)
    (hfirst : first.2.isList = false) (hsecond : second.2.isList = false) :
    (asks first second).Valid where
  named := by simp [asks]
  once := by simp [asks, hnames]
  asked := by simp [asks]
  settled := by simp [asks, hfirst, hsecond]

def ordered : Request := asks ("name", .text "an") ("age", .int 1)

def restated : Request := asks ("name", .text "an") ("age", .bool true)

def swapped : Request := asks ("age", .int 1) ("name", .text "an")

end Example

/-- One and the truth value are equal; so are the requests, and with two fields the other way
round. -/
theorem fingerprints_of_equal_swapped :
    Example.ordered.equal Example.restated = .ok true ∧
      Example.ordered.equal Example.swapped = .ok true ∧
      ∃ f g h, Example.ordered.fingerprint? = some f ∧ Example.restated.fingerprint? = some g ∧
        Example.swapped.fingerprint? = some h ∧ f.agrees g = true ∧ f.agrees h = false := by
  have hordered : Example.ordered.Valid := Example.asks_valid (by decide) rfl rfl
  have hrestated : Example.restated.Valid := Example.asks_valid (by decide) rfl rfl
  have hswapped : Example.swapped.Valid := Example.asks_valid (by decide) rfl rfl
  have hequal : Example.ordered.equal Example.restated = .ok true := by cbv
  have hmoved : Example.ordered.equal Example.swapped = .ok true := by cbv
  obtain ⟨f, hf⟩ := Option.isSome_iff_exists.mp (show Example.ordered.fingerprint?.isSome from rfl)
  obtain ⟨g, hg⟩ := Option.isSome_iff_exists.mp (show Example.restated.fingerprint?.isSome from rfl)
  obtain ⟨h, hh⟩ := Option.isSome_iff_exists.mp (show Example.swapped.fingerprint?.isSome from rfl)
  have hagree := (fingerprints_of_equal hordered hrestated hequal hf hg).1 rfl
  have hnames : ¬ SameBytes "name" "age" := by decide
  have hdiffer : f.agrees h = false := by
    refine Bool.eq_false_iff.mpr fun hagrees => ?_
    have hfields := (fingerprints_of_equal hordered hswapped hmoved hf hh).2.1 hagrees
    rcases hfields with _ | ⟨hsame, _⟩
    exact hnames hsame
  exact ⟨hequal, hmoved, f, g, h, hf, hg, hh, hagree, hdiffer⟩

end Request
end TableQuery
