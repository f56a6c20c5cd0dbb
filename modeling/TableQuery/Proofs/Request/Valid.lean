import TableQuery.Proofs.Request.Source

/-!
# Valid requests

Requests are not checked again once they are made. Whichever way one is made, its sort keys have
fields, each of its fields is there once and has criteria, and no criterion holds a list; its counts
are those that were given, and its fields come in the order in which they were first given.
-/
namespace TableQuery

open Outcome Value

theorem Criterion.isList_settled (v : Value) : (settled v).isList = false := by
  cases v <;> rfl

theorem Criterion.isList_of_ofParts {value mode connective : Value} {c : Criterion}
    (h : ofParts value mode connective = .ok c) : c.value.isList = false := by
  rw [(ofParts_ok.mp h).1]
  exact isList_settled value

namespace Request

structure Valid (r : Request) : Prop where
  named : ∀ k ∈ r.sortKeys, k.field ≠ ""
  once : (r.criteria.map Prod.fst).Nodup
  asked : ∀ e ∈ r.criteria, e.2 ≠ []
  settled : ∀ e ∈ r.criteria, ∀ c ∈ e.2, c.value.isList = false

variable {r : Request} {v : Value}

theorem valid_of_named {named : List (String × List Criterion)} {fields : List Value}
    (hcriteria : r.criteria = withoutEmpty named) (hkeys : ∀ k ∈ r.sortKeys, k.field ≠ "")
    (hfields : (named.map fun e => text e.1).Sublist fields) (hapart : Apart fields)
    (hsettled : ∀ e ∈ named, ∀ c ∈ e.2, c.value.isList = false) :
    r.Valid ∧ (r.criteria.map fun e => text e.1).Sublist fields := by
  have hsub : (r.criteria.map fun e => text e.1).Sublist fields := by
    rw [hcriteria]
    exact (List.filter_sublist.map _).trans hfields
  refine ⟨⟨hkeys, ?_, fun e he => ?_, fun e he => ?_⟩, hsub⟩
  · refine nodup_of_apart ?_
    rw [List.map_map]
    exact List.Pairwise.sublist hsub hapart
  · rw [hcriteria, withoutEmpty, List.mem_filter] at he
    simpa using he.2
  · rw [hcriteria, withoutEmpty, List.mem_filter] at he
    exact hsettled e he.1

theorem settled_of_named {criteria : List (Value × List Criterion)}
    {named : List (String × List Criterion)}
    (hnamed : criteria = named.map fun e => (text e.1, e.2))
    (h : ∀ d ∈ criteria, ∀ c ∈ d.2, c.value.isList = false) :
    ∀ e ∈ named, ∀ c ∈ e.2, c.value.isList = false := by
  rw [hnamed, List.forall_mem_map] at h
  exact h

section Parts

theorem criteriaEntries_ok {entries : List (Value × Value)} (h : criteriaEntries v = .ok entries) :
    entries = Source.entriesOf v := by
  cases v with
  | null | map es =>
    cases h
    rfl
  | _ => exact absurd h malformed_ne_ok

theorem fieldCriteria_ok {e : Value × Value} {d : String × List Criterion}
    (h : fieldCriteria e = .ok d) :
    e.1 = .text d.1 ∧ e.2.itemsIfGiven = .ok (d.2.map Criterion.toValue) := by
  obtain ⟨name, hname, h⟩ := bind_ok.mp h
  obtain ⟨items, hitems, h⟩ := bind_ok.mp h
  obtain ⟨criteria, hcriteria, h⟩ := bind_ok.mp h
  obtain rfl := Except.ok.inj h
  have hwritten := (mapM_ok_iff_map fun _ _ => Criterion.ofValue_ok).mp hcriteria
  exact ⟨fieldName_ok.mp hname, hwritten ▸ hitems⟩

variable {p : RequestParts}

theorem ofParts_counts (h : ofParts p = .ok r) :
    Counts p.offset r.offset ∧ Counts p.pageSize r.pageSize := by
  obtain ⟨offset, hoffset, h⟩ := bind_ok.mp h
  obtain ⟨pageSize, hpageSize, h⟩ := bind_ok.mp h
  obtain ⟨_, _, h⟩ := bind_ok.mp h
  obtain ⟨_, _, h⟩ := bind_ok.mp h
  obtain ⟨_, _, h⟩ := bind_ok.mp h
  obtain ⟨_, _, h⟩ := bind_ok.mp h
  obtain rfl := Except.ok.inj h
  exact ⟨count_ok.mp hoffset, count_ok.mp hpageSize⟩

theorem ofParts_valid (hkeys : p.sortKeys.Sound) (hcriteria : p.criteria.Sound)
    (h : ofParts p = .ok r) :
    r.Valid ∧ (r.criteria.map fun e => text e.1).Sublist
      ((Source.entriesOf p.criteria).map Prod.fst) := by
  obtain ⟨_, _, h⟩ := bind_ok.mp h
  obtain ⟨_, _, h⟩ := bind_ok.mp h
  obtain ⟨items, hitems, h⟩ := bind_ok.mp h
  obtain ⟨sortKeys, hsortKeys, h⟩ := bind_ok.mp h
  obtain ⟨entries, hentries, h⟩ := bind_ok.mp h
  obtain ⟨named, hnamed, h⟩ := bind_ok.mp h
  obtain rfl := Except.ok.inj h
  obtain rfl := criteriaEntries_ok hentries
  have hread := (mapM_ok.mp hnamed).imp fun _ _ => fieldCriteria_ok
  refine valid_of_named rfl (fun k hk => ?_) ?_ (Source.apart_entries hcriteria)
    fun d hd c hc => ?_
  · -- a sort key that is given was made with a field
    have hwritten := (mapM_ok_iff_map fun _ _ => SortKey.ofValue_ok).mp hsortKeys
    exact sound_itemsIfGiven hkeys hitems k.toValue (hwritten ▸ List.mem_map_of_mem hk)
  · have hsame := map_eq_of_forall₂ (f := Prod.fst) (hread.imp fun _ _ hed => hed.1)
    rw [hsame]
  · obtain ⟨e, he, hed⟩ := exists_of_forall₂ hread.flip d hd
    have hsound : e.2.Sound := by
      cases hmap : p.criteria with
      | map es =>
        rw [hmap] at hcriteria he
        exact (soundEntries_iff.mp hcriteria.2 e he).2
      | _ =>
        rw [hmap] at he
        cases he
    exact (sound_itemsIfGiven hsound hed.2 c.toValue (List.mem_map_of_mem hc)).1

theorem fields_parts (calls : List Builder.Call) :
    (Source.entriesOf (Builder.run calls).parts.criteria).map Prod.fst =
      (Source.builder calls).fields := by
  rw [Source.fields, ← Builder.fields_run]
  exact List.map_map

theorem sound_parts {calls : List Builder.Call} (h : ∀ c ∈ calls, c.Sound) :
    (Builder.run calls).parts.sortKeys.Sound ∧ (Builder.run calls).parts.criteria.Sound := by
  have hkeeps := Builder.keeps_run h
  refine ⟨soundAll_iff.mpr (List.forall_mem_map.mpr hkeeps.named), ?_, soundEntries_iff.mpr ?_⟩
  · rw [List.map_map]
    exact (Builder.fields_run calls).symm ▸ apart_distinct _
  · exact List.forall_mem_map.mpr fun e he => ⟨(hkeeps.sound e he).1,
      soundAll_iff.mpr (hkeeps.sound e he).2⟩

end Parts

section Wire

theorem wireFilters_ok {filters : List (Value × Value)} (h : wireFilters v = .ok filters) :
    filters = Source.entriesOf v := by
  unfold wireFilters at h
  split at h
  · split at h
    · cases h
      rfl
    · exact absurd h malformed_ne_ok
  · next hfalsy =>
    cases h
    cases v with
    | map es => simpa [truthy, Source.entriesOf] using hfalsy
    | _ => rfl

theorem wireCriteria_ok {e : Value × Value} {d : Value × List Criterion}
    (h : wireCriteria e = .ok d) : e.1 = d.1 ∧ ∀ c ∈ d.2, c.value.isList = false := by
  unfold wireCriteria at h
  split at h
  · obtain ⟨c, hc, h⟩ := bind_ok.mp h
    cases h
    exact ⟨rfl, by simpa using Criterion.isList_of_ofParts hc⟩
  · obtain ⟨cs, hcs, h⟩ := bind_ok.mp h
    cases h
    refine ⟨rfl, fun c hc => ?_⟩
    obtain ⟨v, _, hv⟩ := exists_of_mapM hcs c hc
    obtain ⟨es, _, hes⟩ := Criterion.ofWire_ok.mp hv
    exact Criterion.isList_of_ofParts hes
  · exact absurd h malformed_ne_ok

theorem ofWire_counts (h : ofWire v = .ok r) :
    Counts (Source.wire v).offset r.offset ∧
      ∃ w, (Source.wire v).pageSize = .ok w ∧ Counts w r.pageSize := by
  cases v with
  | map es =>
    obtain ⟨_, _, h⟩ := bind_ok.mp h
    obtain ⟨_, _, h⟩ := bind_ok.mp h
    obtain ⟨_, _, h⟩ := bind_ok.mp h
    obtain ⟨_, _, h⟩ := bind_ok.mp h
    obtain ⟨hoffset, hpageSize, _⟩ := assemble_ok.mp h
    exact ⟨hoffset, _, rfl, hpageSize⟩
  | _ => exact absurd h malformed_ne_ok

theorem ofWire_valid (hsound : v.Sound) (h : ofWire v = .ok r) :
    r.Valid ∧ (r.criteria.map fun e => text e.1).Sublist (Source.wire v).fields := by
  cases v with
  | map es =>
    obtain ⟨sortFields, _, h⟩ := bind_ok.mp h
    obtain ⟨filters, hfilters, h⟩ := bind_ok.mp h
    obtain ⟨criteria, hcriteria, h⟩ := bind_ok.mp h
    obtain ⟨sortKeys, hsortKeys, h⟩ := bind_ok.mp h
    obtain ⟨_, _, hkeys, _, named, hnamed, hkept⟩ := assemble_ok.mp h
    obtain rfl := wireFilters_ok hfilters
    have hread := (mapM_ok.mp hcriteria).imp fun _ _ => wireCriteria_ok
    refine valid_of_named hkept ?_ ?_ (Source.apart_fields hsound) ?_
    · rw [hkeys]
      intro k hk
      obtain ⟨w, _, hw⟩ := exists_of_mapM hsortKeys k hk
      obtain ⟨ds, _, hds⟩ := SortKey.ofWire_ok.mp hw
      exact (SortKey.ofParts_ok.mp hds).2.1
    · have hsame := map_eq_of_forall₂ (f := Prod.fst) (hread.imp fun _ _ hed => hed.1)
      rw [hnamed, List.map_map] at hsame
      exact hsame ▸ List.Sublist.refl _
    · exact settled_of_named hnamed fun d hd => by
        obtain ⟨e, _, hed⟩ := exists_of_forall₂ hread.flip d hd
        exact hed.2
  | _ => exact absurd h malformed_ne_ok

end Wire

section Event

theorem eventSortKeys_named {several field order : Value} {keys : List SortKey}
    (h : eventSortKeys several field order = .ok keys) : ∀ k ∈ keys, k.field ≠ "" := by
  unfold eventSortKeys at h
  split at h
  · obtain ⟨entries, _, h⟩ := bind_ok.mp h
    intro k hk
    obtain ⟨w, _, hw⟩ := exists_of_mapM h k hk
    obtain ⟨_, _, hw⟩ := bind_ok.mp hw
    obtain ⟨_, _, hw⟩ := bind_ok.mp hw
    exact (SortKey.ofParts_ok.mp hw).2.1
  · split at h
    · obtain ⟨_, _, h⟩ := bind_ok.mp h
      obtain ⟨key, hkey, h⟩ := bind_ok.mp h
      cases h
      simpa using (SortKey.ofParts_ok.mp hkey).2.1
    · cases h
      simp

theorem eventCriterion_settled {cs : List Criterion} (h : eventCriterion v = .ok cs) :
    ∀ c ∈ cs, c.value.isList = false := by
  obtain ⟨value, _, h⟩ := bind_ok.mp h
  obtain ⟨used, _, h⟩ := bind_ok.mp h
  split at h
  · obtain ⟨_, _, h⟩ := bind_ok.mp h
    obtain ⟨_, _, h⟩ := bind_ok.mp h
    obtain ⟨c, hc, h⟩ := bind_ok.mp h
    cases h
    simpa using Criterion.isList_of_ofParts hc
  · cases h
    simp

theorem eventCriteria_ok {e : Value × Value} {d : Value × List Criterion}
    (h : eventCriteria e = .ok d) : e.1 = d.1 ∧ ∀ c ∈ d.2, c.value.isList = false := by
  unfold eventCriteria at h
  split at h
  · obtain ⟨found, hfound, h⟩ := bind_ok.mp h
    cases h
    refine ⟨rfl, fun c hc => ?_⟩
    obtain ⟨cs, hcs, hc⟩ := List.mem_flatten.mp hc
    obtain ⟨w, _, hw⟩ := exists_of_mapM hfound cs hcs
    exact eventCriterion_settled hw c hc
  · cases h
    exact ⟨rfl, by simp⟩

theorem eventFilters_ok {criteria : List (Value × List Criterion)}
    (h : eventFilters v = .ok criteria) :
    (criteria.map Prod.fst).Sublist ((Source.entriesOf v).map Prod.fst) ∧
      ∀ d ∈ criteria, ∀ c ∈ d.2, c.value.isList = false := by
  unfold eventFilters at h
  split at h
  · obtain ⟨entries, hentries, h⟩ := bind_ok.mp h
    obtain ⟨read, hread, h⟩ := bind_ok.mp h
    cases h
    have hread := (mapM_ok.mp hread).imp fun _ _ => eventCriteria_ok
    have hgiven : entries = Source.entriesOf v := by
      cases v with
      | map es => exact (Except.ok.inj hentries).symm
      | _ => cases hentries
    rw [← hgiven, map_eq_of_forall₂ (f := Prod.fst) (hread.imp fun _ _ hed => hed.1)]
    refine ⟨List.filter_sublist.map _, fun d hd => ?_⟩
    obtain ⟨e, _, hed⟩ := exists_of_forall₂ hread.flip d (List.mem_filter.mp hd).1
    exact hed.2
  · cases h
    simp

theorem ofEvent_counts (h : ofEvent v = .ok r) :
    Counts (Source.event v).offset r.offset ∧
      ∃ w, (Source.event v).pageSize = .ok w ∧ Counts w r.pageSize := by
  cases v with
  | map es =>
    obtain ⟨pageSize, hsize, h⟩ := bind_ok.mp (show ofEventEntries es = .ok r from h)
    obtain ⟨_, _, h⟩ := bind_ok.mp h
    obtain ⟨_, _, h⟩ := bind_ok.mp h
    obtain ⟨hoffset, hpageSize, _⟩ := assemble_ok.mp h
    exact ⟨hoffset, pageSize, hsize, hpageSize⟩
  | _ => cases h

theorem ofEvent_valid (hsound : v.Sound) (h : ofEvent v = .ok r) :
    r.Valid ∧ (r.criteria.map fun e => text e.1).Sublist (Source.event v).fields := by
  cases v with
  | map es =>
    obtain ⟨_, _, h⟩ := bind_ok.mp (show ofEventEntries es = .ok r from h)
    obtain ⟨sortKeys, hsortKeys, h⟩ := bind_ok.mp h
    obtain ⟨criteria, hcriteria, h⟩ := bind_ok.mp h
    obtain ⟨_, _, hkeys, _, named, hnamed, hkept⟩ := assemble_ok.mp h
    obtain ⟨hfields, hsettled⟩ := eventFilters_ok hcriteria
    refine valid_of_named hkept ?_ ?_ (Source.apart_fields hsound)
      (settled_of_named hnamed hsettled)
    · exact hkeys ▸ eventSortKeys_named hsortKeys
    · rw [hnamed, List.map_map] at hfields
      exact hfields
  | _ => cases h

end Event

namespace Source

variable {s : Source}

theorem valid_of_request (hsound : s.Sound) (h : s.request = .ok r) :
    r.Valid ∧ (r.criteria.map fun e => text e.1).Sublist s.fields := by
  cases s with
  | parts p => exact ofParts_valid hsound.1 hsound.2 h
  | builder calls =>
    obtain ⟨hkeys, hcriteria⟩ := sound_parts hsound
    exact fields_parts calls ▸ ofParts_valid hkeys hcriteria h
  | wire payload => exact ofWire_valid hsound h
  | event e => exact ofEvent_valid hsound h

theorem counts_of_request (h : s.request = .ok r) :
    Counts s.offset r.offset ∧ ∃ w, s.pageSize = .ok w ∧ Counts w r.pageSize := by
  cases s with
  | parts p | builder calls =>
    obtain ⟨hoffset, hpageSize⟩ := ofParts_counts h
    exact ⟨hoffset, _, rfl, hpageSize⟩
  | wire payload => exact ofWire_counts h
  | event e => exact ofEvent_counts h

/-- Whichever way a request is made, it is valid, its fields come in the order in which they were
first given, and its counts are those that were given: none, or a whole number. -/
theorem request_valid (hsound : s.Sound) (h : s.request = .ok r) :
    r.Valid ∧ (r.criteria.map fun e => text e.1).Sublist s.fields ∧
      Counts s.offset r.offset ∧ ∃ w, s.pageSize = .ok w ∧ Counts w r.pageSize := by
  obtain ⟨hvalid, hfields⟩ := valid_of_request hsound h
  exact ⟨hvalid, hfields, counts_of_request h⟩

end Source

namespace Example

def calls : List Builder.Call :=
  [.addFilter (.text "name") (.criterion (.text "an") (some .contains) none), .rows (.int 20),
    .addFilter (.text "age") (.criterion (.tuple [.int 1, .int 9]) (some .between) none),
    .addFilter (.list []) .null, .addSortField (.text "age") (.int (-1)), .first .null,
    .addFilter (.text "name") (.criterion (.text "ie") (some .endsWith) (some .any))]

def builder : Builder where
  offset := .null
  pageSize := .int 20
  sortKeys := [⟨"age", some (-1)⟩]
  criteria := [
    (.text "name", [.criterion (.text "an") (some .contains) none,
      .criterion (.text "ie") (some .endsWith) (some .any)]),
    (.text "age", [.criterion (.tuple [.int 1, .int 9]) (some .between) none])]
  globalField := .null

def built : Request where
  offset := 0
  pageSize := 20
  sortKeys := [⟨"age", some (-1)⟩]
  criteria := [
    ("name", [⟨.text "an", some .contains, none⟩, ⟨.text "ie", some .endsWith, some .any⟩]),
    ("age", [⟨.tuple [.int 1, .int 9], some .between, none⟩])]
  globalField := .null

end Example

/-- One of the calls fails, and two give criteria for one field. -/
theorem Source.request_valid_calls :
    (Source.builder Example.calls).request = .ok Example.built ∧ Example.built.Valid ∧
      (Example.built.criteria.map fun e => text e.1).Sublist [.text "name", .text "age"] := by
  have hsound : (Source.builder Example.calls).Sound := by
    simp [Example.calls, Source.Sound, Builder.Call.Sound, Value.Sound, SoundAll, isList]
  have hrun : Builder.run Example.calls = Example.builder := by cbv
  have hbuilt : (Source.builder Example.calls).request = .ok Example.built := by
    rw [Source.request, hrun]
    rfl
  have hfields : (Source.builder Example.calls).fields = [.text "name", .text "age"] := by cbv
  obtain ⟨hvalid, hsub, -⟩ := request_valid hsound hbuilt
  exact ⟨hbuilt, hvalid, hfields ▸ hsub⟩

end Request
end TableQuery
