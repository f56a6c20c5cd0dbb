import TableQuery.Proofs.Request.Grammar
import TableQuery.Proofs.Request.Plain

/-!
# Requests that are turned down without a cause

Two ways of making a request take parts of it for what they should be without looking: an event is
searched for maps, lists and numbers, and the parts of a request for lists. Where a part is
something else, the fault says nothing of the request. For values as a client can send them, these
are all the places: any other request is made, or is malformed, as long as it can be shown.
-/
namespace TableQuery

open Outcome Value

inductive Fault.Causeless : Fault → Prop
  | kind : Causeless .wrongKind
  | part : Causeless .partMissing
  | key : Causeless .keyMissing

namespace Request

variable {first rows last several field order filters : Value} {f : Fault} {legible : Prop}

/-! ## The rows of an event -/

structure SpanEscapes (first rows last : Value) : Prop where
  uncounted : rows.truthy = false
  ends : last.truthy = true
  starts : first.truthy = true
  numbers : ¬(last.IsNumber ∧ first.IsNumber)

theorem minus_error (hlast : last.Plain) (hfirst : first.Plain) :
    last.minus first = .error f ↔ ¬(last.IsNumber ∧ first.IsNumber) ∧ f = .wrongKind := by
  cases hlast <;> cases hfirst <;>
    simp [minus, numberMinus, pair, whole?, IsNumber, bind, Except.bind, eq_comm]

theorem plain_minus {size : Value} (hlast : last.Plain) (hfirst : first.Plain)
    (h : last.minus first = .ok size) : size.Plain := by
  cases hlast <;> cases hfirst <;>
    simp [minus, numberMinus, pair, whole?, bind, Except.bind] at h <;> subst h <;> exact .int _

theorem eventPageSize_error (hfirst : first.Plain) (hlast : last.Plain) :
    eventPageSize first rows last = .error f ↔ SpanEscapes first rows last ∧ f = .wrongKind := by
  unfold eventPageSize
  constructor
  · intro h
    split at h
    · cases h
    · next hrows =>
      split at h
      · next hgiven =>
        split at h
        · next hstart =>
          obtain ⟨hnumbers, rfl⟩ := (minus_error hlast hfirst).mp h
          exact ⟨⟨by simpa using hrows, hgiven, hstart, hnumbers⟩, rfl⟩
        · cases h
      · cases h
  · rintro ⟨⟨hrows, hgiven, hstart, hnumbers⟩, rfl⟩
    rw [if_neg (by simp [hrows]), if_pos hgiven, if_pos hstart]
    exact (minus_error hlast hfirst).mpr ⟨hnumbers, rfl⟩

theorem plain_eventPageSize {size : Value} (hfirst : first.Plain) (hrows : rows.Plain)
    (hlast : last.Plain) (h : eventPageSize first rows last = .ok size) : size.Plain := by
  unfold eventPageSize at h
  split at h
  · exact Except.ok.inj h ▸ hrows
  · split at h
    · split at h
      · exact plain_minus hlast hfirst h
      · exact Except.ok.inj h ▸ hlast
    · exact Except.ok.inj h ▸ .int 0

/-! ## The order of an event -/

inductive StopsAtNoMap {α : Type} (read : Value → Except Fault α) : List Value → Prop
  | intro (before : List Value) (v : Value) (after : List Value)
    (hread : ∀ w ∈ before, ∃ a, read w = .ok a) (hv : v.isMap = false) :
    StopsAtNoMap read (before ++ v :: after)

inductive SortEscapes (several field order : Value) : Fault → Prop
  | number (given : several.truthy = true) (h : several.IsNumber) :
    SortEscapes several field order .wrongKind
  | noMap (items : List Value) (given : several.truthy = true) (hitems : several.items = .ok items)
    (h : StopsAtNoMap eventSortKey items) : SortEscapes several field order .partMissing
  | fieldMap (single : several.truthy = false) (given : field.truthy = true)
    (asked : order.truthy = true) (h : field.isMap = true) :
    SortEscapes several field order .keyMissing
  | fieldNumber (single : several.truthy = false) (given : field.truthy = true)
    (asked : order.truthy = true) (h : field.IsNumber) : SortEscapes several field order .wrongKind

theorem eventSortKey_noMap {v : Value} (h : v.isMap = false) :
    eventSortKey v = .error .partMissing := by
  cases v <;> first | rfl | cases h

theorem failsOnly_eventSortKey {v : Value} (h : AtHand legible v) (hmap : v.isMap = true) :
    FailsOnly (Fault.Reported Fault.IsMalformed (AtHand legible)) (eventSortKey v) := by
  cases v with
  | map es => exact SortKey.failsOnly_ofParts (h.entry "field") (h.entry "order")
  | _ => cases hmap

theorem get?_number {es : List (Value × Value)} (keys : ∀ e ∈ es, ∃ name, e.1 = .text name)
    (n : Int) : Table.get? (.int n) es = none := by
  induction es with
  | nil => rfl
  | cons e es ih =>
    obtain ⟨⟨name, hname⟩, hes⟩ := List.forall_mem_cons.mp keys
    have hsame : e.1.same (.int n) = false := by simp [hname, Value.same, Value.equal, magnitude?]
    rw [Table.get?, hsame, if_neg Bool.false_ne_true, ih hes]

theorem eventSortField_error (h : field.Plain) (given : field.truthy = true) :
    eventSortField field = .error f ↔
      field.isMap = true ∧ f = .keyMissing ∨ field.IsNumber ∧ f = .wrongKind := by
  cases h with
  | null => cases given
  | bool | int => simp [eventSortField, place, isMap, IsNumber, whole?, eq_comm]
  | text => simp [eventSortField, isMap, IsNumber, whole?]
  | list items =>
    cases items with
    | nil => cases given
    | cons => simp [eventSortField, place, at?, isMap, IsNumber, whole?]
  | map es keys =>
    simp [eventSortField, place, get?_number keys, isMap, IsNumber, whole?, eq_comm]

theorem atHand_eventSortField {name : Value} (h : AtHand legible field)
    (hname : eventSortField field = .ok name) : AtHand legible name := by
  obtain ⟨hplain, htext⟩ := h
  cases hplain with
  | text s => exact Except.ok.inj hname ▸ atHand_text s
  | list items hitems =>
    cases items with
    | nil => cases hname
    | cons v items =>
      obtain rfl := Except.ok.inj hname
      exact ⟨hitems v List.mem_cons_self, fun hlegible =>
        hasText_members rfl (htext hlegible) v List.mem_cons_self⟩
  | map es keys => simp [eventSortField, place, get?_number keys] at hname
  | null | bool | int => cases hname

theorem failsOnly_eventSortKeys (hseveral : AtHand legible several) (hfield : AtHand legible field)
    (horder : AtHand legible order) :
    FailsOnly (Fault.Reported (fun f => f.IsMalformed ∨ SortEscapes several field order f)
      (AtHand legible)) (eventSortKeys several field order) := by
  unfold eventSortKeys
  split
  · next hgiven =>
    refine FailsOnly.bind (fun f hf => ?_) fun items hitems f hf => ?_
    · obtain ⟨hnumber, rfl⟩ := (hseveral.1.items_error hgiven).mp hf
      exact .meant _ (.inr (.number hgiven hnumber))
    · obtain ⟨before, v, after, rfl, hv, hread⟩ := mapM_error.mp hf
      have hhand := hseveral.of_items hitems v (by simp)
      cases hmap : v.isMap with
      | false =>
        obtain rfl := Except.error.inj ((eventSortKey_noMap hmap).symm.trans hv)
        exact .meant _ (.inr (.noMap _ hgiven hitems ⟨before, v, after, hread, hmap⟩))
      | true => exact (failsOnly_eventSortKey hhand hmap f hv).imp fun _ => .inl
  · next hsingle =>
    split
    · next hgiven =>
      obtain ⟨hnamed, hasked⟩ := (Bool.and_eq_true _ _).mp hgiven
      have hsingle : several.truthy = false := by simpa using hsingle
      refine FailsOnly.bind (fun f hf => ?_) fun name hname => ?_
      · rcases (eventSortField_error hfield.1 hnamed).mp hf with ⟨hmap, rfl⟩ | ⟨hnumber, rfl⟩
        · exact .meant _ (.inr (.fieldMap hsingle hnamed hasked hmap))
        · exact .meant _ (.inr (.fieldNumber hsingle hnamed hasked hnumber))
      · have hkey := SortKey.failsOnly_ofParts (atHand_eventSortField hfield hname) horder
        exact (hkey.imp fun f => .imp fun _ => .inl).bind fun _ _ => failsOnly_ok
    · exact failsOnly_ok

theorem SortEscapes.error (h : SortEscapes several field order f) (hseveral : several.Plain)
    (hfield : field.Plain) : eventSortKeys several field order = .error f := by
  have hsort : several.truthy = false → field.truthy = true → order.truthy = true →
      eventSortField field = .error f → eventSortKeys several field order = .error f := by
    intro single given asked hf
    rw [eventSortKeys, single, if_neg Bool.false_ne_true, given, asked, hf]
    rfl
  cases h with
  | number given h =>
    rw [eventSortKeys, if_pos given, (hseveral.items_error given).mpr ⟨h, rfl⟩]
    rfl
  | noMap items given hitems h =>
    obtain ⟨before, v, after, hread, hv⟩ := h
    rw [eventSortKeys, if_pos given, hitems, ok_bind]
    exact mapM_error.mpr ⟨before, v, after, rfl, eventSortKey_noMap hv, hread⟩
  | fieldMap single given asked h =>
    exact hsort single given asked ((eventSortField_error hfield given).mpr (.inl ⟨h, rfl⟩))
  | fieldNumber single given asked h =>
    exact hsort single given asked ((eventSortField_error hfield given).mpr (.inr ⟨h, rfl⟩))

/-! ## The criteria of an event -/

def eventItems : Value → List Value
  | .list items => items
  | v => [v]

theorem eventCriteria_eq (e : Value × Value) :
    eventCriteria e = if e.2.truthy then
      (eventItems e.2).mapM eventCriterion >>= fun found => .ok (e.1, found.flatten)
    else .ok (e.1, []) := by
  obtain ⟨key, v⟩ := e
  cases v <;> rfl

theorem eventCriterion_noMap {v : Value} (h : v.isMap = false) :
    eventCriterion v = .error .partMissing := by
  cases v <;> first | rfl | cases h

theorem failsOnly_eventCriterion {v : Value} (h : AtHand legible v) (hmap : v.isMap = true) :
    FailsOnly (Fault.Reported Fault.IsMalformed (AtHand legible)) (eventCriterion v) := by
  cases v with
  | map es =>
    obtain ⟨used, hused⟩ := (h.entry "value").1.exists_inUse
    rw [eventCriterion, Value.field, ok_bind, hused, ok_bind]
    split
    · exact (Criterion.failsOnly_ofParts (h.entry "matchMode") (h.entry "operator")).bind
        fun _ _ => failsOnly_ok
    · exact failsOnly_ok
  | _ => cases hmap

theorem atHand_eventItems {v : Value} (h : AtHand legible v) :
    ∀ w ∈ eventItems v, AtHand legible w := by
  cases v with
  | list items => exact h.of_items rfl
  | _ => simpa [eventItems] using h

theorem atHand_entriesOf {v : Value} (h : AtHand legible v) :
    ∀ e ∈ Source.entriesOf v, (∃ name, e.1 = .text name) ∧ AtHand legible e.2 := by
  obtain ⟨hplain, htext⟩ := h
  cases hplain with
  | map _ keys values =>
    exact fun e he => ⟨keys e he, values e he, fun hlegible =>
      (hasText_entries (htext hlegible) e he).2⟩
  | _ => simp [Source.entriesOf]

def KeyEscapes (v : Value) (f : Fault) : Prop :=
  v.truthy = true ∧ StopsAtNoMap eventCriterion (eventItems v) ∧ f = .partMissing

theorem failsOnly_eventCriteria {e : Value × Value} (h : AtHand legible e.2) :
    FailsOnly (Fault.Reported (fun f => f.IsMalformed ∨ KeyEscapes e.2 f) (AtHand legible))
      (eventCriteria e) := by
  rw [eventCriteria_eq]
  split
  · next given =>
    refine FailsOnly.bind (fun f hf => ?_) fun _ _ => failsOnly_ok
    obtain ⟨before, v, after, hsplit, hv, hread⟩ := mapM_error.mp hf
    cases hmap : v.isMap with
    | false =>
      obtain rfl := Except.error.inj ((eventCriterion_noMap hmap).symm.trans hv)
      have hstop : StopsAtNoMap eventCriterion (eventItems e.2) :=
        hsplit ▸ ⟨before, v, after, hread, hmap⟩
      exact .meant _ (.inr ⟨given, hstop, rfl⟩)
    | true =>
      have hhand := atHand_eventItems h v (by simp [hsplit])
      exact (failsOnly_eventCriterion hhand hmap f hv).imp fun _ => .inl
  · exact failsOnly_ok

theorem KeyEscapes.error {key v : Value} (h : KeyEscapes v f) :
    eventCriteria (key, v) = .error f := by
  obtain ⟨given, hstop, rfl⟩ := h
  rw [eventCriteria_eq, if_pos given]
  generalize eventItems v = items at hstop
  obtain ⟨before, w, after, hread, hw⟩ := hstop
  rw [mapM_error.mpr ⟨before, w, after, rfl, eventCriterion_noMap hw, hread⟩]
  rfl

inductive FilterEscapes : Value → Fault → Prop
  | noMap (filters : Value) (given : filters.truthy = true) (h : filters.isMap = false) :
    FilterEscapes filters .partMissing
  | key (before : List (Value × Value)) (key v : Value) (after : List (Value × Value)) (f : Fault)
    (hread : ∀ e ∈ before, ∃ d, eventCriteria e = .ok d) (h : KeyEscapes v f) :
    FilterEscapes (.map (before ++ (key, v) :: after)) f

theorem failsOnly_eventFilters (h : AtHand legible filters) :
    FailsOnly (Fault.Reported (fun f => f.IsMalformed ∨ FilterEscapes filters f)
      (AtHand legible)) (eventFilters filters) := by
  unfold eventFilters
  split
  · next given =>
    refine FailsOnly.bind (fun f hf => ?_) fun es hes => ?_
    · cases hmap : filters.isMap with
      | false =>
        obtain rfl : f = .partMissing := by
          cases filters <;> first | exact (Except.error.inj hf).symm | cases hf
        exact .meant _ (.inr (.noMap filters given hmap))
      | true =>
        cases filters with
        | map es => exact absurd hf (by simp [Value.entries])
        | _ => cases hmap
    · obtain rfl : filters = .map es := by
        cases filters <;> first | exact congrArg _ (Except.ok.inj hes) | cases hes
      refine FailsOnly.bind (fun f hf => ?_) fun _ _ => failsOnly_ok
      obtain ⟨before, ⟨key, v⟩, after, rfl, hv, hread⟩ := mapM_error.mp hf
      have hhand : AtHand legible v := (atHand_entriesOf h (key, v) (by simp [Source.entriesOf])).2
      refine (failsOnly_eventCriteria hhand f hv).imp fun g => Or.imp_right fun hescapes => ?_
      exact .key before key v after g hread hescapes
  · exact failsOnly_ok

theorem FilterEscapes.causeless (h : FilterEscapes filters f) : f.Causeless := by
  cases h with
  | noMap => exact .part
  | key before key v after _ _ h =>
    obtain ⟨_, _, rfl⟩ := h
    exact .part

theorem FilterEscapes.error (h : FilterEscapes filters f) : eventFilters filters = .error f := by
  cases h with
  | noMap _ given h =>
    rw [eventFilters, if_pos given]
    cases filters <;> first | rfl | cases h
  | key before key v after _ hread h =>
    have hall : (before ++ (key, v) :: after).mapM eventCriteria = .error f :=
      mapM_error.mpr ⟨before, (key, v), after, rfl, h.error, hread⟩
    rw [eventFilters, if_pos (by simp [truthy]), Value.entries, ok_bind, hall]
    rfl

/-! ## Events -/

/-- The stages at which an event is turned down without a cause, each reached when the ones before
it are passed. -/
inductive EventEscapes (es : List (Value × Value)) : Fault → Prop
  | span (h : SpanEscapes (entry "first" es) (entry "rows" es) (entry "last" es)) :
    EventEscapes es .wrongKind
  | sort (f : Fault)
    (hsize : ∃ size, eventPageSize (entry "first" es) (entry "rows" es) (entry "last" es) =
      .ok size)
    (h : SortEscapes (entry "multiSortMeta" es) (entry "sortField" es) (entry "sortOrder" es) f) :
    EventEscapes es f
  | filters (f : Fault)
    (hsize : ∃ size, eventPageSize (entry "first" es) (entry "rows" es) (entry "last" es) =
      .ok size)
    (hsort : ∃ keys, eventSortKeys (entry "multiSortMeta" es) (entry "sortField" es)
      (entry "sortOrder" es) = .ok keys)
    (h : FilterEscapes (entry "filters" es) f) : EventEscapes es f

def EventLegible (es : List (Value × Value)) : Prop :=
  HasText (.map es) ∧ ∀ size,
    eventPageSize (entry "first" es) (entry "rows" es) (entry "last" es) = .ok size → HasText size

variable {es : List (Value × Value)}

theorem EventEscapes.causeless (h : EventEscapes es f) : f.Causeless := by
  cases h with
  | span => exact .kind
  | sort _ _ h => cases h <;> constructor
  | filters _ _ _ h => exact h.causeless

theorem EventEscapes.error (h : EventEscapes es f) (hes : (Value.map es).Plain) :
    ofEvent (.map es) = .error f := by
  change ofEventEntries es = .error f
  unfold ofEventEntries
  dsimp only
  cases h with
  | span h =>
    rw [(eventPageSize_error (hes.entry "first") (hes.entry "last")).mpr ⟨h, rfl⟩]
    rfl
  | sort _ hsize h =>
    obtain ⟨size, hsize⟩ := hsize
    simp only [hsize, ok_bind, h.error (hes.entry "multiSortMeta") (hes.entry "sortField")]
    rfl
  | filters _ hsize hsort h =>
    obtain ⟨size, hsize⟩ := hsize
    obtain ⟨keys, hsort⟩ := hsort
    simp only [hsize, hsort, ok_bind, h.error]
    rfl

theorem failsOnly_ofEvent (hes : (Value.map es).Plain) :
    FailsOnly (Fault.Reported (fun f => f.IsMalformed ∨ EventEscapes es f)
      (AtHand (EventLegible es))) (ofEvent (.map es)) := by
  have hhand : AtHand (EventLegible es) (.map es) := ⟨hes, And.left⟩
  change FailsOnly _ (ofEventEntries es)
  refine FailsOnly.bind (fun f hf => ?_) fun size hsize => ?_
  · obtain ⟨hspan, rfl⟩ :=
      (eventPageSize_error (hes.entry "first") (hes.entry "last")).mp hf
    exact .meant _ (.inr (.span hspan))
  refine FailsOnly.bind ?_ fun keys hsort => ?_
  · refine (failsOnly_eventSortKeys (hhand.entry _) (hhand.entry _) (hhand.entry _)).imp
      fun f => .imp fun g => Or.imp_right fun h => ?_
    exact .sort g ⟨size, hsize⟩ h
  refine FailsOnly.bind ?_ fun criteria hcriteria => ?_
  · refine (failsOnly_eventFilters (hhand.entry _)).imp fun f => .imp fun g =>
      Or.imp_right fun h => ?_
    exact .filters g ⟨size, hsize⟩ ⟨keys, hsort⟩ h
  have hsizeHand : AtHand (EventLegible es) size :=
    ⟨plain_eventPageSize (hes.entry _) (hes.entry _) (hes.entry _) hsize, fun h => h.2 size hsize⟩
  have hkeys : ∀ x ∈ criteria, AtHand (EventLegible es) x.1 := by
    intro x hx
    have hkey := (eventFilters_ok hcriteria).1.subset (List.mem_map_of_mem hx)
    obtain ⟨e, he, heq⟩ := List.mem_map.mp hkey
    obtain ⟨⟨name, hname⟩, _⟩ := atHand_entriesOf (hhand.entry "filters") e he
    rw [← heq, hname]
    exact atHand_text name
  exact (failsOnly_assemble (hhand.entry _) hsizeHand hkeys).imp fun f => .imp fun _ => .inl

/-! ## Parts -/

structure PlainParts (p : RequestParts) : Prop where
  offset : p.offset.Plain
  pageSize : p.pageSize.Plain
  sortKeys : p.sortKeys.Plain
  criteria : p.criteria.Plain

inductive CriteriaEscape : Value → Prop
  | number (before : List (Value × Value)) (key v : Value) (after : List (Value × Value))
    (hbefore : ∀ e ∈ before, e.2.truthy = false) (given : v.truthy = true) (h : v.IsNumber) :
    CriteriaEscape (.map (before ++ (key, v) :: after))

inductive PartsEscape (p : RequestParts) : Fault → Prop
  | sortKeys (hoffset : Wire.IsCount p.offset) (hpageSize : Wire.IsCount p.pageSize)
    (given : p.sortKeys.truthy = true) (h : p.sortKeys.IsNumber) : PartsEscape p .wrongKind
  | criteria (hoffset : Wire.IsCount p.offset) (hpageSize : Wire.IsCount p.pageSize)
    (unsorted : p.sortKeys.truthy = false) (h : CriteriaEscape p.criteria) :
    PartsEscape p .wrongKind

variable {v : Value} {items : List Value}

theorem itemsIfGiven_error (h : v.Plain) :
    v.itemsIfGiven = .error f ↔ (v.truthy = true ∧ v.IsNumber) ∧ f = .wrongKind := by
  unfold itemsIfGiven
  split
  · next given => rw [h.items_error given, and_iff_right given]
  · next absent => simp [absent]

/-- Nothing is made of the items of a plain value, so there are none when they are all read. -/
theorem itemsIfGiven_read {α : Type} {read : Value → Except Fault α} {as : List α} (h : v.Plain)
    (hread : ∀ w a, w.Plain → read w ≠ .ok a) (hitems : v.itemsIfGiven = .ok items)
    (has : items.mapM read = .ok as) : v.truthy = false := by
  by_contra given
  have given : v.truthy = true := by simpa using given
  rw [itemsIfGiven, if_pos given] at hitems
  have hnone : items = [] := by
    rw [List.eq_nil_iff_forall_not_mem]
    intro w hw
    have hhand : AtHand False v := ⟨h, False.elim⟩
    obtain ⟨a, ha⟩ := exists_mapM.mp ⟨as, has⟩ w hw
    exact hread w a (hhand.of_items hitems w hw).1 ha
  subst hnone
  cases h <;> simp_all [Value.items, truthy]

theorem plain_not_sortKey {k : SortKey} (h : v.Plain) : SortKey.ofValue v ≠ .ok k := by
  rw [ne_eq, SortKey.ofValue_ok]
  rintro rfl
  cases h

theorem plain_not_criterion {name : String} {c : Criterion} (h : v.Plain) :
    Criterion.ofValue name v ≠ .ok c := by
  rw [ne_eq, Criterion.ofValue_ok]
  rintro rfl
  cases h

theorem fieldCriteria_absent {name : String} (h : v.truthy = false) :
    fieldCriteria (.text name, v) = .ok (name, []) := by
  simp only [fieldCriteria, fieldName, itemsIfGiven, h, ok_bind, if_neg Bool.false_ne_true]
  rfl

theorem fieldCriteria_read {e : Value × Value} {d : String × List Criterion} (h : e.2.Plain)
    (hd : fieldCriteria e = .ok d) : e.2.truthy = false := by
  obtain ⟨name, _, hd⟩ := bind_ok.mp hd
  obtain ⟨items, hitems, hd⟩ := bind_ok.mp hd
  obtain ⟨cs, hcs, _⟩ := bind_ok.mp hd
  exact itemsIfGiven_read h (fun _ _ => plain_not_criterion) hitems hcs

theorem failsOnly_fieldCriteria {e : Value × Value} (hkey : ∃ name, e.1 = .text name)
    (hvalue : e.2.Plain) :
    FailsOnly (fun f => f.IsMalformed ∨ (e.2.truthy = true ∧ e.2.IsNumber) ∧ f = .wrongKind)
      (fieldCriteria e) := by
  obtain ⟨key, v⟩ := e
  obtain ⟨name, rfl⟩ : ∃ name, key = .text name := hkey
  refine FailsOnly.bind (fun f hf => by cases hf) fun _ _ => ?_
  refine FailsOnly.bind (fun f hf => .inr ((itemsIfGiven_error hvalue).mp hf)) fun items _ => ?_
  refine (FailsOnly.mapM fun w _ => ?_).bind fun _ _ => failsOnly_ok
  unfold Criterion.ofValue
  split
  · exact failsOnly_ok
  · exact failsOnly_error (.inl ⟨_, rfl⟩)

variable {criteria : Value}

theorem failsOnly_criteria (h : criteria.Plain) (hes : criteriaEntries criteria = .ok es) :
    FailsOnly (fun f => f.IsMalformed ∨ CriteriaEscape criteria ∧ f = .wrongKind)
      (es.mapM fieldCriteria) := by
  intro f hf
  cases h with
  | null =>
    obtain rfl := Except.ok.inj hes
    cases hf
  | map _ keys values =>
    obtain rfl := Except.ok.inj hes
    obtain ⟨before, e, after, rfl, he, hread⟩ := mapM_error.mp hf
    have hmem : e ∈ before ++ e :: after := by simp
    refine (failsOnly_fieldCriteria (keys e hmem) (values e hmem) f he).imp_right ?_
    rintro ⟨⟨given, hnumber⟩, rfl⟩
    refine ⟨.number before e.1 e.2 after (fun d hd => ?_) given hnumber, rfl⟩
    obtain ⟨_, hd'⟩ := hread d hd
    exact fieldCriteria_read (values d (by simp [hd])) hd'
  | _ => exact absurd hes malformed_ne_ok

theorem CriteriaEscape.error (h : CriteriaEscape criteria) (hplain : criteria.Plain) :
    ∃ es, criteriaEntries criteria = .ok es ∧ es.mapM fieldCriteria = .error .wrongKind := by
  obtain ⟨before, key, v, after, hbefore, given, h⟩ := h
  cases hplain with
  | map _ keys values =>
    refine ⟨_, rfl, mapM_error.mpr ⟨before, (key, v), after, rfl, ?_, fun e he => ?_⟩⟩
    · obtain ⟨name, rfl⟩ := keys (key, v) (by simp)
      have hv : v.itemsIfGiven = .error .wrongKind :=
        (itemsIfGiven_error (values (.text name, v) (by simp))).mpr ⟨⟨given, h⟩, rfl⟩
      simp only [fieldCriteria, fieldName, ok_bind, hv]
      rfl
    · obtain ⟨key, w⟩ := e
      obtain ⟨name, rfl⟩ := keys (key, w) (by simp [he])
      exact ⟨_, fieldCriteria_absent (hbefore _ he)⟩

variable {p : RequestParts}

theorem PartsEscape.causeless (h : PartsEscape p f) : f.Causeless := by
  cases h <;> exact .kind

theorem PartsEscape.error (h : PartsEscape p f) (hp : PlainParts p) : ofParts p = .error f := by
  unfold ofParts
  cases h with
  | sortKeys hoffset hpageSize given h =>
    obtain ⟨n, hn⟩ := (exists_count "offset").mpr hoffset
    obtain ⟨k, hk⟩ := (exists_count "page_size").mpr hpageSize
    rw [hn, hk, ok_bind, ok_bind, (itemsIfGiven_error hp.sortKeys).mpr ⟨⟨given, h⟩, rfl⟩]
    rfl
  | criteria hoffset hpageSize unsorted h =>
    obtain ⟨n, hn⟩ := (exists_count "offset").mpr hoffset
    obtain ⟨k, hk⟩ := (exists_count "page_size").mpr hpageSize
    have hunsorted : p.sortKeys.itemsIfGiven = .ok [] := by simp [itemsIfGiven, unsorted]
    obtain ⟨es, hes, hall⟩ := h.error hp.criteria
    simp only [hn, hk, hunsorted, hes, ok_bind, List.mapM_nil, pure_bind, hall]
    rfl

theorem failsOnly_ofParts (hp : PlainParts p) :
    FailsOnly (Fault.Reported (fun f => f.IsMalformed ∨ PartsEscape p f)
      (AtHand (HasText p.offset ∧ HasText p.pageSize))) (ofParts p) := by
  have hcount : ∀ {part : String} {w : Value}, AtHand (HasText p.offset ∧ HasText p.pageSize) w →
      FailsOnly (Fault.Reported (fun f => f.IsMalformed ∨ PartsEscape p f)
        (AtHand (HasText p.offset ∧ HasText p.pageSize))) (count part w) :=
    fun hw => (failsOnly_count hw).imp fun f => .imp fun _ => .inl
  refine (hcount ⟨hp.offset, And.left⟩).bind fun n hn => ?_
  refine (hcount ⟨hp.pageSize, And.right⟩).bind fun k hk => ?_
  have hoffset : Wire.IsCount p.offset := (exists_count _).mp ⟨n, hn⟩
  have hpageSize : Wire.IsCount p.pageSize := (exists_count _).mp ⟨k, hk⟩
  refine FailsOnly.bind (fun f hf => ?_) fun items hitems => ?_
  · obtain ⟨⟨given, hnumber⟩, rfl⟩ := (itemsIfGiven_error hp.sortKeys).mp hf
    exact .meant _ (.inr (.sortKeys hoffset hpageSize given hnumber))
  refine FailsOnly.bind (FailsOnly.mapM fun w _ => ?_) fun keys hkeys => ?_
  · unfold SortKey.ofValue
    split
    · exact failsOnly_ok
    · exact failsOnly_error (.meant _ (.inl ⟨_, rfl⟩))
  have unsorted : p.sortKeys.truthy = false :=
    itemsIfGiven_read hp.sortKeys (fun _ _ => plain_not_sortKey) hitems hkeys
  refine FailsOnly.bind ?_ fun es hes => ?_
  · unfold criteriaEntries
    split
    iterate 2 exact failsOnly_ok
    exact failsOnly_error (.meant _ (.inl ⟨_, rfl⟩))
  refine FailsOnly.bind (fun f hf => ?_) fun _ _ => failsOnly_ok
  rcases failsOnly_criteria hp.criteria hes f hf with hmalformed | ⟨hescape, rfl⟩
  · exact .meant f (.inl hmalformed)
  · exact .meant _ (.inr (.criteria hoffset hpageSize unsorted hescape))

/-! ## Both -/

/-- A request is made or is malformed, unless a number has too many digits to be shown. -/
inductive Settles (legible : Prop) : Except Fault Request → Prop
  | made (r : Request) : Settles legible (.ok r)
  | malformed (cause : Malformed) : Settles legible (.error (.malformed cause))
  | digits (h : ¬legible) : Settles legible (.error .badValue)

theorem settles_iff {escapes : Fault → Prop} {made : Except Fault Request}
    (hescape : ∀ f, escapes f → made = .error f ∧ f.Causeless)
    (honly : FailsOnly (Fault.Reported (fun f => f.IsMalformed ∨ escapes f) (AtHand legible))
      made) :
    Settles legible made ↔ ∀ f, ¬escapes f := by
  constructor
  · intro h f hf
    obtain ⟨rfl, hcauseless⟩ := hescape f hf
    cases h <;> cases hcauseless
  · intro hnone
    cases made with
    | ok r => exact .made r
    | error f =>
      rcases (honly f rfl).of_atHand with (⟨cause, rfl⟩ | hf) | ⟨rfl, hlegible⟩
      · exact .malformed cause
      · exact absurd hf (hnone f)
      · exact .digits hlegible

/-- Of what a client can send, an event and the parts of a request are made a request or are
malformed, but for numbers with too many digits to be shown, exactly when nothing of them is at one
of the places named; and what is there is turned down without a cause. -/
theorem malformed_or_escapes {es : List (Value × Value)} {p : RequestParts}
    (hes : (Value.map es).Plain) (hp : PlainParts p) :
    ((Settles (EventLegible es) (ofEvent (.map es)) ↔ ∀ f, ¬EventEscapes es f) ∧
      ∀ f, EventEscapes es f → ofEvent (.map es) = .error f ∧ f.Causeless) ∧
    (Settles (HasText p.offset ∧ HasText p.pageSize) (ofParts p) ↔ ∀ f, ¬PartsEscape p f) ∧
      ∀ f, PartsEscape p f → ofParts p = .error f ∧ f.Causeless := by
  have hevent : ∀ f, EventEscapes es f → ofEvent (.map es) = .error f ∧ f.Causeless :=
    fun f h => ⟨h.error hes, h.causeless⟩
  have hparts : ∀ f, PartsEscape p f → ofParts p = .error f ∧ f.Causeless :=
    fun f h => ⟨h.error hp, h.causeless⟩
  exact ⟨⟨settles_iff hevent (failsOnly_ofEvent hes), hevent⟩,
    settles_iff hparts (failsOnly_ofParts hp), hparts⟩

namespace Example

def sortedByNumber : List (Value × Value) := [(.text "multiSortMeta", .list [.int 5])]

def numberForSortKeys : RequestParts := ⟨.null, .null, .int 5, .null, .null⟩

end Example

theorem malformed_or_escapes_numbers :
    (Value.map Example.sortedByNumber).Plain ∧ EventEscapes Example.sortedByNumber .partMissing ∧
      ofEvent (.map Example.sortedByNumber) = .error .partMissing ∧
      PlainParts Example.numberForSortKeys ∧ PartsEscape Example.numberForSortKeys .wrongKind ∧
      ofParts Example.numberForSortKeys = .error .wrongKind := by
  have hplain : (Value.map Example.sortedByNumber).Plain := by
    refine .map _ ?_ ?_ <;> simp only [Example.sortedByNumber, List.forall_mem_singleton]
    · exact ⟨_, rfl⟩
    · exact .list _ (by simpa using .int 5)
  have hsort : SortEscapes (.list [.int 5]) .null .null .partMissing :=
    .noMap [.int 5] rfl rfl ⟨[], .int 5, [], by simp, rfl⟩
  have hevent : EventEscapes Example.sortedByNumber .partMissing := by
    refine .sort _ ⟨.int 0, by cbv⟩ ?_
    simpa [Example.sortedByNumber, entry, Table.get?] using hsort
  have hparts : PlainParts Example.numberForSortKeys := ⟨.null, .null, .int 5, .null⟩
  have hkeys : PartsEscape Example.numberForSortKeys .wrongKind :=
    .sortKeys .absent .absent rfl rfl
  obtain ⟨⟨_, hevents⟩, _, hmade⟩ := malformed_or_escapes hplain hparts
  exact ⟨hplain, hevent, (hevents _ hevent).1, hparts, hkeys, (hmade _ hkeys).1⟩

end Request
end TableQuery
