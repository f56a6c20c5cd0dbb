import TableQuery.Proofs.Request.Escapes
import TableQuery.Proofs.Request.Wire

/-!
# Events as written requests

An event of the right shape asks for what a certain written request asks for: the one that has the
rows, the order and the criteria that the event comes down to. Reading the event and reading that
request give the same, except that an event is ordered before its criteria are read, so that another
of several faults may be found first. A criterion that is not in use is not read in either. A number
that signals cannot be told to be in use, which is a fault of its own in an event.
-/
namespace TableQuery

open Outcome Value

namespace Request

/-! ## What an event comes down to -/

def rowsOf (first rows last : Value) : Value :=
  if rows.truthy then rows
  else if last.truthy && first.truthy then .int (last.whole?.getD 0 - first.whole?.getD 0)
  else if last.truthy then last
  else .int 0

def listed : Value → List Value
  | .list items => items
  | _ => []

def firstName : Value → Value
  | .list (v :: _) => v
  | v => v

def sortEntries (several field order : Value) : List Value :=
  if several.truthy then listed several
  else if field.truthy && order.truthy then
    [.map [(.text "field", firstName field), (.text "order", order)]]
  else []

def criterionValue (v : Value) : Value := entry "value" (Source.entriesOf v)

def usedCriteria (v : Value) : List Value :=
  (eventItems v).filter fun c => !(criterionValue c).isIdle

def writtenEntry (e : Value × Value) : Option (Value × Value) :=
  if e.2.truthy && !(usedCriteria e.2).isEmpty then some (e.1, .list (usedCriteria e.2)) else none

def filterEntries (filters : Value) : List (Value × Value) :=
  (Source.entriesOf filters).filterMap writtenEntry

/-- The written request that an event comes down to. -/
def asWritten (es : List (Value × Value)) : Value :=
  .map [(.text "first", entry "first" es),
    (.text "rows", rowsOf (entry "first" es) (entry "rows" es) (entry "last" es)),
    (.text "sortFields", .list (sortEntries (entry "multiSortMeta" es) (entry "sortField" es)
      (entry "sortOrder" es))),
    (.text "filters", .map (filterEntries (entry "filters" es))),
    (.text "globalFieldName", if (entry "filters" es).truthy then .text "global" else .null)]

def ShapedCriteria (v : Value) : Prop :=
  v.truthy = true → ∀ c ∈ eventItems v, c.isMap = true

/-- An event of the right shape. Counts are whole numbers, if they are there; there are no sort
keys, or a list of maps; the field of a single one, if there is one, is a text or a list with an
item; and criteria are given by key, if at all. What is in those maps is left open. -/
structure Shaped (es : List (Value × Value)) : Prop where
  first : entry "first" es = .null ∨ (entry "first" es).IsNumber
  last : entry "last" es = .null ∨ (entry "last" es).IsNumber
  rows : entry "rows" es = .null ∨ (entry "rows" es).IsNumber
  several : (entry "multiSortMeta" es).truthy = true →
    ∃ items, entry "multiSortMeta" es = .list items ∧ ∀ v ∈ items, v.isMap = true
  field : (entry "sortField" es).truthy = true →
    (∃ name, entry "sortField" es = .text name) ∨ ∃ v vs, entry "sortField" es = .list (v :: vs)
  filters : (entry "filters" es).truthy = true →
    ∃ fs, entry "filters" es = .map fs ∧ ∀ e ∈ fs, ShapedCriteria e.2

def SignallingCriteria (v : Value) : Prop :=
  v.truthy = true ∧ ∃ c ∈ eventItems v, (criterionValue c).Signals

def Signalling (es : List (Value × Value)) : Prop :=
  ∃ e ∈ Source.entriesOf (entry "filters" es), SignallingCriteria e.2

/-! ## Reading up to numbers that signal -/

/-- How one reading goes when another is the same but for numbers that signal: it is the same if
there are none, and otherwise it fails, on the same fault or on such a number. -/
inductive Tracks {α : Type} (signalling : Prop) : Except Fault α → Except Fault α → Prop
  | same (x : Except Fault α) (h : ¬ signalling) : Tracks signalling x x
  | fault (f : Fault) : Tracks signalling (.error f) (.error f)
  | signal (y : Except Fault α) (h : signalling) : Tracks signalling (.error .noDecimal) y

section Tracks

variable {α β γ : Type} {S T : Prop} {x y : Except Fault α} {xs ys : Except Fault β} {as : List α}

theorem Tracks.congr (h : Tracks S x y) (hiff : S ↔ T) : Tracks T x y :=
  propext hiff ▸ h

theorem Tracks.bind (h : Tracks S x y) (f : α → Except Fault β) :
    Tracks S (x >>= f) (y >>= f) := by
  cases h with
  | same _ h => exact .same _ h
  | fault f => exact .fault f
  | signal _ h => exact .signal _ h

theorem Tracks.bind_both (hx : Tracks S x y) (hxs : Tracks T xs ys) (f : α → β → Except Fault γ) :
    Tracks (S ∨ T) (x >>= fun a => xs >>= f a) (y >>= fun a => ys >>= f a) := by
  cases hx with
  | same _ hnone =>
    cases x with
    | error g => exact .fault g
    | ok a => exact (hxs.bind (f a)).congr (or_iff_right hnone).symm
  | fault g => exact .fault g
  | signal _ h => exact .signal _ (.inl h)

theorem Tracks.mapM {f g : α → Except Fault β} {P : α → Prop}
    (h : ∀ a ∈ as, Tracks (P a) (f a) (g a)) :
    Tracks (∃ a ∈ as, P a) (as.mapM f) (as.mapM g) := by
  induction as with
  | nil => exact .same _ (by simp)
  | cons a as ih =>
    obtain ⟨ha, has⟩ := List.forall_mem_cons.mp h
    rw [List.mapM_cons, List.mapM_cons]
    exact (ha.bind_both (ih has) _).congr (List.exists_mem_cons_iff P a as).symm

end Tracks

/-! ## Criteria that are in use -/

variable {c v : Value} {es : List (Value × Value)}

def readUsed (c : Value) : Except Fault (List Criterion) :=
  if (criterionValue c).isIdle then .ok [] else (Criterion.ofWire c).map fun d => [d]

theorem eventCriterion_tracks (hmap : c.isMap = true) :
    Tracks (criterionValue c).Signals (eventCriterion c) (readUsed c) := by
  cases c with
  | map es =>
    by_cases hsignals : (criterionValue (.map es)).Signals
    · have hfault : (entry "value" es).inUse = .error .noDecimal := inUse_signals hsignals
      rw [eventCriterion, Value.field, ok_bind, hfault]
      exact .signal _ hsignals
    · have hused : (entry "value" es).inUse = .ok (!(criterionValue (.map es)).isIdle) :=
        inUse_eq hsignals
      have hread : eventCriterion (.map es) = readUsed (.map es) := by
        rw [eventCriterion, Value.field, ok_bind, hused, ok_bind, readUsed]
        cases (criterionValue (.map es)).isIdle with
        | true => rfl
        | false =>
          rw [Criterion.ofWire, Criterion.ofEntries]
          simp only [Value.field, ok_bind, Bool.not_false, if_true]
          cases Criterion.ofParts (entry "value" es) (entry "matchMode" es)
            (entry "operator" es) <;> rfl
      rw [hread]
      exact .same _ hsignals
  | _ => cases hmap

/-- Leaving out what is not in use before the criteria are read or after it makes no difference. -/
theorem flatten_readUsed (items : List Value) :
    (items.mapM readUsed >>= fun found => .ok found.flatten) =
      (items.filter fun c => !(criterionValue c).isIdle).mapM Criterion.ofWire := by
  induction items with
  | nil => rfl
  | cons c items ih =>
    rw [List.mapM_cons, readUsed, List.filter_cons]
    cases (criterionValue c).isIdle with
    | true =>
      rw [if_pos rfl, ok_bind, Bool.not_true, if_neg Bool.false_ne_true, ← ih]
      cases items.mapM readUsed <;> rfl
    | false =>
      rw [if_neg Bool.false_ne_true, Bool.not_false, if_pos rfl, List.mapM_cons, ← ih]
      cases Criterion.ofWire c with
      | error f => rfl
      | ok d => cases items.mapM readUsed <;> rfl

variable {e w : Value × Value}

def readEntry (e : Value × Value) : Except Fault (Value × List Criterion) :=
  if e.2.truthy then wireCriteria (e.1, .list (usedCriteria e.2)) else .ok (e.1, [])

theorem wireCriteria_used (k v : Value) :
    wireCriteria (k, .list (usedCriteria v)) =
      ((eventItems v).mapM readUsed >>= fun found => .ok (k, found.flatten)) := by
  rw [wireCriteria, usedCriteria]
  dsimp only
  rw [← flatten_readUsed]
  cases (eventItems v).mapM readUsed <;> rfl

theorem eventCriteria_tracks (hshaped : ShapedCriteria e.2) :
    Tracks (SignallingCriteria e.2) (eventCriteria e) (readEntry e) := by
  rw [eventCriteria_eq, readEntry]
  by_cases hgiven : e.2.truthy = true
  · have hitems := Tracks.mapM fun c hc => eventCriterion_tracks (hshaped hgiven c hc)
    rw [if_pos hgiven, if_pos hgiven, wireCriteria_used]
    exact (hitems.bind _).congr (and_iff_right hgiven).symm
  · rw [if_neg hgiven, if_neg hgiven]
    exact .same _ fun h => hgiven h.1

theorem readEntry_unwritten (h : writtenEntry e = none) : readEntry e = .ok (e.1, []) := by
  unfold readEntry
  by_cases hgiven : e.2.truthy = true
  · have hnone : usedCriteria e.2 = [] := by simpa [writtenEntry, hgiven] using h
    rw [if_pos hgiven, hnone]
    rfl
  · rw [if_neg hgiven]

theorem readEntry_written (h : writtenEntry e = some w) :
    readEntry e = wireCriteria w ∧ ∀ d, wireCriteria w = .ok d → d.2.isEmpty = false := by
  obtain ⟨⟨hgiven, hused⟩, rfl⟩ : (e.2.truthy = true ∧ usedCriteria e.2 ≠ []) ∧
      (e.1, .list (usedCriteria e.2)) = w := by simpa [writtenEntry] using h
  refine ⟨if_pos hgiven, fun d hd => ?_⟩
  obtain ⟨cs, hcs, hd⟩ := bind_ok.mp hd
  obtain rfl := Except.ok.inj hd
  cases cs with
  | nil => exact absurd (List.forall₂_nil_right_iff.mp (mapM_ok.mp hcs)) hused
  | cons => rfl

theorem filter_readEntry (es : List (Value × Value)) :
    (es.mapM readEntry >>= fun found => .ok (found.filter fun d => !d.2.isEmpty)) =
      (es.filterMap writtenEntry).mapM wireCriteria := by
  induction es with
  | nil => rfl
  | cons e es ih =>
    rw [List.mapM_cons]
    cases hwritten : writtenEntry e with
    | none =>
      rw [List.filterMap_cons_none hwritten, ← ih, readEntry_unwritten hwritten, ok_bind]
      cases es.mapM readEntry <;> rfl
    | some w =>
      obtain ⟨hread, hkept⟩ := readEntry_written hwritten
      rw [List.filterMap_cons_some hwritten, List.mapM_cons, ← ih, hread]
      cases hd : wireCriteria w with
      | error f => rfl
      | ok d =>
        have hd := hkept d hd
        cases es.mapM readEntry with
        | error f => rfl
        | ok ds => simp [ok_bind, pure, Except.pure, hd]

theorem eventFilters_tracks (hshaped : Shaped es) :
    Tracks (Signalling es) (eventFilters (entry "filters" es))
      ((filterEntries (entry "filters" es)).mapM wireCriteria) := by
  unfold eventFilters filterEntries Signalling
  by_cases hgiven : (entry "filters" es).truthy = true
  · obtain ⟨fs, hfs, hshapes⟩ := hshaped.filters hgiven
    rw [hfs, if_pos (hfs ▸ hgiven), Value.entries, ok_bind, Source.entriesOf, ← filter_readEntry]
    exact (Tracks.mapM fun e he => eventCriteria_tracks (hshapes e he)).bind _
  · have hempty : Source.entriesOf (entry "filters" es) = [] := by
      cases hfilters : entry "filters" es with
      | map fs => simpa [hfilters, truthy, Source.entriesOf] using hgiven
      | _ => rfl
    rw [if_neg hgiven, hempty]
    exact .same _ (by simp)

/-! ## The rows and the order of an event -/

theorem minus_whole {a b : Value} (ha : a.IsNumber) (hb : b.IsNumber) :
    a.minus b = .ok (.int (a.whole?.getD 0 - b.whole?.getD 0)) := by
  cases a <;> first | (cases ha; done) | skip
  all_goals cases b <;> first | (cases hb; done) | rfl

theorem eventPageSize_written {first rows last : Value} (hfirst : first = .null ∨ first.IsNumber)
    (hlast : last = .null ∨ last.IsNumber) :
    eventPageSize first rows last = .ok (rowsOf first rows last) := by
  unfold eventPageSize rowsOf
  by_cases hrows : rows.truthy = true
  · rw [if_pos hrows, if_pos hrows]
  · rw [if_neg hrows, if_neg hrows]
    by_cases hend : last.truthy = true
    · by_cases hstart : first.truthy = true
      · have hlast : last.IsNumber := hlast.resolve_left fun hnull => by simp [hnull, truthy] at hend
        have hfirst : first.IsNumber :=
          hfirst.resolve_left fun hnull => by simp [hnull, truthy] at hstart
        simp [hend, hstart, minus_whole hlast hfirst]
      · simp [hend, hstart]
    · simp [hend]

theorem eventSortKey_eq (h : v.isMap = true) : eventSortKey v = SortKey.ofWire v := by
  cases v with
  | map es => rfl
  | _ => cases h

theorem eventSortField_eq {field : Value}
    (h : (∃ name, field = .text name) ∨ ∃ v vs, field = .list (v :: vs)) :
    eventSortField field = .ok (firstName field) := by
  rcases h with ⟨name, rfl⟩ | ⟨v, vs, rfl⟩ <;> rfl

theorem eventSortKeys_written (hshaped : Shaped es) :
    eventSortKeys (entry "multiSortMeta" es) (entry "sortField" es) (entry "sortOrder" es) =
      (sortEntries (entry "multiSortMeta" es) (entry "sortField" es)
        (entry "sortOrder" es)).mapM SortKey.ofWire := by
  unfold eventSortKeys sortEntries
  by_cases hseveral : (entry "multiSortMeta" es).truthy = true
  · obtain ⟨metas, hmetas, hmaps⟩ := hshaped.several hseveral
    rw [if_pos hseveral, if_pos hseveral, hmetas, Value.items, ok_bind, listed]
    apply mapM_eq_of_forall₂
    exact List.forall₂_same.mpr fun v hv => eventSortKey_eq (hmaps v hv)
  · rw [if_neg hseveral, if_neg hseveral]
    by_cases hsingle : ((entry "sortField" es).truthy && (entry "sortOrder" es).truthy) = true
    · have hgiven := ((Bool.and_eq_true _ _).mp hsingle).1
      rw [if_pos hsingle, if_pos hsingle, eventSortField_eq (hshaped.field hgiven), ok_bind,
        List.mapM_cons, SortKey.ofWire]
      simp only [entry_text_cons, String.reduceEq, if_true, if_false]
      cases SortKey.ofParts (firstName (entry "sortField" es)) (entry "sortOrder" es) <;> rfl
    · rw [if_neg hsingle, if_neg hsingle]
      rfl

/-! ## Events and written requests -/

def assembleEvent (es : List (Value × Value)) (keys : List SortKey)
    (criteria : List (Value × List Criterion)) : Except Fault Request :=
  assemble (entry "first" es) (rowsOf (entry "first" es) (entry "rows" es) (entry "last" es)) keys
    criteria (if (entry "filters" es).truthy then .text "global" else .null)

def readSortKeys (es : List (Value × Value)) : Except Fault (List SortKey) :=
  (sortEntries (entry "multiSortMeta" es) (entry "sortField" es) (entry "sortOrder" es)).mapM
    SortKey.ofWire

theorem ofEvent_eq (hshaped : Shaped es) :
    ofEvent (.map es) =
      (readSortKeys es >>= fun keys =>
        eventFilters (entry "filters" es) >>= assembleEvent es keys) := by
  change ofEventEntries es = _
  unfold ofEventEntries
  dsimp only
  rw [eventPageSize_written hshaped.first hshaped.last, ok_bind, eventSortKeys_written hshaped]
  rfl

theorem ofWire_asWritten (es : List (Value × Value)) :
    ofWire (asWritten es) =
      ((filterEntries (entry "filters" es)).mapM wireCriteria >>= fun criteria =>
        readSortKeys es >>= fun keys => assembleEvent es keys criteria) := by
  rw [asWritten, ofWire, ofWireEntries_eq]
  simp only [entry_text_cons, String.reduceEq, if_true, if_false]
  rw [wireSortFields_list, wireFilters_map, ok_bind, ok_bind]
  rfl

/-- Once the sort keys are read, an event goes as the written request does, up to numbers that
signal. -/
theorem ofEvent_tracks {keys : List SortKey} (hshaped : Shaped es)
    (hkeys : readSortKeys es = .ok keys) :
    Tracks (Signalling es) (ofEvent (.map es)) (ofWire (asWritten es)) := by
  rw [ofEvent_eq hshaped, ofWire_asWritten, hkeys]
  exact (eventFilters_tracks hshaped).bind _

/-- Where the sort keys cannot be read, both readings fail, though the other one may do so before it
comes to them. -/
theorem ofEvent_unsorted {f : Fault} (hshaped : Shaped es) (hkeys : readSortKeys es = .error f) :
    ofEvent (.map es) = .error f ∧ ∃ g, ofWire (asWritten es) = .error g := by
  rw [ofEvent_eq hshaped, ofWire_asWritten, hkeys]
  refine ⟨rfl, ?_⟩
  cases (filterEntries (entry "filters" es)).mapM wireCriteria with
  | error g => exact ⟨g, rfl⟩
  | ok criteria => exact ⟨f, rfl⟩

theorem failsOnly_readSortKeys (htext : HasText (asWritten es)) :
    FailsOnly Fault.IsMalformed (readSortKeys es) := by
  have hkeys := hasText_entry htext "sortFields"
  simp only [entry_text_cons, String.reduceEq, if_true, if_false] at hkeys
  refine FailsOnly.mapM fun v hv => ?_
  have hv : HasText v := hasText_members rfl hkeys v hv
  exact (SortKey.failsOnly_ofWire v).imp fun _ h => h.of_shown fun _ hw => hw hv

/-- An event of the right shape is read as the written request that it comes down to, as long as no
criterion has a number that signals. If the written request can be shown, then either both are read
as the same request, or both are malformed, or the event has a number that signals and is turned
down for it. -/
theorem event_read_as_written (hshaped : Shaped es) :
    (∀ r, ofEvent (.map es) = .ok r ↔ ofWire (asWritten es) = .ok r ∧ ¬ Signalling es) ∧
    (HasText (asWritten es) →
      (∃ r, ofEvent (.map es) = .ok r ∧ ofWire (asWritten es) = .ok r) ∨
      (∃ f g, f.IsMalformed ∧ g.IsMalformed ∧
        ofEvent (.map es) = .error f ∧ ofWire (asWritten es) = .error g) ∨
      Signalling es ∧ ofEvent (.map es) = .error .noDecimal) := by
  have hwire (htext : HasText (asWritten es)) :
      FailsOnly Fault.IsMalformed (ofWire (asWritten es)) :=
    (failsOnly_ofWire _).imp fun _ h => h.of_shown fun _ hw => hw htext
  cases hkeys : readSortKeys es with
  | error f =>
    obtain ⟨hevent, g, hg⟩ := ofEvent_unsorted hshaped hkeys
    rw [hevent, hg]
    refine ⟨fun r => by simp, fun htext => .inr (.inl ?_)⟩
    exact ⟨f, g, failsOnly_readSortKeys htext f hkeys, hwire htext g hg, rfl, rfl⟩
  | ok keys =>
    have htracks := ofEvent_tracks hshaped hkeys
    revert htracks hwire
    generalize ofEvent (.map es) = x
    generalize ofWire (asWritten es) = y
    intro hwire htracks
    cases htracks with
    | same _ hnone =>
      refine ⟨fun r => (and_iff_left hnone).symm, fun htext => ?_⟩
      cases x with
      | ok r => exact .inl ⟨r, rfl, rfl⟩
      | error f => exact .inr (.inl ⟨f, f, hwire htext f rfl, hwire htext f rfl, rfl, rfl⟩)
    | fault f =>
      refine ⟨fun r => by simp, fun htext => .inr (.inl ?_)⟩
      exact ⟨f, f, hwire htext f rfl, hwire htext f rfl, rfl, rfl⟩
    | signal _ hsome =>
      refine ⟨fun r => ?_, fun _ => .inr (.inr ⟨hsome, rfl⟩)⟩
      simp [hsome]

namespace Example

/-- Rows 10 to 35 in descending order of names, with a criterion that is in use and two that are
not, one of them with an unknown match mode. -/
def scrolled : List (Value × Value) :=
  [(.text "first", .int 10), (.text "last", .int 35),
    (.text "sortField", .list [.text "name"]), (.text "sortOrder", .int (-1)),
    (.text "filters", .map [
      (.text "age", .list [
        .map [(.text "value", .null), (.text "matchMode", .text "unknown")],
        .map [(.text "value", .int 5), (.text "matchMode", .text "equals")]]),
      (.text "name", .map [(.text "value", .text "")])])]

def scrolledAsWritten : Value :=
  .map [(.text "first", .int 10), (.text "rows", .int 25),
    (.text "sortFields", .list [.map [(.text "field", .text "name"), (.text "order", .int (-1))]]),
    (.text "filters", .map [(.text "age", .list [
      .map [(.text "value", .int 5), (.text "matchMode", .text "equals")]])]),
    (.text "globalFieldName", .text "global")]

theorem filters_scrolled : entry "filters" scrolled = .map [
    (.text "age", .list [
      .map [(.text "value", .null), (.text "matchMode", .text "unknown")],
      .map [(.text "value", .int 5), (.text "matchMode", .text "equals")]]),
    (.text "name", .map [(.text "value", .text "")])] := by
  cbv

theorem shaped_scrolled : Shaped scrolled := by
  have hfirst : entry "first" scrolled = .int 10 := by cbv
  have hlast : entry "last" scrolled = .int 35 := by cbv
  have hrows : entry "rows" scrolled = .null := by cbv
  have hseveral : entry "multiSortMeta" scrolled = .null := by cbv
  have hfield : entry "sortField" scrolled = .list [.text "name"] := by cbv
  refine ⟨.inr (hfirst ▸ rfl), .inr (hlast ▸ rfl), .inl hrows, ?_, ?_, ?_⟩
  · simp [hseveral, truthy]
  · exact fun _ => .inr ⟨_, _, hfield⟩
  · exact fun _ => ⟨_, filters_scrolled, by simp [ShapedCriteria, eventItems, isMap]⟩

theorem not_signalling_scrolled : ¬ Signalling scrolled := by
  rw [Signalling, filters_scrolled]
  simp [Source.entriesOf, SignallingCriteria, eventItems, criterionValue, entry_text_cons,
    Signals, magnitude?, Magnitude.scaled]

theorem hasText_scrolledAsWritten : HasText scrolledAsWritten := by
  have hcount : ∀ n : Int, n.natAbs < 10 ^ 2 → HasText (.int n) :=
    fun n hn => hasText_of_digits (by decide) hn
  have hname : ∀ name, HasText (.text name) := fun name => ⟨_, rfl⟩
  rw [scrolledAsWritten]
  simp [hasText_map, hasText_list, hcount, hname]

end Example

theorem event_read_as_written_scrolled :
    Shaped Example.scrolled ∧ asWritten Example.scrolled = Example.scrolledAsWritten ∧
      HasText Example.scrolledAsWritten ∧ ¬ Signalling Example.scrolled ∧
      ofEvent (.map Example.scrolled) = .ok
        ⟨10, 25, [⟨"name", some (-1)⟩], [("age", [⟨.int 5, some .equals, none⟩])],
          .text "global"⟩ := by
  have hcounts : entry "first" Example.scrolled = .int 10 ∧ rowsOf (entry "first" Example.scrolled)
      (entry "rows" Example.scrolled) (entry "last" Example.scrolled) = .int 25 := by
    constructor <;> cbv
  have hkeys : readSortKeys Example.scrolled = .ok [⟨"name", some (-1)⟩] := by cbv
  have hcriteria : (filterEntries (entry "filters" Example.scrolled)).mapM wireCriteria =
      .ok [(.text "age", [⟨.int 5, some .equals, none⟩])] := by cbv
  obtain ⟨hsame, _⟩ := event_read_as_written Example.shaped_scrolled
  refine ⟨Example.shaped_scrolled, by cbv, Example.hasText_scrolledAsWritten,
    Example.not_signalling_scrolled, (hsame _).mpr ⟨?_, Example.not_signalling_scrolled⟩⟩
  rw [ofWire_asWritten, hcriteria, ok_bind, hkeys, ok_bind, assembleEvent, hcounts.2, hcounts.1,
    Example.filters_scrolled]
  rfl

namespace Example

def aged (value mode : Value) : List (Value × Value) :=
  [(.text "filters", .map [(.text "age", .map [(.text "value", value), (.text "matchMode", mode)])])]

def signal : Value := .decimal (.notANumber false true 0)

/-- A condition without the operand that is needed to show it. -/
def bareCondition : Value := .comparison (.text "age") .eq [] false

theorem entry_aged (value mode : Value) {name : String} (hname : name ≠ "filters") :
    entry name (aged value mode) = .null := by
  rw [aged, entry_text_cons, if_neg hname.symm]
  rfl

theorem filters_aged (value mode : Value) : entry "filters" (aged value mode) =
    .map [(.text "age", .map [(.text "value", value), (.text "matchMode", mode)])] := by
  rw [aged, entry_text_cons, if_pos rfl]

theorem shaped_aged (value mode : Value) : Shaped (aged value mode) := by
  refine ⟨.inl (entry_aged _ _ (by decide)), .inl (entry_aged _ _ (by decide)),
    .inl (entry_aged _ _ (by decide)), ?_, ?_, fun _ => ⟨_, filters_aged value mode, ?_⟩⟩
  · simp [entry_aged, truthy]
  · simp [entry_aged, truthy]
  · simp [ShapedCriteria, eventItems, isMap]

end Example

/-- A number that signals is turned down in an event, while the written request is read. What cannot
be shown is not reported as malformed. -/
theorem event_neither_read_nor_malformed :
    (Shaped (Example.aged Example.signal .null) ∧
      ofEvent (.map (Example.aged Example.signal .null)) = .error .noDecimal ∧
      ofWire (asWritten (Example.aged Example.signal .null)) =
        .ok ⟨0, 0, [], [("age", [⟨Example.signal, none, none⟩])], .text "global"⟩) ∧
    Shaped (Example.aged (.int 5) Example.bareCondition) ∧
      ofEvent (.map (Example.aged (.int 5) Example.bareCondition)) = .error .placeMissing := by
  refine ⟨⟨Example.shaped_aged _ _, by cbv, ?_⟩, Example.shaped_aged _ _, by cbv⟩
  have hkeys : readSortKeys (Example.aged Example.signal .null) = .ok [] := by cbv
  have hcriteria : (filterEntries (entry "filters" (Example.aged Example.signal .null))).mapM
      wireCriteria = .ok [(.text "age", [⟨Example.signal, none, none⟩])] := by cbv
  rw [ofWire_asWritten, hcriteria, ok_bind, hkeys, ok_bind, assembleEvent, Example.filters_aged,
    Example.entry_aged _ _ (by decide), Example.entry_aged _ _ (by decide),
    Example.entry_aged _ _ (by decide)]
  rfl

end Request
end TableQuery
