import TableQuery.Proofs.Request.Grammar
import TableQuery.Proofs.Request.Malformed

/-!
# Reading written requests

A value is read as a request when it is in the grammar of written requests; any other is malformed,
as long as it can be shown. Entries under further keys change nothing, whether they are added to the
request, to a sort key or to a criterion.
-/
namespace TableQuery

open Outcome Value

/-! ## What is turned down -/

abbrev Value.Fails (v : Value) : Fault → Prop :=
  Fault.Reported Fault.IsMalformed fun w => HasText v → HasText w

theorem SortKey.failsOnly_ofWire (v : Value) : FailsOnly v.Fails (ofWire v) := by
  unfold ofWire
  split
  · exact failsOnly_ofParts (fun h => hasText_entry h _) (fun h => hasText_entry h _)
  · exact failsOnly_malformed (by simp [Malformed.given])

theorem Criterion.failsOnly_ofWire (v : Value) : FailsOnly v.Fails (ofWire v) := by
  unfold ofWire
  split
  · exact failsOnly_ofParts (fun h => hasText_entry h _) (fun h => hasText_entry h _)
  · exact failsOnly_malformed (by simp [Malformed.given])

namespace Request

variable {v : Value}

theorem failsOnly_wireCriteria {e : Value × Value} (hkey : HasText v → HasText e.1)
    (hvalue : HasText v → HasText e.2) : FailsOnly v.Fails (wireCriteria e) := by
  obtain ⟨key, w⟩ := e
  unfold wireCriteria
  split
  · next es hw =>
    refine FailsOnly.bind ?_ fun _ _ => failsOnly_ok
    refine (Criterion.failsOnly_ofWire (.map es)).imp fun _ => .ofPart fun u hu h => hu ?_
    exact hw ▸ hvalue h
  · next items hw =>
    refine (FailsOnly.mapM fun item hitem => ?_).bind fun _ _ => failsOnly_ok
    refine (Criterion.failsOnly_ofWire item).imp fun _ => .ofPart fun u hu h => hu ?_
    exact hasText_members (congrArg members? hw) (hvalue h) item hitem
  · exact failsOnly_malformed (by simpa [Malformed.given] using hkey)

variable {es : List (Value × Value)} {w : Value}

theorem failsOnly_wireSortFields : FailsOnly v.Fails (wireSortFields w) := by
  unfold wireSortFields
  split
  · split
    · exact failsOnly_ok
    · exact failsOnly_malformed (by simp [Malformed.given])
  · exact failsOnly_ok

theorem hasText_of_wireSortFields {items : List Value} (h : wireSortFields w = .ok items)
    (hw : HasText w) : ∀ item ∈ items, HasText item := by
  rcases wireSortFields_ok.mp h with ⟨_, rfl⟩ | rfl
  · simp
  · exact hasText_members rfl hw

theorem failsOnly_wireFilters : FailsOnly v.Fails (wireFilters w) := by
  unfold wireFilters
  split
  · split
    · exact failsOnly_ok
    · exact failsOnly_malformed (by simp [Malformed.given])
  · exact failsOnly_ok

theorem hasText_of_wireFilters (h : wireFilters w = .ok es) (hw : HasText w) :
    ∀ e ∈ es, HasText e.1 ∧ HasText e.2 := by
  rcases wireFilters_ok_iff.mp h with ⟨_, rfl⟩ | rfl
  · simp
  · exact hasText_entries hw

theorem failsOnly_ofWire (v : Value) : FailsOnly v.Fails (ofWire v) := by
  cases v with
  | map es =>
    have hentry : ∀ name, HasText (.map es) → HasText (entry name es) :=
      fun name h => hasText_entry h name
    refine failsOnly_wireSortFields.bind fun items hitems => ?_
    refine failsOnly_wireFilters.bind fun filters hfilters => ?_
    have hfilter : ∀ e ∈ filters, HasText (.map es) → HasText e.1 ∧ HasText e.2 :=
      fun e he h => hasText_of_wireFilters hfilters (hentry _ h) e he
    refine FailsOnly.bind ?_ fun criteria hcriteria => ?_
    · exact FailsOnly.mapM fun e he => failsOnly_wireCriteria
        (fun h => (hfilter e he h).1) (fun h => (hfilter e he h).2)
    refine FailsOnly.bind ?_ fun keys _ => ?_
    · refine FailsOnly.mapM fun w hw =>
        (SortKey.failsOnly_ofWire w).imp fun _ => .ofPart fun u hu h => hu ?_
      exact hasText_of_wireSortFields hitems (hentry _ h) w hw
    refine failsOnly_assemble (hentry _) (hentry _) fun x hx h => ?_
    obtain ⟨e, he, hread⟩ := exists_of_mapM hcriteria x hx
    rw [← (wireCriteria_ok hread).1]
    exact (hfilter e he h).1
  | _ => exact failsOnly_malformed (by simp [Malformed.given])

end Request

/-! ## Further keys -/

namespace Wire

/-- The names that a map is asked for, by what it stands for. -/
def sortKeyNames : List String := ["field", "order"]

def criterionNames : List String := ["value", "matchMode", "operator"]

def requestNames : List String := ["first", "rows", "sortFields", "filters", "globalFieldName"]

/-- Entries to which others are added, here and there, under keys that are not asked for; those that
were there keep their keys, and their values go with one another by `R`. -/
inductive Adds (known : List String) (R : Value → Value → Value → Prop) :
    List (Value × Value) → List (Value × Value) → Prop
  | nil : Adds known R [] []
  | keep (key v w : Value) {es fs : List (Value × Value)} (h : R key v w)
    (rest : Adds known R es fs) : Adds known R ((key, v) :: es) ((key, w) :: fs)
  | add (key v : Value) {es fs : List (Value × Value)} (h : ∀ name ∈ known, key ≠ .text name)
    (rest : Adds known R es fs) : Adds known R es ((key, v) :: fs)

inductive AddsToMap (known : List String) : Value → Value → Prop
  | same (v : Value) : AddsToMap known v v
  | map (es fs : List (Value × Value)) (h : Adds known (fun _ v w => v = w) es fs) :
    AddsToMap known (.map es) (.map fs)

inductive AddsToSortKeys : Value → Value → Prop
  | same (v : Value) : AddsToSortKeys v v
  | list (vs ws : List Value) (h : List.Forall₂ (AddsToMap sortKeyNames) vs ws) :
    AddsToSortKeys (.list vs) (.list ws)

inductive AddsToCriteria : Value → Value → Prop
  | alone (v w : Value) (h : AddsToMap criterionNames v w) : AddsToCriteria v w
  | list (vs ws : List Value) (h : List.Forall₂ (AddsToMap criterionNames) vs ws) :
    AddsToCriteria (.list vs) (.list ws)

/-- Every key of the criteria is that of a field, so none is added there. -/
inductive AddsToFilters : Value → Value → Prop
  | same (v : Value) : AddsToFilters v v
  | map (es fs : List (Value × Value))
    (h : List.Forall₂ (fun e f => e.1 = f.1 ∧ AddsToCriteria e.2 f.2) es fs) :
    AddsToFilters (.map es) (.map fs)

inductive AddsToEntry (key v w : Value) : Prop
  | same (h : v = w) : AddsToEntry key v w
  | sortKeys (hkey : key = .text "sortFields") (h : AddsToSortKeys v w) : AddsToEntry key v w
  | filters (hkey : key = .text "filters") (h : AddsToFilters v w) : AddsToEntry key v w

inductive AddsToRequest : Value → Value → Prop
  | same (v : Value) : AddsToRequest v v
  | map (es fs : List (Value × Value)) (h : Adds requestNames AddsToEntry es fs) :
    AddsToRequest (.map es) (.map fs)

variable {known : List String} {R : Value → Value → Value → Prop} {es fs : List (Value × Value)}

/-- What is found under a name that is asked for is not what is added. -/
theorem Adds.entry (h : Adds known R es fs) (name : String) (hname : name ∈ known)
    (hnull : R (.text name) .null .null) :
    R (.text name) (Value.entry name es) (Value.entry name fs) := by
  have hcons : ∀ (key v : Value) (gs : List (Value × Value)), Value.entry name ((key, v) :: gs) =
      if key.same (.text name) = true then v else Value.entry name gs := by
    intro key v gs
    rw [Value.entry, Table.get?]
    split <;> rfl
  induction h with
  | nil => exact hnull
  | keep key v w h _ ih =>
    rw [hcons, hcons]
    split
    · next hsame => exact same_text.mp hsame ▸ h
    · exact ih
  | add key v h _ ih =>
    rw [hcons, if_neg fun hsame => h name hname (same_text.mp hsame)]
    exact ih

theorem Adds.entry_eq (h : Adds known (fun _ v w => v = w) es fs) (name : String)
    (hname : name ∈ known) : Value.entry name es = Value.entry name fs :=
  h.entry name hname rfl

theorem AddsToEntry.eq {name : String} {v w : Value} (h : AddsToEntry (.text name) v w)
    (hsortKeys : name ≠ "sortFields") (hfilters : name ≠ "filters") : v = w := by
  rcases h with h | ⟨hkey, _⟩ | ⟨hkey, _⟩
  · exact h
  · exact absurd (text.inj hkey) hsortKeys
  · exact absurd (text.inj hkey) hfilters

theorem AddsToEntry.addsToSortKeys {v w : Value} (h : AddsToEntry (.text "sortFields") v w) :
    AddsToSortKeys v w := by
  rcases h with rfl | ⟨_, h⟩ | ⟨hkey, _⟩
  · exact .same v
  · exact h
  · simp at hkey

theorem AddsToEntry.addsToFilters {v w : Value} (h : AddsToEntry (.text "filters") v w) :
    AddsToFilters v w := by
  rcases h with rfl | ⟨hkey, _⟩ | ⟨_, h⟩
  · exact .same v
  · simp at hkey
  · exact h

end Wire

open Wire

variable {v w : Value}

theorem SortKey.ofWire_adds (h : AddsToMap sortKeyNames v w) : ofWire v = ofWire w := by
  cases h with
  | same => rfl
  | map es fs h =>
    rw [ofWire, ofWire, h.entry_eq "field" (by simp [sortKeyNames]),
      h.entry_eq "order" (by simp [sortKeyNames])]

theorem Criterion.ofWire_adds (h : AddsToMap criterionNames v w) : ofWire v = ofWire w := by
  cases h with
  | same => rfl
  | map es fs h =>
    rw [ofWire, ofWire, ofEntries, ofEntries,
      h.entry_eq "value" (by simp [criterionNames]),
      h.entry_eq "matchMode" (by simp [criterionNames]),
      h.entry_eq "operator" (by simp [criterionNames])]

namespace Request

theorem wireCriteria_adds {e f : Value × Value} (hkey : e.1 = f.1)
    (h : AddsToCriteria e.2 f.2) : wireCriteria e = wireCriteria f := by
  obtain ⟨key, v⟩ := e
  obtain ⟨_, w⟩ := f
  obtain rfl : key = _ := hkey
  rcases h with ⟨_, _, h⟩ | ⟨vs, ws, h⟩
  · have hread := Criterion.ofWire_adds h
    cases h with
    | same => rfl
    | map es fs h =>
      rw [Criterion.ofWire, Criterion.ofWire] at hread
      simp only [wireCriteria, hread]
  · have hread : vs.mapM Criterion.ofWire = ws.mapM Criterion.ofWire :=
      mapM_eq_of_forall₂ (h.imp fun _ _ => Criterion.ofWire_adds)
    simp only [wireCriteria, hread]

theorem wireFilters_adds (h : AddsToFilters v w) :
    (wireFilters v >>= fun es => es.mapM wireCriteria) =
      (wireFilters w >>= fun es => es.mapM wireCriteria) := by
  cases h with
  | same => rfl
  | map es fs h =>
    rw [wireFilters_map, wireFilters_map, ok_bind, ok_bind]
    exact mapM_eq_of_forall₂ (h.imp fun _ _ h => wireCriteria_adds h.1 h.2)

/-- Sort keys are looked for before the criteria are read, and read after that. -/
theorem wireSortFields_adds (h : AddsToSortKeys v w) :
    (∃ f, wireSortFields v = .error f ∧ wireSortFields w = .error f) ∨
      ∃ vs ws, wireSortFields v = .ok vs ∧ wireSortFields w = .ok ws ∧
        vs.mapM SortKey.ofWire = ws.mapM SortKey.ofWire := by
  cases h with
  | same =>
    cases hv : wireSortFields v with
    | error f => exact .inl ⟨f, rfl, rfl⟩
    | ok vs => exact .inr ⟨vs, vs, rfl, rfl, rfl⟩
  | list vs ws h =>
    refine .inr ⟨vs, ws, wireSortFields_list vs, wireSortFields_list ws, ?_⟩
    exact mapM_eq_of_forall₂ (h.imp fun _ _ => SortKey.ofWire_adds)

theorem ofWireEntries_eq (es : List (Value × Value)) :
    ofWireEntries es = (wireSortFields (entry "sortFields" es) >>= fun items =>
      (wireFilters (entry "filters" es) >>= fun es => es.mapM wireCriteria) >>= fun criteria =>
        items.mapM SortKey.ofWire >>= fun keys =>
          assemble (entry "first" es) (entry "rows" es) keys criteria
            (entry "globalFieldName" es)) := by
  unfold ofWireEntries
  simp only [bind_assoc]

theorem ofWire_adds (h : AddsToRequest v w) : ofWire w = ofWire v := by
  cases h with
  | same => rfl
  | map es fs h =>
    have hfirst : entry "first" es = entry "first" fs :=
      (h.entry "first" (by decide) (.same rfl)).eq (by decide) (by decide)
    have hrows : entry "rows" es = entry "rows" fs :=
      (h.entry "rows" (by decide) (.same rfl)).eq (by decide) (by decide)
    have hglobal : entry "globalFieldName" es = entry "globalFieldName" fs :=
      (h.entry "globalFieldName" (by decide) (.same rfl)).eq (by decide) (by decide)
    have hsortKeys := (h.entry "sortFields" (by decide) (.same rfl)).addsToSortKeys
    have hfilters := (h.entry "filters" (by decide) (.same rfl)).addsToFilters
    rw [ofWire, ofWire, ofWireEntries_eq, ofWireEntries_eq, ← hfirst, ← hrows, ← hglobal,
      ← wireFilters_adds hfilters]
    rcases wireSortFields_adds hsortKeys with ⟨f, hes, hfs⟩ | ⟨vs, ws, hes, hfs, hkeys⟩
    · rw [hes, hfs]
    · rw [hes, hfs, ok_bind, ok_bind, hkeys]

/-- A value is read as a request exactly when it is in the grammar of written requests. Any other
that can be shown is malformed, and nothing else. Entries under keys that are not asked for change
neither the request nor the fault. -/
theorem ofWire_reads_grammar (v : Value) :
    ((∃ r, ofWire v = .ok r) ↔ IsRequest v) ∧
    (HasText v → ¬IsRequest v → ∃ cause, ofWire v = .error (.malformed cause)) ∧
    ∀ w, AddsToRequest v w → ofWire w = ofWire v := by
  refine ⟨exists_ofWire, fun hv hnot => ?_, fun w h => ofWire_adds h⟩
  cases h : ofWire v with
  | ok r => exact absurd (exists_ofWire.mp ⟨r, h⟩) hnot
  | error f =>
    obtain ⟨cause, rfl⟩ := (failsOnly_ofWire v f h).of_shown fun _ hw => hw hv
    exact ⟨cause, rfl⟩

namespace Example

/-- A request with a sort key that has no name, from a client that adds entries of its own. -/
def unnamed : Value := .map [(.text "sortFields", .list [.map [(.text "field", .text "")]])]

def annotated : Value :=
  .map [(.text "version", .int 3),
    (.text "sortFields", .list [.map [(.text "field", .text ""), (.text "label", .null)]])]

end Example

theorem ofWire_reads_grammar_unnamed :
    HasText Example.unnamed ∧ ¬IsRequest Example.unnamed ∧
      (∃ cause, ofWire Example.unnamed = .error (.malformed cause)) ∧
      AddsToRequest Example.unnamed Example.annotated ∧
      ofWire Example.annotated = ofWire Example.unnamed := by
  have htext : HasText Example.unnamed := ⟨_, rfl⟩
  have hentry : entry "sortFields" [(.text "sortFields",
      .list [.map [(.text "field", .text "")]])] = .list [.map [(.text "field", .text "")]] := by
    simp
  have hnot : ¬IsRequest Example.unnamed := by
    rintro ⟨es, _, _, hsortKeys, _⟩
    rw [hentry] at hsortKeys
    rcases hsortKeys with ⟨_, habsent⟩ | ⟨_, hkeys⟩
    · cases habsent
    · rcases hkeys _ List.mem_cons_self with ⟨_, name, hfield, hname, _⟩
      exact hname (by simpa using hfield.symm)
  have hadds : AddsToRequest Example.unnamed Example.annotated := by
    refine .map _ _ (.add _ _ (by simp [requestNames]) (.keep _ _ _ (.sortKeys rfl ?_) .nil))
    refine .list _ _ (.cons (.map _ _ (.keep _ _ _ rfl (.add _ _ ?_ .nil))) .nil)
    simp [sortKeyNames]
  obtain ⟨_, hmalformed, hsame⟩ := ofWire_reads_grammar Example.unnamed
  exact ⟨htext, hnot, hmalformed htext hnot, hadds, hsame _ hadds⟩

/-- What cannot be shown is not reported as malformed: here a condition without the operand that it
needs, in place of the name of a match mode. -/
theorem textless_not_malformed :
    ofWire (.map [(.text "filters", .map [(.text "age", .list [.map [(.text "matchMode",
      .comparison (.text "age") .eq [] false)]])])]) = .error .placeMissing := by
  cbv

end Request
end TableQuery
