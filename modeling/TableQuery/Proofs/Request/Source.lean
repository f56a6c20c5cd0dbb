import TableQuery.Request.Builder
import TableQuery.Proofs.Value
import TableQuery.Proofs.Request.Parts

/-!
# Where requests come from

A request is made from its parts, by calls of a builder, from its written form or from a lazy-load
event. All that is given there are values, and a value obeys the rules of its own kind: no map has
a key twice, no sort key is without a field, and no criterion holds a list. A builder keeps to these
rules after any calls, whether they succeed or not.
-/
namespace TableQuery

open Outcome

namespace Value

def isList : Value → Bool
  | list _ => true
  | _ => false

/-- Keys none of which equals one before it. -/
def Apart (keys : List Value) : Prop := keys.Pairwise fun k l => k.same l = false

mutual

/-- Whether a value and all it is made of obey the rules of their kinds. -/
def Sound : Value → Prop
  | list items | tuple items | set items | frozenset items | junction _ items => SoundAll items
  | map entries => Apart (entries.map Prod.fst) ∧ SoundEntries entries
  | sortKey field _ => field ≠ ""
  | criterion value _ _ => value.isList = false ∧ Sound value
  | comparison field _ operands _ => Sound field ∧ SoundAll operands
  | _ => True

def SoundAll : List Value → Prop
  | [] => True
  | v :: rest => Sound v ∧ SoundAll rest

def SoundEntries : List (Value × Value) → Prop
  | [] => True
  | (k, v) :: rest => (Sound k ∧ Sound v) ∧ SoundEntries rest

end

variable {v key : Value} {vs keys : List Value} {es : List (Value × Value)} {name : String}

theorem soundAll_iff : SoundAll vs ↔ ∀ v ∈ vs, Sound v := by
  induction vs with
  | nil => simp [SoundAll]
  | cons v vs ih => rw [SoundAll, ih, List.forall_mem_cons]

theorem soundEntries_iff : SoundEntries es ↔ ∀ e ∈ es, Sound e.1 ∧ Sound e.2 := by
  induction es with
  | nil => simp [SoundEntries]
  | cons e es ih => rw [SoundEntries, ih, List.forall_mem_cons]

theorem sound_items (h : Sound v) (hitems : v.items = .ok vs) : ∀ w ∈ vs, Sound w := by
  cases v with
  | list _ | tuple _ | set _ | frozenset _ =>
    cases hitems
    exact soundAll_iff.mp h
  | map es =>
    cases hitems
    rw [List.forall_mem_map]
    exact fun e he => (soundEntries_iff.mp h.2 e he).1
  | text _ | bytes _ =>
    cases hitems
    rw [List.forall_mem_map]
    exact fun _ _ => trivial
  | _ => cases hitems

theorem sound_itemsIfGiven (h : Sound v) (hitems : v.itemsIfGiven = .ok vs) :
    ∀ w ∈ vs, Sound w := by
  unfold itemsIfGiven at hitems
  split at hitems
  · exact sound_items h hitems
  · cases hitems
    simp

theorem entry_cases (name : String) (es : List (Value × Value)) :
    entry name es = .null ∨ ∃ e ∈ es, entry name es = e.2 := by
  unfold entry
  induction es with
  | nil => exact .inl rfl
  | cons e es ih =>
    by_cases hsame : e.1.same (text name) = true
    · exact .inr ⟨e, List.mem_cons_self, by rw [Table.get?, if_pos hsame, Option.getD_some]⟩
    · rw [Table.get?, if_neg hsame]
      exact ih.imp_right fun ⟨d, hd, heq⟩ => ⟨d, List.mem_cons_of_mem e hd, heq⟩

theorem sound_entry (h : Sound (map es)) (name : String) : Sound (entry name es) := by
  rcases entry_cases name es with hnull | ⟨e, he, heq⟩
  · rw [hnull]
    trivial
  · rw [heq]
    exact (soundEntries_iff.mp h.2 e he).2

theorem apart_append : Apart (keys ++ [key]) ↔ Apart keys ∧ ∀ k ∈ keys, k.same key = false := by
  simp [Apart, List.pairwise_append]

theorem nodup_of_apart {names : List String} (h : Apart (names.map text)) : names.Nodup := by
  rw [Apart, List.pairwise_map] at h
  refine h.imp fun {a b} hab heq => ?_
  have hsame : (text a).same (text b) = true := same_text.mpr (heq ▸ rfl)
  rw [hsame] at hab
  cases hab

theorem apart_distinct (vs : List Value) : Apart (distinct vs) := by
  unfold distinct
  refine List.foldlRecOn vs _ List.Pairwise.nil fun kept hkept v _ => ?_
  by_cases hany : kept.any (·.same v) = true
  · rw [if_pos hany]
    exact hkept
  · rw [if_neg hany]
    refine apart_append.mpr ⟨hkept, fun k hk => ?_⟩
    have hnone : ∀ l ∈ kept, ¬ l.same v = true := by simpa using hany
    exact Bool.eq_false_iff.mpr (hnone k hk)

end Value

open Value

theorem Table.keys_update {α : Type} (key : Value) (start : α) (f : α → α) (t : Table α) :
    (t.update key start f).map Prod.fst =
      if (t.map Prod.fst).any (·.same key) then t.map Prod.fst else t.map Prod.fst ++ [key] := by
  induction t with
  | nil => rfl
  | cons e t ih =>
    rw [Table.update]
    by_cases hsame : e.1.same key = true
    · rw [if_pos hsame, List.map_cons, List.map_cons, List.any_cons, hsame, Bool.true_or,
        if_pos rfl]
    · rw [if_neg hsame, List.map_cons, List.map_cons, ih, List.any_cons,
        Bool.eq_false_iff.mpr hsame, Bool.false_or]
      split <;> rfl

theorem Table.mem_update {α : Type} {key : Value} {start : α} {f : α → α} {t : Table α}
    {e : Value × α} (h : e ∈ t.update key start f) :
    e ∈ t ∨ (e.1 = key ∧ e.2 = f start) ∨ ∃ d ∈ t, e.1 = d.1 ∧ e.2 = f d.2 := by
  induction t with
  | nil =>
    rw [Table.update, List.mem_singleton] at h
    exact .inr (.inl (h ▸ ⟨rfl, rfl⟩))
  | cons d t ih =>
    rw [Table.update] at h
    split at h
    · rcases List.mem_cons.mp h with rfl | h
      · exact .inr (.inr ⟨d, List.mem_cons_self, rfl, rfl⟩)
      · exact .inl (List.mem_cons_of_mem d h)
    · rcases List.mem_cons.mp h with rfl | h
      · exact .inl List.mem_cons_self
      · rcases ih h with h | h | ⟨c, hc, h⟩
        · exact .inl (List.mem_cons_of_mem d h)
        · exact .inr (.inl h)
        · exact .inr (.inr ⟨c, List.mem_cons_of_mem d hc, h⟩)

namespace Builder

def Call.Sound : Call → Prop
  | .addFilter field given => field.Sound ∧ given.Sound
  | _ => True

def Call.field? : Call → Option Value
  | .addFilter field _ => if field.isKey then some field else none
  | _ => none

structure Keeps (b : Builder) : Prop where
  named : ∀ k ∈ b.sortKeys, k.field ≠ ""
  sound : ∀ e ∈ b.criteria, e.1.Sound ∧ ∀ v ∈ e.2, v.Sound

theorem keeps_empty : Keeps empty := ⟨by simp [empty], by simp [empty]⟩

theorem keeps_call {b next : Builder} {c : Call} (hb : b.Keeps) (hc : c.Sound)
    (h : b.call c = .ok next) : next.Keeps := by
  cases c with
  | first _ | rows _ | globalFieldName _ =>
    cases h
    exact ⟨hb.named, hb.sound⟩
  | addSortField field direction =>
    obtain ⟨key, hkey, h⟩ := bind_ok.mp h
    cases h
    refine ⟨fun k hk => ?_, hb.sound⟩
    rcases List.mem_append.mp hk with hk | hk
    · exact hb.named k hk
    · rw [List.mem_singleton.mp hk]
      exact (SortKey.ofParts_ok.mp hkey).2.1
  | addFilter field given =>
    obtain ⟨hfield, hgiven⟩ := hc
    rw [call, addFilter] at h
    split at h
    · cases h
      refine ⟨hb.named, fun e he => ?_⟩
      rcases Table.mem_update he with he | ⟨hkey, hvalues⟩ | ⟨d, hd, hkey, hvalues⟩
      · exact hb.sound e he
      · rw [hkey, hvalues]
        exact ⟨hfield, by simpa using hgiven⟩
      · obtain ⟨hkeySound, hold⟩ := hb.sound d hd
        rw [hkey, hvalues]
        refine ⟨hkeySound, fun v hv => ?_⟩
        rcases List.mem_append.mp hv with hv | hv
        · exact hold v hv
        · rwa [List.mem_singleton.mp hv]
    · cases h

theorem keeps_after {b : Builder} {c : Call} (hb : b.Keeps) (hc : c.Sound) : (b.after c).Keeps := by
  unfold after
  split
  · next next hnext => exact keeps_call hb hc hnext
  · exact hb

theorem keeps_run {calls : List Call} (h : ∀ c ∈ calls, c.Sound) : (run calls).Keeps :=
  List.foldlRecOn calls after keeps_empty fun _ hb c hc => keeps_after hb (h c hc)

theorem fields_after (b : Builder) (c : Call) :
    (b.after c).criteria.map Prod.fst =
      match c.field? with
      | some field =>
        if (b.criteria.map Prod.fst).any (·.same field) then b.criteria.map Prod.fst
        else b.criteria.map Prod.fst ++ [field]
      | none => b.criteria.map Prod.fst := by
  cases c with
  | first _ | rows _ | globalFieldName _ => rfl
  | addSortField field direction =>
    rw [after, call, addSortField]
    cases SortKey.ofParts field direction <;> rfl
  | addFilter field given =>
    rw [after, call, addFilter, Call.field?]
    by_cases hkey : field.isKey = true
    · rw [if_pos hkey, if_pos hkey]
      exact Table.keys_update field [] _ b.criteria
    · rw [if_neg hkey, if_neg hkey]

theorem fields_run (calls : List Call) :
    (run calls).criteria.map Prod.fst = distinct (calls.filterMap Call.field?) := by
  have hfrom : ∀ b : Builder, (calls.foldl after b).criteria.map Prod.fst =
      (calls.filterMap Call.field?).foldl
        (fun kept v => if kept.any (·.same v) then kept else kept ++ [v])
        (b.criteria.map Prod.fst) := by
    induction calls with
    | nil => exact fun b => rfl
    | cons c calls ih =>
      intro b
      rw [List.foldl_cons, ih, fields_after, List.filterMap_cons]
      cases c.field? <;> rfl
  exact hfrom empty

end Builder

namespace Request

inductive Source where
  | parts (parts : RequestParts)
  | builder (calls : List Builder.Call)
  | wire (payload : Value)
  | event (event : Value)

namespace Source

def request : Source → Except Fault Request
  | parts p => Request.ofParts p
  | builder calls => (Builder.run calls).build
  | wire payload => Request.ofWire payload
  | event e => Request.ofEvent e

def Sound : Source → Prop
  | parts p => p.sortKeys.Sound ∧ p.criteria.Sound
  | builder calls => ∀ c ∈ calls, c.Sound
  | wire v | event v => v.Sound

def entriesOf : Value → List (Value × Value)
  | .map es => es
  | _ => []

def offset : Source → Value
  | parts p => p.offset
  | builder calls => (Builder.run calls).offset
  | wire v | event v => Value.entry "first" (entriesOf v)

def pageSize : Source → Except Fault Value
  | parts p => .ok p.pageSize
  | builder calls => .ok (Builder.run calls).pageSize
  | wire v => .ok (Value.entry "rows" (entriesOf v))
  | event v =>
    Request.eventPageSize (Value.entry "first" (entriesOf v)) (Value.entry "rows" (entriesOf v))
      (Value.entry "last" (entriesOf v))

/-- The fields that criteria are given for, each where it appears first. -/
def fields : Source → List Value
  | parts p => (entriesOf p.criteria).map Prod.fst
  | builder calls => distinct (calls.filterMap Builder.Call.field?)
  | wire v | event v => (entriesOf (Value.entry "filters" (entriesOf v))).map Prod.fst

theorem apart_entries {v : Value} (h : v.Sound) : Apart ((entriesOf v).map Prod.fst) := by
  cases v with
  | map es => exact h.1
  | _ => exact List.Pairwise.nil

theorem sound_filters {v : Value} (h : v.Sound) (name : String) :
    (Value.entry name (entriesOf v)).Sound := by
  cases v with
  | map es => exact sound_entry h name
  | _ => trivial

theorem apart_fields {s : Source} (h : s.Sound) : Apart s.fields := by
  cases s with
  | parts p => exact apart_entries h.2
  | builder calls => exact apart_distinct _
  | wire v | event v => exact apart_entries (sound_filters h "filters")

end Source
end Request
end TableQuery
