import TableQuery.Proofs.Fault
import TableQuery.Proofs.Request.Malformed

/-!
# What a client can send

Values without kinds of their own: null, truth values, whole numbers, texts, and lists and maps of
these. Whether one of them is in use can always be told, and all that can keep it from being shown
is a number with too many digits.
-/
namespace TableQuery

open Outcome Value

namespace Value

/-- What a client can send: null, truth values, whole numbers, texts, and lists and maps of these,
with texts for keys. -/
inductive Plain : Value → Prop
  | null : Plain .null
  | bool (b : Bool) : Plain (.bool b)
  | int (n : Int) : Plain (.int n)
  | text (s : String) : Plain (.text s)
  | list (items : List Value) (h : ∀ v ∈ items, Plain v) : Plain (.list items)
  | map (es : List (Value × Value)) (keys : ∀ e ∈ es, ∃ name, e.1 = .text name)
    (values : ∀ e ∈ es, Plain e.2) : Plain (.map es)

def IsNumber (v : Value) : Prop := v.whole?.isSome = true

variable {v w : Value} {es : List (Value × Value)} {vs : List Value} {f : Fault}

theorem Plain.entry (h : Plain (.map es)) (name : String) : Plain (entry name es) := by
  rcases entry_cases name es with hnull | ⟨e, he, heq⟩
  · rw [hnull]
    exact .null
  · rw [heq]
    cases h with
    | map _ _ values => exact values e he

theorem Plain.failsOnly_shown (h : v.Plain) (plainly : Bool) :
    FailsOnly (· = .badValue) (v.shown plainly) := by
  induction h generalizing plainly with
  | null | bool | text =>
    rw [shown]
    exact failsOnly_ok
  | int n =>
    rw [shown, literalInt]
    split
    · exact failsOnly_ok
    · exact failsOnly_error rfl
  | list items _ ih =>
    rw [shown, shownAll_eq, mapM_literals]
    exact (FailsOnly.mapM fun v hv => ih v hv false).bind fun _ _ => failsOnly_ok
  | map es keys _ ih =>
    rw [shown, shownEntries_eq, List.mapM_map]
    refine (FailsOnly.mapM fun e he => ?_).bind fun _ _ => failsOnly_ok
    obtain ⟨name, hname⟩ := keys e he
    refine FailsOnly.bind ?_ fun _ _ => (ih e he false).bind fun _ _ => failsOnly_ok
    rw [hname, literal, shown]
    exact failsOnly_ok

theorem Plain.eq_badValue (h : v.Plain) (hides : v.Hides f) : f = .badValue := by
  obtain ⟨plainly, hf⟩ := hides
  exact h.failsOnly_shown plainly f hf

theorem Plain.items_error (h : v.Plain) (hgiven : v.truthy = true) :
    v.items = .error f ↔ v.IsNumber ∧ f = .wrongKind := by
  cases h with
  | null => cases hgiven
  | bool | int => simp [items, IsNumber, whole?, eq_comm]
  | text | list | map => simp [items, IsNumber, whole?]

theorem Magnitude.exists_scaled (negative : Bool) (coefficient : Nat) (exponent : Int) :
    ∃ c e, Magnitude.scaled negative coefficient exponent = .finite c e := by
  unfold Magnitude.scaled
  split <;> exact ⟨_, _, rfl⟩

theorem Plain.not_signals (h : v.Plain) : ¬ v.Signals := by
  cases h with
  | bool b =>
    obtain ⟨c, e, hb⟩ := Magnitude.exists_scaled false (if b then 1 else 0) 0
    simp [Signals, magnitude?, hb]
  | int n =>
    obtain ⟨c, e, hn⟩ := Magnitude.exists_scaled (n < 0) n.natAbs 0
    simp [Signals, magnitude?, hn]
  | _ => simp [Signals, magnitude?]

theorem Plain.exists_inUse (h : v.Plain) : ∃ used, v.inUse = .ok used :=
  ⟨_, inUse_eq h.not_signals⟩

/-- A plain value that can be shown if all there is can be. -/
def AtHand (legible : Prop) (v : Value) : Prop := v.Plain ∧ (legible → HasText v)

variable {legible : Prop}

theorem atHand_text (s : String) : AtHand legible (.text s) := ⟨.text s, fun _ => ⟨_, rfl⟩⟩

theorem AtHand.entry (h : AtHand legible (.map es)) (name : String) :
    AtHand legible (entry name es) :=
  ⟨h.1.entry name, fun hlegible => hasText_entry (h.2 hlegible) name⟩

theorem AtHand.of_items (h : AtHand legible v) (hitems : v.items = .ok vs) :
    ∀ w ∈ vs, AtHand legible w := by
  obtain ⟨hplain, htext⟩ := h
  cases hplain with
  | text s =>
    obtain rfl := Except.ok.inj hitems
    rw [List.forall_mem_map]
    exact fun _ _ => atHand_text _
  | list _ h =>
    obtain rfl := Except.ok.inj hitems
    exact fun w hw => ⟨h w hw, fun hlegible => hasText_members rfl (htext hlegible) w hw⟩
  | map es keys _ =>
    obtain rfl := Except.ok.inj hitems
    rw [List.forall_mem_map]
    intro e he
    obtain ⟨name, hname⟩ := keys e he
    exact hname ▸ atHand_text name
  | null | bool | int => cases hitems

end Value

/-- What ends in a fault that is meant or in that of showing something at hand, ends in one that is
meant, or in too many digits where not all can be shown. -/
theorem Fault.Reported.of_atHand {meant : Fault → Prop} {legible : Prop} {f : Fault}
    (h : Fault.Reported meant (AtHand legible) f) :
    meant f ∨ f = .badValue ∧ ¬legible := by
  cases h with
  | meant h => exact .inl h
  | hidden v hv hides =>
    exact .inr ⟨hv.1.eq_badValue hides, fun hlegible =>
      not_hides_of_hasText (hv.2 hlegible) hides⟩

end TableQuery
