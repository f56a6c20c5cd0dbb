import TableQuery.Proofs.Literal

/-!
# How faults are reported

A fault is reported with a text that shows the values in question. When one of these has none, the
fault of showing it is reported instead, and there are only two of those: digits that are too many,
and a condition without the operands that its operator needs.
-/
namespace TableQuery

open Outcome

inductive Fault.Textless : Fault → Prop
  | digits : Textless .badValue
  | operands : Textless .placeMissing

namespace Value

theorem failsOnly_literalInt (n : Int) : FailsOnly Fault.Textless (literalInt n) := by
  unfold literalInt
  split
  · exact failsOnly_ok
  · exact failsOnly_error .digits

theorem failsOnly_comparisonText {target : Except Fault String} {o : Operator} {foldsCase : Bool}
    {operands : List (Except Fault String)} (htarget : FailsOnly Fault.Textless target)
    (hoperands : ∀ x ∈ operands, FailsOnly Fault.Textless x) :
    FailsOnly Fault.Textless (comparisonText target o foldsCase operands) := by
  unfold comparisonText
  refine htarget.bind fun shown _ => ?_
  generalize (if foldsCase then "lower(" ++ shown ++ ")" else shown) = target
  dsimp only
  split
  · exact (FailsOnly.mapM hoperands).bind fun _ _ => failsOnly_ok
  · next low high _ =>
    refine (hoperands low (by simp)).bind fun _ _ => ?_
    exact (hoperands high (by simp)).bind fun _ _ => failsOnly_ok
  · next low => exact (hoperands low (by simp)).bind fun _ _ => failsOnly_error .operands
  · next item _ _ _ _ => exact (hoperands item (by simp)).bind fun _ _ => failsOnly_ok
  · exact failsOnly_error .operands

mutual

/-- Showing a value fails in one of two ways, however deep in it. -/
theorem failsOnly_shown (plainly : Bool) : ∀ v : Value, FailsOnly Fault.Textless (shown plainly v)
  | int n => by
    rw [shown]
    exact failsOnly_literalInt n
  | list items | tuple items => by
    rw [shown]
    exact (FailsOnly.mapM (failsOnly_shownAll items)).bind fun _ _ => failsOnly_ok
  | set [] | frozenset [] => by
    rw [shown]
    exact failsOnly_ok
  | set (v :: items) | frozenset (v :: items) => by
    rw [shown]
    · exact (FailsOnly.mapM (failsOnly_shownAll (v :: items))).bind fun _ _ => failsOnly_ok
    · exact List.cons_ne_nil v items
  | map entries => by
    rw [shown]
    exact (FailsOnly.mapM (failsOnly_shownEntries entries)).bind fun _ _ => failsOnly_ok
  | sortKey _ none => by
    rw [shown]
    exact failsOnly_ok
  | sortKey _ (some n) => by
    rw [shown]
    exact (failsOnly_literalInt n).bind fun _ _ => failsOnly_ok
  | criterion value _ _ => by
    rw [shown]
    exact (failsOnly_shown false value).bind fun _ _ => failsOnly_ok
  | comparison field _ operands _ => by
    rw [shown]
    exact failsOnly_comparisonText (failsOnly_shown true field) (failsOnly_shownAll operands)
  | junction _ parts => by
    rw [shown]
    exact (FailsOnly.mapM (failsOnly_shownAll parts)).bind fun _ _ => failsOnly_ok
  | null | bool _ | float _ | decimal _ | text _ | bytes _ | date _ | datetime _ | mode _
  | connective _ | category _ | bare _ => by
    rw [shown]
    exact failsOnly_ok

theorem failsOnly_shownAll : ∀ vs : List Value, ∀ x ∈ shownAll vs, FailsOnly Fault.Textless x
  | [] => by simp [shownAll]
  | v :: vs => by
    rw [shownAll]
    exact List.forall_mem_cons.mpr ⟨failsOnly_shown false v, failsOnly_shownAll vs⟩

theorem failsOnly_shownEntries :
    ∀ es : List (Value × Value), ∀ x ∈ shownEntries es, FailsOnly Fault.Textless x
  | [] => by simp [shownEntries]
  | (k, v) :: es => by
    rw [shownEntries]
    refine List.forall_mem_cons.mpr ⟨?_, failsOnly_shownEntries es⟩
    refine (failsOnly_shown false k).bind fun _ _ => ?_
    exact (failsOnly_shown false v).bind fun _ _ => failsOnly_ok

end

theorem shown_of_hasText {v : Value} (h : HasText v) (plainly : Bool) :
    ∃ s, v.shown plainly = .ok s := by
  cases plainly with
  | false => exact h
  | true => exact display_of_hasText h

def Hides (v : Value) (f : Fault) : Prop := ∃ plainly, v.shown plainly = .error f

theorem Hides.textless {v : Value} {f : Fault} (h : v.Hides f) : f.Textless := by
  obtain ⟨plainly, h⟩ := h
  exact failsOnly_shown plainly v f h

theorem not_hides_of_hasText {v : Value} {f : Fault} (h : HasText v) : ¬v.Hides f := by
  rintro ⟨plainly, hf⟩
  obtain ⟨s, hs⟩ := shown_of_hasText h plainly
  rw [hs] at hf
  cases hf

theorem failsOnly_literal (v : Value) : FailsOnly v.Hides v.literal := fun _ h => ⟨false, h⟩

theorem failsOnly_display (v : Value) : FailsOnly v.Hides v.display := fun _ h => ⟨true, h⟩

end Value

open Value

namespace Malformed

def given : Malformed → List Value
  | modeNotText v | connectiveNotText v | sortFieldNotName v | directionNotWhole v | notWhole _ v
  | fieldNotText v | entriesNotList v => [v]
  | negative _ n => [.int n]
  | _ => []

theorem failsOnly_message (cause : Malformed) :
    FailsOnly (fun f => ∃ v ∈ cause.given, v.Hides f) cause.message := by
  cases cause with
  | entriesNotList v => exact ((failsOnly_display v).imp fun _ hf => ⟨v, by simp [given], hf⟩).map
  | modeNotText v | connectiveNotText v | sortFieldNotName v | directionNotWhole v | notWhole _ v
  | fieldNotText v => exact ((failsOnly_literal v).imp fun _ hf => ⟨v, by simp [given], hf⟩).map
  | negative _ n =>
    rw [message]
    exact ((failsOnly_literal (.int n)).imp fun _ hf => ⟨.int n, by simp [given], hf⟩).map
  | _ => exact failsOnly_ok

end Malformed

namespace Misshapen

def given : Misshapen → List Value
  | notText v | notPair v | notMany v | notSingle v => [v]
  | missing => []

theorem failsOnly_message (cause : Misshapen) :
    FailsOnly (fun f => ∃ v ∈ cause.given, v.Hides f) cause.message := by
  cases cause with
  | notText v | notPair v | notMany v | notSingle v =>
    exact ((failsOnly_literal v).imp fun _ hf => ⟨v, by simp [given], hf⟩).map
  | missing => exact failsOnly_ok

end Misshapen

namespace Fault

def given : Fault → List Value
  | malformed cause => cause.given
  | unresolved field | modeRefused field _ _ => [field]
  | misshapen field _ cause => field :: cause.given
  | _ => []

theorem failsOnly_message (f : Fault) :
    FailsOnly (fun g => ∃ v ∈ f.given, v.Hides g) f.message := by
  cases f with
  | malformed cause => exact cause.failsOnly_message.map
  | unresolved v | modeRefused v _ _ =>
    exact ((failsOnly_display v).imp fun _ hg => ⟨v, by simp [given], hg⟩).map
  | misshapen field _ cause =>
    refine (cause.failsOnly_message.imp ?_).bind fun _ _ => ?_
    · rintro g ⟨v, hv, hg⟩
      exact ⟨v, List.mem_cons_of_mem _ hv, hg⟩
    · refine FailsOnly.bind ?_ fun _ _ => failsOnly_ok
      exact (failsOnly_display field).imp fun _ hg => ⟨field, List.mem_cons_self, hg⟩
  | _ => exact failsOnly_ok

variable {α : Type}

theorem raise_of_hasText {f : Fault} (h : ∀ v ∈ f.given, HasText v) :
    (f.raise : Except Fault α) = .error f := by
  cases hf : f.message with
  | ok s => rw [raise, hf]
  | error g =>
    obtain ⟨v, hv, hg⟩ := f.failsOnly_message g hf
    exact absurd hg (not_hides_of_hasText (h v hv))

/-- A fault that is meant, or that of showing one of the values at hand. -/
inductive Reported (meant : Fault → Prop) (atHand : Value → Prop) : Fault → Prop
  | meant (f : Fault) (h : meant f) : Reported meant atHand f
  | hidden (f : Fault) (v : Value) (hv : atHand v) (h : v.Hides f) : Reported meant atHand f

variable {meant meant' : Fault → Prop} {atHand atHand' : Value → Prop} {f : Fault}

theorem Reported.of_shown (h : Reported meant atHand f) (hshown : ∀ v, atHand v → HasText v) :
    meant f := by
  cases h with
  | meant h => exact h
  | hidden v hv h => exact absurd h (not_hides_of_hasText (hshown v hv))

theorem Reported.imp (hmeant : ∀ f, meant f → meant' f) (h : Reported meant atHand f) :
    Reported meant' atHand f := by
  cases h with
  | meant h => exact .meant f (hmeant f h)
  | hidden v hv h => exact .hidden f v hv h

theorem Reported.ofPart (hpart : ∀ v, atHand v → atHand' v) (h : Reported meant atHand f) :
    Reported meant atHand' f := by
  cases h with
  | meant h => exact .meant f h
  | hidden v hv h => exact .hidden f v (hpart v hv) h

theorem failsOnly_reported (hmeant : meant f) (hgiven : ∀ v ∈ f.given, atHand v) :
    FailsOnly (Reported meant atHand) (f.raise : Except Fault α) := by
  unfold raise
  split
  · exact failsOnly_error (.meant f hmeant)
  · next g hg =>
    obtain ⟨v, hv, hhides⟩ := f.failsOnly_message g hg
    exact failsOnly_error (.hidden g v (hgiven v hv) hhides)

end Fault
end TableQuery
