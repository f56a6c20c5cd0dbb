import TableQuery.Proofs.Fault
import TableQuery.Proofs.Request.Source

/-!
# How parts of requests are turned down

The readers that every form of a request shares fail in one way: something in the value at hand is
malformed. Only a value that cannot be shown gets another fault, that of showing it.
-/
namespace TableQuery

open Outcome Value

def Fault.IsMalformed (f : Fault) : Prop := ∃ cause, f = .malformed cause

variable {atHand : Value → Prop}

theorem failsOnly_malformed {α : Type} {cause : Malformed} (hgiven : ∀ w ∈ cause.given, atHand w) :
    FailsOnly (Fault.Reported Fault.IsMalformed atHand) (cause.raise : Except Fault α) :=
  Fault.failsOnly_reported ⟨cause, rfl⟩ hgiven

variable {value mode connective field direction : Value}

theorem MatchMode.failsOnly_ofValue (h : atHand mode) :
    FailsOnly (Fault.Reported Fault.IsMalformed atHand) (ofValue mode) := by
  unfold ofValue
  split
  iterate 2 exact failsOnly_ok
  · split
    · exact failsOnly_ok
    · exact failsOnly_malformed (by simp [Malformed.given])
  · exact failsOnly_malformed (by simpa [Malformed.given] using h)

theorem Connective.failsOnly_ofValue (h : atHand connective) :
    FailsOnly (Fault.Reported Fault.IsMalformed atHand) (ofValue connective) := by
  unfold ofValue
  split
  iterate 2 exact failsOnly_ok
  · split
    · exact failsOnly_ok
    · exact failsOnly_malformed (by simp [Malformed.given])
  · exact failsOnly_malformed (by simpa [Malformed.given] using h)

theorem SortKey.failsOnly_ofParts (hfield : atHand field) (hdirection : atHand direction) :
    FailsOnly (Fault.Reported Fault.IsMalformed atHand) (ofParts field direction) := by
  unfold ofParts
  split
  · split
    · exact failsOnly_malformed (by simpa [Malformed.given] using hfield)
    · split
      iterate 2 exact failsOnly_ok
      exact failsOnly_malformed (by simpa [Malformed.given] using hdirection)
  · exact failsOnly_malformed (by simpa [Malformed.given] using hfield)

theorem Criterion.failsOnly_ofParts (hmode : atHand mode) (hconnective : atHand connective) :
    FailsOnly (Fault.Reported Fault.IsMalformed atHand) (ofParts value mode connective) := by
  refine (MatchMode.failsOnly_ofValue hmode).bind fun _ _ => ?_
  exact (Connective.failsOnly_ofValue hconnective).bind fun _ _ => failsOnly_ok

namespace Request

theorem failsOnly_count {part : String} (h : atHand value) :
    FailsOnly (Fault.Reported Fault.IsMalformed atHand) (count part value) := by
  unfold count
  split
  iterate 2 exact failsOnly_ok
  iterate 2 exact failsOnly_malformed (by simpa [Malformed.given] using h)

theorem failsOnly_fieldName (h : atHand field) :
    FailsOnly (Fault.Reported Fault.IsMalformed atHand) (fieldName field) := by
  unfold fieldName
  split
  · exact failsOnly_ok
  · exact failsOnly_malformed (by simpa [Malformed.given] using h)

theorem failsOnly_assemble {offset pageSize globalField : Value} {sortKeys : List SortKey}
    {criteria : List (Value × List Criterion)} (hoffset : atHand offset)
    (hpageSize : atHand pageSize) (hkeys : ∀ x ∈ criteria, atHand x.1) :
    FailsOnly (Fault.Reported Fault.IsMalformed atHand)
      (assemble offset pageSize sortKeys criteria globalField) := by
  refine (failsOnly_count hoffset).bind fun _ _ => ?_
  refine (failsOnly_count hpageSize).bind fun _ _ => ?_
  refine (FailsOnly.mapM fun x hx => ?_).bind fun _ _ => failsOnly_ok
  exact (failsOnly_fieldName (hkeys x hx)).bind fun _ _ => failsOnly_ok

end Request

theorem Value.hasText_entry {es : List (Value × Value)} (h : HasText (.map es)) (name : String) :
    HasText (entry name es) := by
  rcases entry_cases name es with hnull | ⟨e, he, heq⟩
  · rw [hnull]
    exact ⟨_, rfl⟩
  · rw [heq]
    exact (hasText_entries h e he).2

end TableQuery
