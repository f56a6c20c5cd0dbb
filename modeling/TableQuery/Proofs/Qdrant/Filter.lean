import Mathlib
import TableQuery.Proofs.Predicate.Formula
import TableQuery.Qdrant.Lowering

/-!
# The truth of filters

A filter reads its lists of conditions one by one. Negations that move from a part into the filter
around it leave the truth of the filter as it is, and as long as only conditions of single keys are
negated, no alternative moves at all.
-/
namespace TableQuery.Qdrant
namespace Condition

variable (v : Condition → Bool)

@[simp]
theorem holdsAll_eq (cs : List Condition) : holdsAll v cs = cs.all (holds v) := by
  induction cs with
  | nil => rfl
  | cons c cs ih => rw [holdsAll, ih, List.all_cons]

@[simp]
theorem holdsNone_eq (cs : List Condition) : holdsNone v cs = cs.all fun c => !holds v c := by
  induction cs with
  | nil => rfl
  | cons c cs ih => rw [holdsNone, ih, List.all_cons]

@[simp]
theorem holdsAny_eq (cs : List Condition) : holdsAny v cs = cs.any (holds v) := by
  induction cs with
  | nil => rfl
  | cons c cs ih => rw [holdsAny, ih, List.any_cons]

theorem holds_of_single {c : Condition} (h : c.isFilter = false) : holds v c = v c := by
  cases c <;> simp_all [isFilter, holds]

mutual

/-- The numbers of alternatives of the "at least one" lists in a condition, from left to right. -/
def alternatives : Condition → List Nat
  | test _ _ | isNull _ => []
  | allOf must mustNot => alternativesIn must ++ alternativesIn mustNot
  | anyOf should => should.length :: alternativesIn should

def alternativesIn : List Condition → List Nat
  | [] => []
  | c :: rest => alternatives c ++ alternativesIn rest

end

@[simp]
theorem alternativesIn_eq (cs : List Condition) : alternativesIn cs = cs.flatMap alternatives := by
  induction cs with
  | nil => rfl
  | cons c cs ih => rw [alternativesIn, ih, List.flatMap_cons]

theorem alternatives_of_single {c : Condition} (h : c.isFilter = false) : alternatives c = [] := by
  cases c <;> simp_all [isFilter, alternatives]

theorem alternatives_of_singles {cs : List Condition} (h : ∀ c ∈ cs, c.isFilter = false) :
    cs.flatMap alternatives = [] :=
  List.flatMap_eq_nil_iff.mpr fun c hc => alternatives_of_single (h c hc)

def NegatesSingles : Condition → Prop
  | allOf _ mustNot => ∀ c ∈ mustNot, c.isFilter = false
  | _ => True

end Condition

open Condition

variable {cs : List Condition}

/-- Gathering the pure negations of the parts of "all of" keeps the truth of the parts together. -/
theorem holds_gather (v : Condition → Bool) (cs : List Condition) :
    ((gather cs).1.all (holds v) && (gather cs).2.all fun c => !holds v c) = cs.all (holds v) := by
  fun_induction gather cs with
  | case1 => rfl
  | case2 n ns rest must mustNot hg ih =>
    rw [hg] at ih
    have hpure : holds v (allOf [] (n :: ns)) = (n :: ns).all fun c => !holds v c := by
      simp [holds]
    have hcons : (allOf [] (n :: ns) :: rest).all (holds v) =
        (((n :: ns).all fun c => !holds v c) && rest.all (holds v)) := by
      rw [← hpure, List.all_cons]
    rw [List.all_append, hcons, ← ih]
    exact Bool.and_left_comm _ _ _
  | case3 c rest hc must mustNot hg ih =>
    rw [hg] at ih
    rw [List.all_cons, List.all_cons, ← ih, Bool.and_assoc]

theorem gather_negatesSingles (h : ∀ c ∈ cs, NegatesSingles c) :
    ∀ c ∈ (gather cs).2, c.isFilter = false := by
  fun_induction gather cs with
  | case1 => simp
  | case2 n ns rest must mustNot hg ih =>
    rw [hg] at ih
    intro c hc
    rcases List.mem_append.mp hc with hc | hc
    · exact h (allOf [] (n :: ns)) (by simp) c hc
    · exact ih (fun c hc => h c (List.mem_cons_of_mem _ hc)) c hc
  | case3 c rest hpure must mustNot hg ih =>
    rw [hg] at ih
    exact ih fun c hc => h c (List.mem_cons_of_mem _ hc)

theorem alternatives_gather (h : ∀ c ∈ cs, NegatesSingles c) :
    (gather cs).1.flatMap alternatives = cs.flatMap alternatives := by
  fun_induction gather cs with
  | case1 => rfl
  | case2 n ns rest must mustNot hg ih =>
    rw [hg] at ih
    have hpure : alternatives (allOf [] (n :: ns)) = [] := by
      rw [alternatives, alternativesIn_eq, alternativesIn_eq,
        alternatives_of_singles (h (allOf [] (n :: ns)) (by simp))]
      rfl
    rw [List.flatMap_cons, hpure, ← ih fun c hc => h c (List.mem_cons_of_mem _ hc)]
    rfl
  | case3 c rest hpure must mustNot hg ih =>
    rw [hg] at ih
    rw [List.flatMap_cons, List.flatMap_cons, ih fun c hc => h c (List.mem_cons_of_mem _ hc)]

theorem holds_junctionCondition (v : Condition → Bool) (how : Connective) (cs : List Condition) :
    holds v (junctionCondition how cs) = how.truth (cs.map (holds v)) := by
  cases how with
  | all =>
    have hg := holds_gather v cs
    simpa [junctionCondition, holds, Connective.truth, Function.comp_def] using hg
  | any => simp [junctionCondition, holds, Connective.truth]

theorem negatesSingles_junctionCondition (how : Connective) (h : ∀ c ∈ cs, NegatesSingles c) :
    NegatesSingles (junctionCondition how cs) := by
  cases how with
  | all => exact gather_negatesSingles h
  | any => trivial

theorem holds_asFilter (v : Condition → Bool) (c : Condition) :
    holds v (asFilter c) = holds v c := by
  unfold asFilter
  split
  · rfl
  · simp [holds]

theorem isFilter_asFilter (c : Condition) : (asFilter c).isFilter = true := by
  unfold asFilter
  split
  · assumption
  · rfl

theorem alternatives_asFilter (c : Condition) : alternatives (asFilter c) = alternatives c := by
  unfold asFilter
  split
  · rfl
  · simp [alternatives]

end TableQuery.Qdrant
