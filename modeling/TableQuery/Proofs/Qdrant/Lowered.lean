import TableQuery.Proofs.Qdrant.Payload

/-!
# What a lowering comes to

A predicate is lowered as a whole or not at all: it fails as the first of its comparisons fails that
has no condition. A filter has the condition of each comparison once, on the side of what is asked
when the comparison asks and on the side of what is denied when it denies.
-/
namespace TableQuery.Qdrant

open Outcome

variable {l : Layout} {p : Predicate} {q : Comparison}

theorem fault?_lower (l : Layout) (p : Predicate) :
    fault? (lower l (Node.ofPredicate p)) = firstFault (p.atoms.map (comparisonCondition l)) := by
  induction p using Formula.inductionOn with
  | atom c =>
    rw [Formula.atoms, List.map_singleton, firstFault_singleton]
    rfl
  | junction how parts ih =>
    rw [lower_junction, fault?_map, fault?_mapM ih, Formula.atoms, Formula.atomsAll_eq,
      List.map_flatMap]

theorem convert_permitted (hl : l.refused = []) (p : Predicate) :
    convert l (Node.ofPredicate p) =
      (lower l (Node.ofPredicate p)).map fun c => some (asFilter c) := by
  have hcheck : (Node.ofPredicate p).check .qdrant l.refused = .ok () := by
    rw [hl]
    exact Node.check_permitted .qdrant p
  unfold convert
  split
  · next hnothing => cases p <;> cases hnothing
  · rw [hcheck]

theorem fault?_convert (hl : l.refused = []) (p : Predicate) :
    fault? (convert l (Node.ofPredicate p)) =
      firstFault (p.atoms.map (comparisonCondition l)) := by
  rw [convert_permitted hl, fault?_map, fault?_lower]

/-- A comparison without a condition makes the conversion fail, with its own fault or with that of
a comparison before it. -/
theorem fault?_convert_of_split (hl : l.refused = []) {before after : List Comparison} {f : Fault}
    (hsplit : p.atoms = before ++ q :: after) (hq : comparisonCondition l q = .error f) :
    fault? (convert l (Node.ofPredicate p)) =
      (firstFault (before.map (comparisonCondition l))).or (some f) := by
  rw [fault?_convert hl, hsplit, List.map_append, List.map_cons, hq, firstFault_append]
  rfl

namespace Condition

mutual

def standing (asked : Bool) : Condition → List Condition
  | test key t => if asked then [test key t] else []
  | isNull key => if asked then [isNull key] else []
  | allOf must mustNot => standingIn asked must ++ standingIn (!asked) mustNot
  | anyOf should => standingIn asked should

def standingIn (asked : Bool) : List Condition → List Condition
  | [] => []
  | c :: rest => standing asked c ++ standingIn asked rest

end

@[simp]
theorem standingIn_eq (asked : Bool) (cs : List Condition) :
    standingIn asked cs = cs.flatMap (standing asked) := by
  induction cs with
  | nil => rfl
  | cons c cs ih => rw [standingIn, ih, List.flatMap_cons]

theorem standing_of_single {c : Condition} (asked : Bool) (h : c.isFilter = false) :
    standing asked c = if asked then [c] else [] := by
  cases c <;> first | rfl | cases h

theorem standing_asFilter (asked : Bool) (c : Condition) :
    standing asked (asFilter c) = standing asked c := by
  unfold asFilter
  split
  · rfl
  · simp [standing]

/-- Gathering moves negations but loses none. -/
theorem standing_gather (asked : Bool) (cs : List Condition) :
    ((gather cs).1.flatMap (standing asked) ++ (gather cs).2.flatMap (standing !asked)).Perm
      (cs.flatMap (standing asked)) := by
  fun_induction gather cs with
  | case1 => exact .refl _
  | case2 n ns rest must mustNot hg ih =>
    rw [hg] at ih
    have hpure : standing asked (allOf [] (n :: ns)) = (n :: ns).flatMap (standing !asked) := by
      rw [standing, standingIn_eq, standingIn_eq, List.flatMap_nil, List.nil_append]
    rw [List.flatMap_cons, hpure, List.flatMap_append, ← List.append_assoc]
    refine (List.perm_append_comm.append_right _).trans ?_
    rw [List.append_assoc]
    exact ih.append_left _
  | case3 c rest hc must mustNot hg ih =>
    rw [hg] at ih
    rw [List.flatMap_cons, List.flatMap_cons, List.append_assoc]
    exact ih.append_left _

theorem standing_junctionCondition (asked : Bool) (how : Connective) (cs : List Condition) :
    (standing asked (junctionCondition how cs)).Perm (cs.flatMap (standing asked)) := by
  cases how with
  | all => simpa [junctionCondition, standing] using standing_gather asked cs
  | any => simp [junctionCondition, standing]

end Condition

open Condition

def conditionOf (l : Layout) (asked : Bool) (c : Comparison) : Option Condition :=
  if c.denies = asked then none else (comparisonCondition l c.positive).toOption

/-- What a lowered condition asks for are the conditions of the comparisons that ask, and what it
denies those of the comparisons that deny, each once. -/
theorem standing_lower {c : Condition} (h : lower l (Node.ofPredicate p) = .ok c) (asked : Bool) :
    (standing asked c).Perm (p.atoms.filterMap (conditionOf l asked)) := by
  induction p using Formula.inductionOn generalizing c with
  | atom q =>
    obtain ⟨c', hc', hsingle, rfl⟩ := comparisonCondition_ok h
    have hcondition : conditionOf l asked q = if q.denies = asked then none else some c' := by
      rw [conditionOf, hc']
      rfl
    -- a single condition stands on one side: where it is denied if the comparison denies
    have hstanding : standing asked (if q.denies = true then .allOf [] [c'] else c') =
        if q.denies = asked then [] else [c'] := by
      cases asked <;> cases q.denies <;> simp [standing, standing_of_single _ hsingle]
    rw [hstanding, Formula.atoms]
    by_cases hd : q.denies = asked
    · simp [hcondition, hd]
    · simp [hcondition, hd]
  | junction how parts ih =>
    rw [lower_junction] at h
    obtain ⟨cs, hcs, rfl⟩ := Outcome.map_ok.mp h
    have hparts := Outcome.forall₂_of_mem (Outcome.mapM_ok.mp hcs) fun p hp c hc => ih p hp hc
    refine (standing_junctionCondition asked how cs).trans ?_
    rw [Formula.atoms, Formula.atomsAll_eq, List.filterMap_flatMap]
    exact Outcome.flatMap_perm (.refl cs) hparts.flip

theorem mem_standing_of_convert {c f : Condition} (hq : q ∈ p.atoms)
    (hc : comparisonCondition l q.positive = .ok c)
    (h : convert l (Node.ofPredicate p) = .ok (some f)) : c ∈ standing (!q.denies) f := by
  obtain ⟨lowered, hlowered, rfl⟩ := convert_ok h
  rw [standing_asFilter, (standing_lower hlowered _).mem_iff, List.mem_filterMap]
  refine ⟨q, hq, ?_⟩
  rw [conditionOf, hc, if_neg (by simp)]
  rfl

/-! ## Keys -/

theorem comparisonCondition_of_text (hroot : ∃ s, l.root.display = .ok s) {name : String}
    (hname : q.field = .text name) :
    ∃ key, l.key q.field = .ok key ∧ comparisonCondition l q = operatorCondition (.ok key) q := by
  obtain ⟨root, hroot⟩ := hroot
  rw [Layout.key, comparisonCondition, hname, rootedKey, hroot]
  split
  · exact ⟨root ++ "." ++ name, rfl, rfl⟩
  · exact ⟨name, rfl, rfl⟩

end TableQuery.Qdrant
