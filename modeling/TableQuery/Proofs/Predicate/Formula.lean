import Mathlib
import TableQuery.Predicate.Check

/-!
# Formulas as trees

One induction principle for formulas of any depth. The functions that recurse over a formula and
over its parts are read as functions of the list of parts, so that no later proof opens them.
-/
namespace TableQuery

def Connective.truth : Connective → List Bool → Bool
  | .all, parts => parts.all id
  | .any, parts => parts.any id

namespace Formula

variable {α β ε : Type}

@[elab_as_elim]
theorem inductionOn {motive : Formula α → Prop} (atom : ∀ a, motive (.atom a))
    (junction : ∀ how parts, (∀ f ∈ parts, motive f) → motive (.junction how parts))
    (f : Formula α) : motive f :=
  @Formula.rec α motive (fun fs => ∀ f ∈ fs, motive f) atom junction
    (by simp) (by simp +contextual) f

@[simp]
theorem atomsAll_eq (fs : List (Formula α)) : atomsAll fs = fs.flatMap atoms := by
  induction fs with
  | nil => rfl
  | cons f fs ih => rw [atomsAll, ih, List.flatMap_cons]

theorem mem_atoms_junction {how : Connective} {parts : List (Formula α)} {a : α} :
    a ∈ (junction how parts).atoms ↔ ∃ f ∈ parts, a ∈ f.atoms := by
  rw [atoms, atomsAll_eq, List.mem_flatMap]

@[simp]
theorem mapAll_eq (g : α → β) (fs : List (Formula α)) : mapAll g fs = fs.map (map g) := by
  induction fs with
  | nil => rfl
  | cons f fs ih => rw [mapAll, ih, List.map_cons]

@[simp]
theorem holdsAll_eq (v : α → Bool) (fs : List (Formula α)) : holdsAll v fs = fs.all (holds v) := by
  induction fs with
  | nil => rfl
  | cons f fs ih => rw [holdsAll, ih, List.all_cons]

@[simp]
theorem holdsAny_eq (v : α → Bool) (fs : List (Formula α)) : holdsAny v fs = fs.any (holds v) := by
  induction fs with
  | nil => rfl
  | cons f fs ih => rw [holdsAny, ih, List.any_cons]

theorem holds_junction (v : α → Bool) (how : Connective) (parts : List (Formula α)) :
    holds v (junction how parts) = how.truth (parts.map (holds v)) := by
  cases how <;> simp [holds, Connective.truth]

theorem holds_mono {v w : α → Bool} {f : Formula α} (h : ∀ a ∈ f.atoms, v a = true → w a = true) :
    holds v f = true → holds w f = true := by
  induction f using inductionOn with
  | atom a => exact h a (by simp [atoms])
  | junction how parts ih =>
    have hparts : ∀ f ∈ parts, holds v f = true → holds w f = true :=
      fun f hf => ih f hf fun a ha => h a (mem_atoms_junction.mpr ⟨f, hf, ha⟩)
    rw [holds_junction, holds_junction]
    cases how with
    | all => simpa [Connective.truth] using fun hall f hf => hparts f hf (hall f hf)
    | any => simpa [Connective.truth] using fun f hf hv => ⟨f, hf, hparts f hf hv⟩

theorem holds_congr {v w : α → Bool} {f : Formula α} (h : ∀ a ∈ f.atoms, v a = w a) :
    holds v f = holds w f := by
  rw [Bool.eq_iff_iff]
  exact ⟨holds_mono fun a ha hv => h a ha ▸ hv, holds_mono fun a ha hw => (h a ha).symm ▸ hw⟩

/-- The truth of a joined formula is that of its parts together, also when there is only one. -/
theorem holds_join? {how : Connective} {fs : List (Formula α)} {f : Formula α}
    (h : join? how fs = some f) (v : α → Bool) :
    holds v f = how.truth (fs.map (holds v)) := by
  cases fs with
  | nil => simp [join?] at h
  | cons g gs =>
    cases gs with
    | nil =>
      have hf : g = f := by simpa [join?] using h
      cases how <;> simp [hf, Connective.truth]
    | cons g' gs =>
      have hf : junction how (g :: g' :: gs) = f := by simpa [join?] using h
      rw [← hf, holds_junction]

theorem atoms_join? {how : Connective} {fs : List (Formula α)} {f : Formula α}
    (h : join? how fs = some f) : atoms f = fs.flatMap atoms := by
  cases fs with
  | nil => simp [join?] at h
  | cons g gs =>
    cases gs with
    | nil =>
      have hf : g = f := by simpa [join?] using h
      simp [hf]
    | cons g' gs =>
      have hf : junction how (g :: g' :: gs) = f := by simpa [join?] using h
      simp [← hf, atoms]

@[simp]
theorem join?_eq_none {how : Connective} {fs : List (Formula α)} :
    join? how fs = none ↔ fs = [] := by
  unfold join?
  split <;> simp_all

theorem map_join? (g : α → β) (how : Connective) (fs : List (Formula α)) :
    (join? how fs).map (map g) = join? how (fs.map (map g)) := by
  match fs with
  | [] => rfl
  | [_] => rfl
  | _ :: _ :: _ => simp [join?, map]

theorem visit_junction {how : Connective} {fs : List (Formula α)}
    {atFormula : α → Except ε Unit} {atJunction : Connective → Except ε Unit} :
    visit atFormula atJunction (junction how fs) = .ok () ↔
      atJunction how = .ok () ∧ ∀ f ∈ fs, visit atFormula atJunction f = .ok () := by
  have hall : visitAll atFormula atJunction fs = .ok () ↔
      ∀ f ∈ fs, visit atFormula atJunction f = .ok () := by
    induction fs with
    | nil => simp [visitAll]
    | cons f fs ih =>
      rw [visitAll, List.forall_mem_cons, ← ih]
      cases visit atFormula atJunction f <;> simp
  rw [visit, ← hall]
  cases atJunction how <;> simp

end Formula

theorem Node.ofPredicate_junction (how : Connective) (parts : List Predicate) :
    Node.ofPredicate (.junction how parts) = .junction how (parts.map Node.ofPredicate) := by
  simp [Node.ofPredicate, Formula.map]

theorem Node.check_permitted (refuser : Refuser) (p : Predicate) :
    (Node.ofPredicate p).check refuser [] = .ok () := by
  induction p using Formula.inductionOn with
  | atom c => rfl
  | junction how parts ih =>
    rw [Node.ofPredicate_junction]
    exact Formula.visit_junction.mpr ⟨rfl, List.forall_mem_map.mpr ih⟩

end TableQuery
