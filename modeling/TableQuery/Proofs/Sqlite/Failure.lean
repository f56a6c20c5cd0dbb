import TableQuery.Proofs.Sqlite.Conversion

/-!
# Where a conversion stops

A predicate of any shape and with any operands is walked twice: once through all its operators, then
through its comparisons. The first walk alone decides on refused operators, and nothing is bound by
it. The second stops at the first comparison that has no clause, with the values of those before it
bound.
-/
namespace TableQuery

open Outcome

def Comparison.defect? (c : Comparison) : Option Fault :=
  match c.operator with
  | .and => some (.operatorRefused .and .sqlite)
  | .or => some (.operatorRefused .or .sqlite)
  | .isIn => none
  | .between => if c.operands.length = 2 then none else some .badValue
  | _ => if c.operands.length = 0 then some .placeMissing else none

/-- The operands that a comparison with a clause binds: all in a membership or a range, otherwise
the first, unless it is compared with null for equality. -/
def Comparison.bindings (c : Comparison) : List Value :=
  match c.operator, c.operands with
  | .isIn, operands => operands
  | .between, operands => operands
  | .eq, .null :: _ => []
  | .ne, .null :: _ => []
  | _, operands => operands.take 1

namespace Predicate

mutual

/-- The operators of a predicate, that of a junction before those of its parts. -/
def operators : Predicate → List Operator
  | .atom c => [c.operator]
  | .junction how parts => how.operator :: operatorsAll parts

def operatorsAll : List Predicate → List Operator
  | [] => []
  | p :: rest => operators p ++ operatorsAll rest

end

end Predicate

section Check

variable {refuser : Refuser} {refused : List Operator}

theorem Node.permit_error {o : Operator} {f : Fault} :
    permit refuser refused o = .error f ↔ o ∈ refused ∧ f = .operatorRefused o refuser := by
  by_cases ho : o ∈ refused <;> simp [permit, ho, eq_comm]

theorem Node.permit_ok {o : Operator} :
    (∃ a, permit refuser refused o = .ok a) ↔ o ∉ refused := by
  by_cases ho : o ∈ refused <;> simp [permit, ho]

theorem Node.fault?_check (p : Predicate) :
    fault? ((ofPredicate p).check refuser refused) =
      firstFault ((Predicate.operators p).map (permit refuser refused)) := by
  induction p using Formula.inductionOn with
  | atom c => exact (firstFault_singleton _).symm
  | junction how parts ih =>
    have hparts : fault? (Formula.visitAll (checkLeaf refuser refused)
        (fun how => permit refuser refused how.operator) (parts.map ofPredicate)) =
          firstFault ((Predicate.operatorsAll parts).map (permit refuser refused)) := by
      clear how
      induction parts with
      | nil => rfl
      | cons p parts ihparts =>
        rw [Predicate.operatorsAll, List.map_append, firstFault_append, ← ih p List.mem_cons_self,
          ← ihparts fun q hq => ih q (List.mem_cons_of_mem _ hq), List.map_cons, Formula.visitAll,
          check]
        cases Formula.visit _ _ (ofPredicate p) <;> rfl
    rw [Predicate.operators, List.map_cons, ← List.singleton_append, firstFault_append, ← hparts,
      firstFault_singleton, ofPredicate_junction, check, Formula.visit]
    cases permit refuser refused how.operator <;> rfl

theorem Node.check_refused {p : Predicate} {before after : List Operator} {o : Operator}
    (hsplit : Predicate.operators p = before ++ o :: after) (hbefore : ∀ x ∈ before, x ∉ refused)
    (ho : o ∈ refused) :
    (ofPredicate p).check refuser refused = .error (.operatorRefused o refuser) := by
  rw [← fault?_eq_some, fault?_check, firstFault_map_eq_some]
  exact ⟨before, o, after, hsplit, permit_error.mpr ⟨ho, rfl⟩,
    fun x hx => permit_ok.mpr (hbefore x hx)⟩

theorem Node.check_of_permitted {p : Predicate} (h : ∀ o ∈ Predicate.operators p, o ∉ refused) :
    (ofPredicate p).check refuser refused = .ok () := by
  obtain ⟨_, hok⟩ : ∃ a, (ofPredicate p).check refuser refused = .ok a := by
    rw [← fault?_eq_none, fault?_check, firstFault, List.findSome?_eq_none_iff]
    intro x hx
    obtain ⟨o, ho, rfl⟩ := List.mem_map.mp hx
    exact fault?_eq_none.mpr (permit_ok.mpr (h o ho))
  exact hok

end Check

namespace Sqlite

variable {l : Layout}

/-- The values of comparisons in a row, up to the first without a clause, and what that one is
turned down for. -/
def collect : List Comparison → List Value × Option Fault
  | [] => ([], none)
  | c :: rest =>
    match c.defect? with
    | some f => ([], some f)
    | none => (c.bindings ++ (collect rest).1, (collect rest).2)

theorem collect_append (cs rest : List Comparison) :
    collect (cs ++ rest) =
      match (collect cs).2 with
      | some f => ((collect cs).1, some f)
      | none => ((collect cs).1 ++ (collect rest).1, (collect rest).2) := by
  induction cs with
  | nil => rfl
  | cons c cs ih =>
    rw [List.cons_append, collect, collect, ih]
    cases c.defect? with
    | some f => rfl
    | none => cases (collect cs).2 <;> simp

theorem collect_of_defect {before after : List Comparison} {c : Comparison} {f : Fault}
    (hbefore : ∀ x ∈ before, x.defect? = none) (hc : c.defect? = some f) :
    collect (before ++ c :: after) = (before.flatMap Comparison.bindings, some f) := by
  induction before with
  | nil => simp [collect, hc]
  | cons x before ih =>
    obtain ⟨hx, hbefore⟩ := List.forall_mem_cons.mp hbefore
    simp [collect, hx, ih hbefore]

theorem collect_of_sound {cs : List Comparison} (h : ∀ c ∈ cs, c.defect? = none) :
    collect cs = (cs.flatMap Comparison.bindings, none) := by
  induction cs with
  | nil => rfl
  | cons c cs ih =>
    obtain ⟨hc, hcs⟩ := List.forall_mem_cons.mp h
    simp [collect, hc, ih hcs]

def left {α : Type} (bound : α → List Value) : Except Stuck α → List Value × Option Fault
  | .ok a => (bound a, none)
  | .error s => (s.collected, some s.fault)

theorem operatorClause_left (t : Term) (c : Comparison) :
    left Clause.bound ((operatorClause t c).mapError fun f => ⟨f, []⟩) = collect [c] := by
  obtain ⟨field, o, operands, folded⟩ := c
  cases o with
  | isIn => cases operands <;> simp [operatorClause, Except.mapError, left, collect,
      Comparison.defect?, Comparison.bindings, Clause.bound]
  | between =>
    rcases operands with _ | ⟨_, _ | ⟨_, _ | _⟩⟩ <;> simp [operatorClause, Except.mapError, left,
      collect, Comparison.defect?, Comparison.bindings, Clause.bound]
  | and | or => rfl
  | like | notLike | lt | lte | gt | gte => cases operands <;> rfl
  | eq | ne =>
    cases operands with
    | nil => rfl
    | cons v rest => cases v <;> rfl

theorem lowerAll_left {parts : List Predicate}
    (h : ∀ p ∈ parts, left Clause.bound (lower l (Node.ofPredicate p)) = collect p.atoms) :
    left (·.flatMap Clause.bound) (lowerAll l (parts.map Node.ofPredicate)) =
      collect (parts.flatMap Formula.atoms) := by
  induction parts with
  | nil => rfl
  | cons p parts ih =>
    have hp := h p List.mem_cons_self
    have hrest := ih fun q hq => h q (List.mem_cons_of_mem _ hq)
    rw [List.flatMap_cons, collect_append, ← hp, ← hrest, List.map_cons, lowerAll]
    cases lower l (Node.ofPredicate p) with
    | error s => rfl
    | ok clause => cases lowerAll l (parts.map Node.ofPredicate) <;> rfl

/-- What is left of a predicate is what is left of its comparisons in a row. -/
theorem lower_left (hl : l.Named) {p : Predicate}
    (hfields : ∀ c ∈ p.atoms, ∃ name, c.field = .text name) :
    left Clause.bound (lower l (Node.ofPredicate p)) = collect p.atoms := by
  induction p using Formula.inductionOn with
  | atom c =>
    obtain ⟨name, hname⟩ := hfields c (by simp [Formula.atoms])
    obtain ⟨ref, href⟩ := reference_text hl name
    have hclause : comparisonClause l c = operatorClause ⟨ref, c.foldsCase⟩ c := by
      rw [comparisonClause, hname, href]
      rfl
    rw [Formula.atoms, ← operatorClause_left ⟨ref, c.foldsCase⟩, Node.ofPredicate, Formula.map,
      lower, leafClause, hclause]
    cases operatorClause ⟨ref, c.foldsCase⟩ c <;> rfl
  | junction how parts ih =>
    have hparts := lowerAll_left fun p hp => ih p hp fun c hc =>
      hfields c (Formula.mem_atoms_junction.mpr ⟨p, hp, hc⟩)
    rw [Formula.atoms, Formula.atomsAll_eq, ← hparts, Node.ofPredicate_junction, lower]
    cases lowerAll l (parts.map Node.ofPredicate) with
    | error s => rfl
    | ok cs => rw [left, bound_junctionClause]; rfl

variable {b : Converter} {p : Predicate}

theorem convert_refused {o : Operator} {before after : List Operator}
    (hsplit : p.operators = before ++ o :: after) (hbefore : ∀ x ∈ before, x ∉ b.layout.refused)
    (ho : o ∈ b.layout.refused) :
    b.convert (Node.ofPredicate p) = (⟨b.layout, []⟩, .error (.operatorRefused o .sqlite)) := by
  have hsome : isNothing (Node.ofPredicate p) = false := by cases p <;> rfl
  have hcheck : (Node.ofPredicate p).check .sqlite b.layout.refused =
      .error (.operatorRefused o .sqlite) := Node.check_refused hsplit hbefore ho
  rw [Converter.convert, Sqlite.convert, hsome, if_neg Bool.false_ne_true, hcheck]

theorem convert_permitted (hl : b.layout.Named)
    (hfields : ∀ c ∈ p.atoms, ∃ name, c.field = .text name)
    (hpermitted : ∀ o ∈ p.operators, o ∉ b.layout.refused) :
    ∃ vs out, b.convert (Node.ofPredicate p) = (⟨b.layout, vs⟩, out) ∧
      (vs, fault? out) = collect p.atoms := by
  have hsome : isNothing (Node.ofPredicate p) = false := by cases p <;> rfl
  have hcheck : (Node.ofPredicate p).check .sqlite b.layout.refused = .ok () :=
    Node.check_of_permitted hpermitted
  rw [← lower_left hl hfields, Converter.convert, Sqlite.convert, hsome,
    if_neg Bool.false_ne_true, hcheck]
  cases hlower : lower b.layout (Node.ofPredicate p) with
  | error s => exact ⟨s.collected, .error s.fault, by simp, rfl⟩
  | ok clause => exact ⟨clause.bound, .ok clause, by simp, rfl⟩

theorem exists_first_defect {cs : List Comparison} (h : ∃ c ∈ cs, c.defect? ≠ none) :
    ∃ before c after f, cs = before ++ c :: after ∧ (∀ x ∈ before, x.defect? = none) ∧
      c.defect? = some f := by
  obtain ⟨c, hc, hdefect⟩ := h
  obtain ⟨f, hf⟩ := Option.isSome_iff_exists.mp
    (List.findSome?_isSome_iff.mpr ⟨c, hc, Option.isSome_iff_ne_none.mpr hdefect⟩)
  obtain ⟨before, c, after, hsplit, hc, hbefore⟩ := List.findSome?_eq_some_iff.mp hf
  exact ⟨before, c, after, f, hsplit, hbefore, hc⟩

/-- Where a conversion of comparisons of named fields stops, whatever their operators and operands.
The first operator that is refused stops it before anything is bound. If there is none, it fails
just when some comparison has a defect: for that of the first such comparison, with what the ones
before it bind. Otherwise it binds what each comparison does, in their order. -/
theorem conversion_stops (hl : b.layout.Named)
    (hfields : ∀ c ∈ p.atoms, ∃ name, c.field = .text name) :
    (∀ before o after, p.operators = before ++ o :: after →
      (∀ x ∈ before, x ∉ b.layout.refused) → o ∈ b.layout.refused →
      b.convert (Node.ofPredicate p) = (⟨b.layout, []⟩, .error (.operatorRefused o .sqlite))) ∧
    ((∀ o ∈ p.operators, o ∉ b.layout.refused) →
      ((∃ f, (b.convert (Node.ofPredicate p)).2 = .error f) ↔ ∃ c ∈ p.atoms, c.defect? ≠ none) ∧
      (∀ before c after f, p.atoms = before ++ c :: after → (∀ x ∈ before, x.defect? = none) →
        c.defect? = some f →
        b.convert (Node.ofPredicate p) =
          (⟨b.layout, before.flatMap Comparison.bindings⟩, .error f)) ∧
      ((∀ c ∈ p.atoms, c.defect? = none) → ∃ clause,
        b.convert (Node.ofPredicate p) =
          (⟨b.layout, p.atoms.flatMap Comparison.bindings⟩, .ok clause))) := by
  refine ⟨fun _ _ _ hsplit hbefore ho => convert_refused hsplit hbefore ho, fun hpermitted => ?_⟩
  obtain ⟨vs, out, hconvert, hleft⟩ := convert_permitted hl hfields hpermitted
  have hstopped : ∀ before c after f, p.atoms = before ++ c :: after →
      (∀ x ∈ before, x.defect? = none) → c.defect? = some f →
      b.convert (Node.ofPredicate p) =
        (⟨b.layout, before.flatMap Comparison.bindings⟩, .error f) := by
    intro before c after f hsplit hbefore hc
    rw [hsplit, collect_of_defect hbefore hc] at hleft
    obtain ⟨rfl, hout⟩ := Prod.mk.inj hleft
    rw [hconvert, fault?_eq_some.mp hout]
  have hsound : (∀ c ∈ p.atoms, c.defect? = none) → ∃ clause,
      b.convert (Node.ofPredicate p) =
        (⟨b.layout, p.atoms.flatMap Comparison.bindings⟩, .ok clause) := by
    intro h
    rw [collect_of_sound h] at hleft
    obtain ⟨rfl, hout⟩ := Prod.mk.inj hleft
    obtain ⟨clause, rfl⟩ := fault?_eq_none.mp hout
    exact ⟨clause, hconvert⟩
  refine ⟨⟨fun ⟨f, hf⟩ => ?_, fun hdefect => ?_⟩, hstopped, hsound⟩
  · by_contra hnone
    push Not at hnone
    obtain ⟨clause, hclause⟩ := hsound hnone
    rw [hclause] at hf
    cases hf
  · obtain ⟨before, c, after, f, hsplit, hbefore, hc⟩ := exists_first_defect hdefect
    exact ⟨f, by rw [hstopped before c after f hsplit hbefore hc]⟩

namespace Example

/-- A comparison with null, a membership, a range with one operand inside a junction of its own, and
a comparison by a connective. -/
def unsound : Predicate :=
  .junction .all [leaf "a" .ne [.null, .text "x"], leaf "born" .isIn [.int 1, .null],
    .junction .any [leaf "born" .between [.text "1980"]], leaf "a" .and []]

def sound : Predicate :=
  .junction .any [leaf "a" .ne [.null, .text "x"], leaf "b" .like [.text "%y", .text "z"],
    .junction .all [], leaf "born" .between [.int 1, .int 2]]

def withoutOr : Layout := { inObjects with refused := [.or] }

end Example

/-- What stops the same predicate first depends on what the layout refuses. -/
theorem conversion_stops_unsound :
    Example.inObjects.Named ∧ Example.withoutOr.Named ∧
    (∀ c ∈ Example.unsound.atoms, ∃ name, c.field = .text name) ∧
    Converter.convert ⟨Example.withoutOr, [.null]⟩ (Node.ofPredicate Example.unsound) =
      (⟨Example.withoutOr, []⟩, .error (.operatorRefused .or .sqlite)) ∧
    Converter.convert ⟨Example.inObjects, [.null]⟩ (Node.ofPredicate Example.unsound) =
      (⟨Example.inObjects, [.int 1, .null]⟩, .error .badValue) ∧
    ∃ clause, Converter.convert ⟨Example.inObjects, [.null]⟩ (Node.ofPredicate Example.sound) =
      (⟨Example.inObjects, [.text "%y", .int 1, .int 2]⟩, .ok clause) := by
  have hl : Example.inObjects.Named := ⟨⟨none, rfl⟩, fun _ => ⟨"o?", rfl⟩⟩
  have hwithout : Example.withoutOr.Named := ⟨⟨none, rfl⟩, fun _ => ⟨"o?", rfl⟩⟩
  have hunsound : ∀ c ∈ Example.unsound.atoms, ∃ name, c.field = .text name := by
    simp [Example.unsound, Example.leaf, Formula.atoms]
  have hsound : ∀ c ∈ Example.sound.atoms, ∃ name, c.field = .text name := by
    simp [Example.sound, Example.leaf, Formula.atoms]
  refine ⟨hl, hwithout, hunsound, ?_, ?_, ?_⟩
  · exact (@conversion_stops ⟨_, [.null]⟩ _ hwithout hunsound).1 [.and, .ne, .isIn] .or
      [.between, .and] rfl (by decide) (by decide)
  · have hpermitted := (@conversion_stops ⟨_, [.null]⟩ _ hl hunsound).2
      fun _ _ => List.not_mem_nil
    exact hpermitted.2.1
      [⟨.text "a", .ne, [.null, .text "x"], false⟩, ⟨.text "born", .isIn, [.int 1, .null], false⟩]
      ⟨.text "born", .between, [.text "1980"], false⟩ [⟨.text "a", .and, [], false⟩] .badValue rfl
      (by simp [Comparison.defect?]) rfl
  · have hpermitted := (@conversion_stops ⟨_, [.null]⟩ _ hl hsound).2
      fun _ _ => List.not_mem_nil
    exact hpermitted.2.2
      (by simp [Example.sound, Example.leaf, Formula.atoms, Comparison.defect?])

end Sqlite
end TableQuery
