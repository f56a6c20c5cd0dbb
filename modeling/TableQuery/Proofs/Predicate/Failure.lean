import TableQuery.Predicate.Compiler
import TableQuery.Proofs.Literal

/-!
# When compiling fails

Compiling asks the criteria of a request of their fields, by key, by criterion and by field, and the
first of these that fails is how it fails. So a request is compiled as a whole or not at all, and
what is asked of no field can do no harm.
-/
namespace TableQuery

open Outcome Value

namespace Comparison

theorem Takes.hasText {v : Value} {d : MatchMode.Demand} {taken : List Value} (h : Takes v d taken)
    (hv : HasText v) : ∀ w ∈ taken, HasText w := by
  cases h with
  | pattern _ _ _ h | single _ h => simpa using hv
  | bounds low high h => exact hasText_members h hv
  | members items h => exact hasText_members h hv

theorem Built.hasText {field v : Value} {k : Category} {m : MatchMode} {q : Comparison}
    (h : Built field k m v q) (hv : HasText v) : ∀ w ∈ q.operands, HasText w := by
  obtain ⟨taken, htaken, hoperands⟩ := h.operands
  intro w hw
  obtain ⟨u, hu, hcompares⟩ := exists_of_forall₂ hoperands.flip w hw
  cases k with
  | text =>
    obtain ⟨_, s, rfl⟩ := hcompares
    exact ⟨_, rfl⟩
  | ordered | opaqueKind =>
    obtain rfl : w = u := hcompares
    exact htaken.hasText hv w hu

theorem hasText_of_ofCriterion {r : Resolver} {field : Value} {c : Criterion} {q : Comparison}
    (h : ofCriterion r field c = .ok q) (hfield : HasText field) (hv : HasText c.value) :
    HasText q.toValue := by
  obtain ⟨k, hk, hbuilt⟩ := ofCriterion_ok h
  refine hasText_of_wellFormed (hbuilt.wellFormed hk) ?_ (hbuilt.hasText hv)
  rwa [hbuilt.field]

end Comparison

namespace Predicate

/-- Everything a request asks: each criterion of each key, of each of its fields. -/
def asksOf (r : Resolver) (searched : List Value) (request : Request) :
    List (Except Fault Comparison) :=
  request.criteria.flatMap fun e => asked r (targets request.globalField searched e.1) e.2

def succeeds (r : Resolver) (globalField : Value) (searched : List Value)
    (e : String × List Criterion) : Bool :=
  (firstFault (asked r (targets globalField searched e.1) e.2)).isNone

def asksNothing (globalField : Value) (searched : List Value) (e : String × List Criterion) :
    Bool :=
  (targets globalField searched e.1).isEmpty

variable {r : Resolver} {globalField : Value} {searched : List Value}

theorem mem_asksOf {request : Request} {x : Except Fault Comparison} :
    x ∈ asksOf r searched request ↔
      ∃ e ∈ request.criteria, ∃ d ∈ e.2, ∃ field ∈ targets request.globalField searched e.1,
        Comparison.ofCriterion r field d = x := by
  simp only [asksOf, asked, List.mem_flatMap, List.mem_map]

theorem fault?_rowOf (e : String × List Criterion) :
    fault? (rowOf r globalField searched e) =
      firstFault (asked r (targets globalField searched e.1) e.2) := by
  rw [rowOf, fault?_map]
  refine fault?_mapM fun c _ => ?_
  have hstep : ∀ field, fault? (Comparison.ofCriterion r field c) =
      firstFault [Comparison.ofCriterion r field c] :=
    fun field => (firstFault_singleton _).symm
  rw [comparisonsOn, fault?_mapM fun field _ => hstep field, ← List.map_eq_flatMap]

theorem isSkipped_eq (e : String × List Criterion) :
    (isGlobal globalField e.1 && searched.isEmpty) = asksNothing globalField searched e := by
  rw [Bool.eq_iff_iff, skipped_iff, asksNothing, List.isEmpty_iff]

theorem succeeds_of_asksNothing {e : String × List Criterion}
    (h : asksNothing globalField searched e = true) : succeeds r globalField searched e = true := by
  rw [succeeds, List.isEmpty_iff.mp h]
  simp [asked, firstFault]

theorem succeeds_eq (e : String × List Criterion) :
    succeeds r globalField searched e = (fault? (rowOf r globalField searched e)).isNone := by
  rw [succeeds, fault?_rowOf]

/-- The keys passed over are those that ask nothing, up to the first key that fails. -/
theorem passedOver_eq (entries : List (String × List Criterion)) :
    (ofFields r globalField searched entries).1 =
      ((entries.takeWhile (succeeds r globalField searched)).filter
        (asksNothing globalField searched)).map Prod.fst := by
  induction entries with
  | nil => rfl
  | cons e entries ih =>
    rw [ofFields, isSkipped_eq, List.takeWhile_cons]
    cases hskip : asksNothing globalField searched e with
    | true =>
      -- what asks nothing cannot fail, so the keys after it are still reached
      rw [succeeds_of_asksNothing hskip, if_pos rfl, if_pos rfl, List.filter_cons, hskip,
        if_pos rfl, List.map_cons, ← ih]
    | false =>
      rw [if_neg Bool.false_ne_true, ofField_eq_row, succeeds_eq]
      cases rowOf r globalField searched e with
      | error f => rfl
      | ok row =>
        rw [fault?, Option.isNone_none, if_pos rfl, List.filter_cons, hskip,
          if_neg Bool.false_ne_true, ← ih]
        rfl

theorem ofFields_without_skipped (entries : List (String × List Criterion)) :
    (ofFields r globalField searched
      (entries.filter fun e => !asksNothing globalField searched e)).2 =
        (ofFields r globalField searched entries).2 := by
  induction entries with
  | nil => rfl
  | cons e entries ih =>
    rw [List.filter_cons]
    cases hskip : asksNothing globalField searched e with
    | true =>
      rw [Bool.not_true, if_neg Bool.false_ne_true, ih, ofFields, isSkipped_eq, hskip, if_pos rfl]
    | false =>
      rw [Bool.not_false, if_pos rfl, ofFields, isSkipped_eq, hskip, if_neg Bool.false_ne_true,
        ofFields, isSkipped_eq, hskip, if_neg Bool.false_ne_true]
      cases ofField r globalField searched e with
      | error f => rfl
      | ok p =>
        simp only
        rw [ih]

theorem noted_rows {entries : List (String × List Criterion)} {rows : List Row}
    (hvalues : ∀ e ∈ entries, ∀ c ∈ e.2, HasText c.value) (hfields : ∀ v ∈ searched, HasText v)
    (h : entries.mapM (rowOf r globalField searched) = .ok rows) :
    noted (joinedRows rows) = .ok (joinedRows rows) := by
  cases hp : joinedRows rows with
  | none => rfl
  | some p =>
    have htext : HasText (Node.ofPredicate p).toValue := by
      refine Node.hasText_ofPredicate.mpr fun q hq => ?_
      have hleaf : q ∈ leaves (joinedRows rows) := by rwa [hp]
      obtain ⟨e, he, c, hc, field, hfield, hok⟩ := mem_rows h hleaf
      refine Comparison.hasText_of_ofCriterion hok ?_ (hvalues e he c hc)
      by_cases hg : isGlobal globalField e.1 = true
      · rw [targets_of_global hg] at hfield
        exact hfields field hfield
      · rw [targets_of_not_global (by simpa using hg), List.mem_singleton] at hfield
        subst hfield
        exact ⟨_, rfl⟩
    obtain ⟨s, hs⟩ := htext
    rw [noted, Node.literal, hs]
    rfl

variable {s : SearchSet} {request : Request}

theorem outcome_eq_joined
    (hvalues : ∀ e ∈ request.criteria, ∀ c ∈ e.2, HasText c.value)
    (hfields : ∀ v ∈ s.fields, HasText v) :
    (ofRequestWith r (.ok s) request).outcome =
      (request.criteria.mapM (rowOf r request.globalField s.fields)).map joinedRows := by
  rw [outcome_eq_rows]
  cases hrows : request.criteria.mapM (rowOf r request.globalField s.fields) with
  | error f => rfl
  | ok rows => exact noted_rows hvalues hfields hrows

theorem passedOver_ofRequestWith :
    (ofRequestWith r (.ok s) request).passedOver =
      (ofFields r request.globalField s.fields request.criteria).1 := by
  unfold ofRequestWith
  split
  · next hnone =>
    rw [List.isEmpty_iff.mp hnone]
    rfl
  · rfl

/-- Compiling fails as the first of what a request asks for fails. -/
theorem fault?_outcome (hvalues : ∀ e ∈ request.criteria, ∀ c ∈ e.2, HasText c.value)
    (hfields : ∀ v ∈ s.fields, HasText v) :
    fault? (ofRequestWith r (.ok s) request).outcome = firstFault (asksOf r s.fields request) := by
  rw [outcome_eq_joined hvalues hfields, fault?_map]
  exact fault?_mapM fun e _ => fault?_rowOf e

theorem leaves_of_outcome {p : Option Predicate}
    (h : (ofRequestWith r (.ok s) request).outcome = .ok p) :
    (leaves p).map .ok = asksOf r s.fields request := by
  rw [outcome_eq_rows] at h
  obtain ⟨rows, hrows, hnoted⟩ := bind_ok.mp h
  rw [← noted_ok hnoted, leaves_joinedRows]
  exact rows_asked hrows

end Predicate

open Predicate

/-- A compiler answers with what a request asks for as a whole, or fails as the first of it fails,
and is the same afterwards. A key that asks nothing is passed over when it is reached, and could as
well be left out. -/
theorem Compiler.compile_all_or_nothing (c : Compiler) {r : Resolver} {request : Request}
    {given : Value} {s : SearchSet} (hs : c.searchedBy given = .ok s)
    (hvalues : ∀ e ∈ request.criteria, ∀ d ∈ e.2, HasText d.value)
    (hfields : ∀ v ∈ s.fields, HasText v) :
    ∃ compiled, c.compile r request given = (c, compiled) ∧
      ((∃ f, compiled.outcome = .error f) ↔
        ∃ e ∈ request.criteria, ∃ d ∈ e.2, ∃ field ∈ targets request.globalField s.fields e.1,
          ∃ f, Comparison.ofCriterion r field d = .error f) ∧
      (∀ f, compiled.outcome = .error f ↔
        ∃ before after, asksOf r s.fields request = before ++ .error f :: after ∧
          ∀ x ∈ before, ∃ q, x = .ok q) ∧
      (∀ p, compiled.outcome = .ok p → (leaves p).map .ok = asksOf r s.fields request) ∧
      compiled.passedOver =
        ((request.criteria.takeWhile (succeeds r request.globalField s.fields)).filter
          (asksNothing request.globalField s.fields)).map Prod.fst ∧
      ((c.compile r { request with
        criteria := request.criteria.filter fun e => !asksNothing request.globalField s.fields e }
          given).2.outcome = compiled.outcome) := by
  have hcompile : ∀ q : Request, c.compile r q given = (c, ofRequestWith r (.ok s) q) := by
    intro q
    rw [Compiler.compile, hs]
  have hfault := fault?_outcome (r := r) hvalues hfields
  refine ⟨_, hcompile request, ?_, fun f => ?_, fun p hp => leaves_of_outcome hp, ?_, ?_⟩
  · simp only [← fault?_eq_some, hfault]
    rw [firstFault_isSome]
    constructor
    · rintro ⟨x, hx, f, rfl⟩
      obtain ⟨e, he, d, hd, field, hfield, hf⟩ := mem_asksOf.mp hx
      exact ⟨e, he, d, hd, field, hfield, f, fault?_eq_some.mpr hf⟩
    · rintro ⟨e, he, d, hd, field, hfield, f, hf⟩
      exact ⟨_, mem_asksOf.mpr ⟨e, he, d, hd, field, hfield, rfl⟩, f, fault?_eq_some.mp hf⟩
  · rw [← fault?_eq_some, hfault, firstFault_eq_some]
  · rw [passedOver_ofRequestWith, passedOver_eq]
  · rw [hcompile, outcome_eq_fields, outcome_eq_fields]
    simp only [ofFields_without_skipped]

namespace Example

def people : Resolver := .table [(.text "name", .text), (.text "born", .ordered)]

/-- A search of all fields, of which there are none; a field that is not known comes third, and one
that is known but cannot have such a pattern last. -/
def partlyKnown : Request :=
  { offset := 0
    pageSize := 0
    sortKeys := []
    criteria := [("all", [⟨.null, some .contains, none⟩]),
      ("name", [⟨.text "Ada", none, none⟩]),
      ("died", [⟨.text "1852", none, none⟩]),
      ("born", [⟨.text "18", some .contains, none⟩])]
    globalField := .text "all" }

end Example

theorem Compiler.compile_all_or_nothing_partlyKnown :
    ∃ compiled,
      Compiler.compile ⟨.empty⟩ Example.people Example.partlyKnown .null =
        (⟨.empty⟩, compiled) ∧
      compiled.outcome = .error (.unresolved (.text "died")) ∧
      compiled.passedOver = ["all"] := by
  have hvalues : ∀ e ∈ Example.partlyKnown.criteria, ∀ d ∈ e.2, HasText d.value := by
    simp only [Example.partlyKnown, List.forall_mem_cons, List.not_mem_nil, false_implies,
      implies_true, and_true]
    exact ⟨⟨_, rfl⟩, ⟨_, rfl⟩, ⟨_, rfl⟩, ⟨_, rfl⟩⟩
  have hfields : ∀ v ∈ SearchSet.empty.fields, HasText v := by simp [SearchSet.empty]
  have hs : Compiler.searchedBy ⟨.empty⟩ .null = .ok .empty := rfl
  obtain ⟨compiled, hcompiled, _, hfirst, _, hpassed, _⟩ :=
    Compiler.compile_all_or_nothing ⟨.empty⟩ (r := Example.people) hs hvalues hfields
  refine ⟨compiled, hcompiled, (hfirst _).mpr ⟨[.ok ⟨.text "name", .like, [.text "%ada%"], true⟩],
    [.error (.modeRefused (.text "born") .contains .ordered)], ?_, ?_⟩, ?_⟩
  · cbv
  · simp
  · rw [hpassed]
    cbv

end TableQuery
