import TableQuery.Proofs.Predicate.Failure

/-!
# Bounds of compiled ranges

A bound should be a single value. On a text field every bound is a text, whatever was asked. On an
ordered field a one-sided range is asked with its value as it is, which is neither missing nor a
sequence but may be a map, and the two bounds of a pair are not looked at. So the bounds of a
predicate are single exactly when those that the criteria give to ordered fields are.
-/
namespace TableQuery

namespace Value

/-- Whether a value can bound a range: it is there, and not made up of others. -/
def isSingle : Value → Bool
  | null | list _ | tuple _ | set _ | frozenset _ | map _ => false
  | _ => true

def bounds (v : Value) : List Value := v.members?.getD [v]

end Value

def Operator.bounding : List Operator := [.lt, .lte, .gt, .gte, .between]

namespace Comparison

variable {r : Resolver} {field v : Value} {k : Category} {m : MatchMode} {c : Criterion}
  {q : Comparison}

theorem Takes.eq_bounds {taken : List Value} (h : Takes v m.demand taken) : taken = v.bounds := by
  cases m <;> cases h <;> rename_i hmembers <;> rw [Value.bounds, hmembers] <;> rfl

theorem ne_null_of_onPlain {o : Operator} (hm : m.demand = .single o) (hnull : m.takesNull = false)
    (h : onPlain field k m v = .ok q) : v ≠ .null := by
  rintro rfl
  rw [onPlain, hm] at h
  simp only [Value.isSequence, Bool.false_eq_true, if_false, hnull] at h
  exact Outcome.raise_ne_ok h

theorem onPlain_of_ofCriterion (hk : r.require field = .ok k) (hne : k ≠ .text)
    (h : ofCriterion r field c = .ok q) :
    onPlain field k (c.mode.getD k.defaultMode) c.value = .ok q := by
  rw [ofCriterion, hk] at h
  change (if _ then _ else _) = _ at h
  split at h
  · cases k with
    | text => exact absurd rfl hne
    | ordered | opaqueKind => exact h
  · exact absurd h Outcome.raise_ne_ok

theorem demand_of_bounding (hop : m.demand.operator ∈ Operator.bounding)
    (hone : m.demand.operator ≠ .between) : ∃ o, m.demand = .single o ∧ m.takesNull = false := by
  cases m <;> first
    | exact ⟨_, rfl, rfl⟩
    | exact absurd rfl hone
    | exact absurd hop (by decide)

structure Bounded (k : Category) (v : Value) (q : Comparison) : Prop where
  compares : k ≠ .opaqueKind
  text : k = .text → ∀ w ∈ q.operands, ∃ s, w = .text s
  ordered : k = .ordered → q.operands = v.bounds
  oneSided : q.operator ≠ .between → ∀ w ∈ q.operands, w ≠ .null ∧ w.members? = none

theorem bounded_of_ofCriterion (hk : r.require field = .ok k)
    (h : ofCriterion r field c = .ok q) (hop : q.operator ∈ Operator.bounding) :
    Bounded k c.value q := by
  obtain ⟨k', hk', hbuilt⟩ := ofCriterion_ok h
  obtain rfl := Except.ok.inj (hk.symm.trans hk')
  obtain ⟨taken, htaken, hoperands⟩ := hbuilt.operands
  have hsuits := category_of_applies hbuilt.applies
  rw [← hbuilt.operator] at hsuits
  have htext : k = .text → ∀ w ∈ q.operands, ∃ s, w = .text s := by
    rintro rfl
    exact hbuilt.texts
  have hordered : k = .ordered → q.operands = c.value.bounds := by
    rintro rfl
    rw [← htaken.eq_bounds]
    exact (List.forall₂_eq_eq_eq ▸ hoperands.imp fun _ _ he => he.symm : taken = q.operands).symm
  refine ⟨hsuits.2 hop, htext, hordered, fun hone w hw => ?_⟩
  cases k with
  | text =>
    obtain ⟨s, rfl⟩ := htext rfl w hw
    exact ⟨by simp, rfl⟩
  | ordered =>
    rw [hbuilt.operator] at hop hone
    obtain ⟨o, hdemand, hnull⟩ := demand_of_bounding hop hone
    have hpresent := ne_null_of_onPlain hdemand hnull
      (onPlain_of_ofCriterion hk (by decide) h)
    rw [hdemand] at htaken
    cases htaken with
    | single _ hmembers =>
      rw [hordered rfl, Value.bounds, hmembers] at hw
      obtain rfl : w = c.value := by simpa using hw
      exact ⟨hpresent, hmembers⟩
  | opaqueKind => exact absurd rfl (hsuits.2 (hbuilt.operator ▸ hop))

end Comparison

namespace Predicate

open Comparison

variable {r : Resolver} {s : SearchSet} {request : Request} {p : Option Predicate}

theorem mem_leaves_of_outcome (h : (ofRequestWith r (.ok s) request).outcome = .ok p)
    {q : Comparison} :
    q ∈ leaves p ↔ ∃ e ∈ request.criteria, ∃ c ∈ e.2,
      ∃ field ∈ targets request.globalField s.fields e.1, ofCriterion r field c = .ok q := by
  rw [← mem_asksOf, ← leaves_of_outcome h, List.mem_map]
  exact ⟨fun hq => ⟨q, hq, rfl⟩, fun ⟨q', hq', heq⟩ => Except.ok.inj heq ▸ hq'⟩

theorem asked_of_outcome (h : (ofRequestWith r (.ok s) request).outcome = .ok p)
    {e : String × List Criterion} (he : e ∈ request.criteria) {c : Criterion} (hc : c ∈ e.2)
    {field : Value} (hfield : field ∈ targets request.globalField s.fields e.1) :
    ∃ q ∈ leaves p, ofCriterion r field c = .ok q := by
  have hmem : ofCriterion r field c ∈ asksOf r s.fields request :=
    mem_asksOf.mpr ⟨e, he, c, hc, field, hfield, rfl⟩
  rw [← leaves_of_outcome h] at hmem
  obtain ⟨q, hq, heq⟩ := List.mem_map.mp hmem
  exact ⟨q, hq, heq.symm⟩

/-- The bounds of ranges over text are single, and those of one-sided ranges are there and are no
sequences. All bounds are single exactly when the ones that criteria give to ordered fields are. -/
theorem bounds_single_iff (h : (ofRequestWith r (.ok s) request).outcome = .ok p) :
    (∀ q ∈ leaves p, q.operator ∈ Operator.bounding →
      (q.foldsCase = true → ∀ v ∈ q.operands, v.isSingle = true) ∧
      (q.operator ≠ .between → ∀ v ∈ q.operands, v ≠ .null ∧ v.members? = none)) ∧
    ((∀ q ∈ leaves p, q.operator ∈ Operator.bounding → ∀ v ∈ q.operands, v.isSingle = true) ↔
      ∀ e ∈ request.criteria, ∀ c ∈ e.2,
        ∀ field ∈ targets request.globalField s.fields e.1, r.require field = .ok .ordered →
          (c.mode.getD .equals).demand.operator ∈ Operator.bounding →
            ∀ v ∈ c.value.bounds, v.isSingle = true) := by
  refine ⟨fun q hq hop => ?_, fun hsingle e he c hc field hfield hordered hmode => ?_,
    fun hsingle q hq hop => ?_⟩
  · obtain ⟨e, he, c, hc, field, hfield, hq⟩ := (mem_leaves_of_outcome h).mp hq
    obtain ⟨k, hk, hbuilt⟩ := ofCriterion_ok hq
    have hbounded := bounded_of_ofCriterion hk hq hop
    refine ⟨fun hfolds v hv => ?_, hbounded.oneSided⟩
    obtain ⟨t, rfl⟩ := hbounded.text (hbuilt.folds.mp hfolds) v hv
    rfl
  · obtain ⟨q, hq, hbuilds⟩ := asked_of_outcome h he hc hfield
    obtain ⟨k, hk, hbuilt⟩ := ofCriterion_ok hbuilds
    obtain rfl := Except.ok.inj (hordered.symm.trans hk)
    have hop : q.operator ∈ Operator.bounding := hbuilt.operator ▸ hmode
    rw [← (bounded_of_ofCriterion hk hbuilds hop).ordered rfl]
    exact hsingle q hq hop
  · obtain ⟨e, he, c, hc, field, hfield, hq⟩ := (mem_leaves_of_outcome h).mp hq
    obtain ⟨k, hk, hbuilt⟩ := ofCriterion_ok hq
    have hbounded := bounded_of_ofCriterion hk hq hop
    cases k with
    | text =>
      intro v hv
      obtain ⟨t, rfl⟩ := hbounded.text rfl v hv
      rfl
    | ordered =>
      rw [hbounded.ordered rfl]
      exact hsingle e he c hc field hfield hk (hbuilt.operator ▸ hop)
    | opaqueKind => exact absurd rfl hbounded.compares

namespace Example

def openEnded : Request :=
  { offset := 0
    pageSize := 0
    sortKeys := []
    criteria := [("born", [⟨.tuple [.null, .text "1852"], some .between, none⟩]),
      ("name", [⟨.text "Ada", some .lt, none⟩])]
    globalField := .null }

def openRange : Comparison := ⟨.text "born", .between, [.null, .text "1852"], false⟩

def openPredicate : Predicate :=
  .junction .all [.atom openRange, .atom ⟨.text "name", .lt, [.text "ada"], true⟩]

end Example

/-- A pair may leave out a bound, and so does the range that is compiled from it. -/
theorem bounds_single_iff_open :
    (ofRequestWith TableQuery.Example.people (.ok .empty) Example.openEnded).outcome =
        .ok (some Example.openPredicate) ∧
    ¬ (∀ q ∈ leaves (some Example.openPredicate), q.operator ∈ Operator.bounding →
      ∀ v ∈ q.operands, v.isSingle = true) ∧
    ¬ (∀ e ∈ Example.openEnded.criteria, ∀ c ∈ e.2,
        ∀ field ∈ targets Example.openEnded.globalField SearchSet.empty.fields e.1,
          TableQuery.Example.people.require field = .ok .ordered →
            (c.mode.getD .equals).demand.operator ∈ Operator.bounding →
              ∀ v ∈ c.value.bounds, v.isSingle = true) := by
  have h : (ofRequestWith TableQuery.Example.people (.ok .empty) Example.openEnded).outcome =
      .ok (some Example.openPredicate) := by cbv
  have hnot : ¬ ∀ q ∈ leaves (some Example.openPredicate), q.operator ∈ Operator.bounding →
      ∀ v ∈ q.operands, v.isSingle = true := by
    intro hsingle
    have hmem : Example.openRange ∈ leaves (some Example.openPredicate) := by
      simp [leaves, Example.openPredicate, Formula.atoms]
    have hnull : Value.isSingle .null = true :=
      hsingle Example.openRange hmem (by decide) .null (by simp [Example.openRange])
    cases hnull
  exact ⟨h, hnot, fun hsingle => hnot ((bounds_single_iff h).2.mpr hsingle)⟩

end Predicate
end TableQuery
