import TableQuery.Proofs.Predicate.Criterion
import TableQuery.Proofs.Predicate.Rows

/-!
# The form of compiled predicates

Whatever a request asks, its predicate has at most three layers of junctions, none with a single
part, and each comparison has as many operands as its operator takes and suits the category of its
field. What reads a predicate later relies on this and does not check it.
-/
namespace TableQuery

namespace Formula

variable {α : Type}

/-- Every junction has two parts at least, and no more than `n` are nested. -/
inductive Layered : Nat → Formula α → Prop
  | atom (n a) : Layered n (.atom a)
  | junction {n} (how) {parts} (two : 2 ≤ parts.length) (h : ∀ f ∈ parts, Layered n f) :
    Layered (n + 1) (.junction how parts)

theorem Layered.succ {n : Nat} {f : Formula α} (h : Layered n f) : Layered (n + 1) f := by
  induction h with
  | atom n a => exact .atom (n + 1) a
  | junction how two _ ih => exact .junction how two ih

theorem layered_join? {n : Nat} {how : Connective} {fs : List (Formula α)} {f : Formula α}
    (hfs : ∀ g ∈ fs, Layered n g) (h : join? how fs = some f) : Layered (n + 1) f := by
  unfold join? at h
  split at h
  · cases h
  · next g =>
    obtain rfl := Option.some.inj h
    exact (hfs g List.mem_cons_self).succ
  · next hnil hone =>
    obtain rfl := Option.some.inj h
    refine .junction how ?_ hfs
    match fs with
    | [] => exact absurd rfl hnil
    | [g] => exact absurd rfl (hone g)
    | _ :: _ :: _ => simp

end Formula

namespace Comparison

theorem operands_of_operand {c : Comparison} {v : Value} (h : c.operand = .ok v) :
    ∃ vs, c.operands = v :: vs := by
  unfold operand at h
  split at h
  · cases h
  · next w vs hvs =>
    obtain rfl := Except.ok.inj h
    exact ⟨vs, hvs⟩

def asksNull (c : Comparison) : Bool :=
  match c.operator, c.operands with
  | .eq, .null :: _ => true
  | _, _ => false

theorem asksNull_eq_false {c : Comparison} (h : c.operator ≠ .eq) : c.asksNull = false := by
  unfold asksNull
  split
  · contradiction
  · rfl

theorem asksNull_of_ne_null {c : Comparison} {v : Value} {vs : List Value}
    (hv : c.operands = v :: vs) (h : v ≠ .null) : c.asksNull = false := by
  unfold asksNull
  split
  · next hnull => exact absurd (List.cons.inj (hv.symm.trans hnull)).1 h
  · rfl

/-- A comparison that can be used without a further check: with the operands its operator takes, on
a field whose category allows them. -/
structure WellFormed (r : Resolver) (c : Comparison) : Prop where
  compares : c.operator.isLogical = false
  pair : c.operator = .between → c.operands.length = 2
  single : c.operator ≠ .between → c.operator ≠ .isIn → c.operands.length = 1
  category : ∃ k, r.require c.field = .ok k ∧ (c.foldsCase = true ↔ k = .text) ∧
    (c.operator = .like ∨ c.operator = .notLike → k = .text) ∧
    (c.operator ∈ [.lt, .lte, .gt, .gte, .between] → k ≠ .opaqueKind)

variable {r : Resolver} {field v : Value} {k : Category} {m : MatchMode} {q : Comparison}

theorem Takes.length {taken : List Value} (h : Takes v m.demand taken) :
    (m = .between → taken.length = 2) ∧ (m ≠ .between → m ≠ .isIn → taken.length = 1) := by
  cases m <;> cases h <;> simp

theorem operator_eq_between : m.demand.operator = .between ↔ m = .between := by
  cases m <;> simp [MatchMode.demand, MatchMode.Demand.operator]

theorem operator_eq_isIn : m.demand.operator = .isIn ↔ m = .isIn := by
  cases m <;> simp [MatchMode.demand, MatchMode.Demand.operator]

theorem category_of_applies (h : m.appliesTo k = true) :
    (m.demand.operator = .like ∨ m.demand.operator = .notLike → k = .text) ∧
      (m.demand.operator ∈ [.lt, .lte, .gt, .gte, .between] → k ≠ .opaqueKind) := by
  cases k with
  | text => simp
  | ordered | opaqueKind =>
    cases m <;> simp_all [MatchMode.appliesTo, MatchMode.demand, MatchMode.Demand.operator]

theorem Built.wellFormed (hk : r.require field = .ok k) (h : Built field k m v q) :
    WellFormed r q := by
  obtain ⟨taken, htaken, hoperands⟩ := h.operands
  have hlength := htaken.length
  simp only [hoperands.length_eq, ne_eq, ← operator_eq_between, ← operator_eq_isIn,
    ← h.operator] at hlength
  have hcategory := category_of_applies h.applies
  rw [← h.operator] at hcategory
  refine ⟨?_, hlength.1, hlength.2, k, h.field ▸ hk, h.folds, hcategory⟩
  rw [h.operator]
  cases m <;> rfl

end Comparison

namespace Predicate

open Formula

variable {r : Resolver} {globalField : Value} {searched : List Value}

theorem layered_spread {qs : List Comparison} {p : Predicate} (h : spread qs = some p) :
    Layered 1 p := by
  refine layered_join? (fun g hg => ?_) h
  obtain ⟨q, _, rfl⟩ := List.mem_map.mp hg
  exact .atom 0 q

theorem layered_joinedRow {row : Row} {p : Predicate} (h : joinedRow row = some p) :
    Layered 2 p := by
  refine layered_join? (fun g hg => ?_) h
  obtain ⟨qs, _, hg⟩ := List.mem_flatMap.mp hg
  exact layered_spread (Option.mem_toList.mp hg)

/-- Searched fields, criteria and keys make one layer each. -/
theorem layered_joinedRows {rows : List Row} {p : Predicate} (h : joinedRows rows = some p) :
    Layered 3 p := by
  refine layered_join? (fun g hg => ?_) h
  obtain ⟨row, _, hg⟩ := List.mem_flatMap.mp hg
  exact layered_joinedRow (Option.mem_toList.mp hg)

theorem mem_distinct (given : List Value) : ∀ v ∈ distinct given, v ∈ given := by
  unfold distinct
  refine List.foldlRecOn (motive := fun kept => ∀ v ∈ kept, v ∈ given) given _ (by simp) ?_
  intro kept hkept w hw v hv
  split at hv
  · exact hkept v hv
  · rcases List.mem_append.mp hv with hv | hv
    · exact hkept v hv
    · rwa [List.mem_singleton.mp hv]

theorem fields_ofList {given : List Value} {s : SearchSet} (h : SearchSet.ofList given = .ok s) :
    s.fields = distinct given := by
  unfold SearchSet.ofList at h
  split at h
  · rw [← Except.ok.inj h]
  · cases h

theorem targets_text (hsearched : ∀ v ∈ searched, ∃ s, v = .text s) {key : String} :
    ∀ v ∈ targets globalField searched key, ∃ s, v = .text s := by
  unfold targets
  split
  · split
    · exact hsearched
    · simp
  · simp

variable {attributes : Except Fault SearchSet} {request : Request} {p : Predicate}

theorem layered_of_compiled (h : (ofRequestWith r attributes request).outcome = .ok (some p)) :
    Layered 3 p := by
  obtain ⟨s, rows, _, _, hjoined, _⟩ := compiled_ok h
  exact layered_joinedRows hjoined

theorem built_of_compiled (h : (ofRequestWith r attributes request).outcome = .ok (some p)) :
    ∀ c ∈ p.atoms, ∃ field k m v, r.require field = .ok k ∧ Comparison.Built field k m v c := by
  obtain ⟨s, rows, _, hrows, hjoined, _⟩ := compiled_ok h
  intro q hq
  have hleaf : q ∈ leaves (joinedRows rows) := by rwa [hjoined]
  obtain ⟨_, _, _, _, field, _, hok⟩ := mem_rows hrows hleaf
  obtain ⟨k, hk, hbuilt⟩ := Comparison.ofCriterion_ok hok
  exact ⟨field, k, _, _, hk, hbuilt⟩

theorem wellFormed_of_compiled (h : (ofRequestWith r attributes request).outcome = .ok (some p)) :
    ∀ c ∈ p.atoms, c.WellFormed r := by
  intro q hq
  obtain ⟨_, _, _, _, hk, hbuilt⟩ := built_of_compiled h q hq
  exact hbuilt.wellFormed hk

theorem texts_of_compiled (h : (ofRequestWith r attributes request).outcome = .ok (some p)) :
    ∀ c ∈ p.atoms, c.foldsCase = true → ∀ v ∈ c.operands, ∃ s, v = .text s := by
  intro q hq hfolds
  obtain ⟨_, _, _, _, _, hbuilt⟩ := built_of_compiled h q hq
  obtain rfl := hbuilt.folds.mp hfolds
  exact hbuilt.texts

theorem field_of_compiled
    (hsearched : ∀ s, attributes = .ok s → ∀ v ∈ s.fields, ∃ t, v = .text t)
    (h : (ofRequestWith r attributes request).outcome = .ok (some p)) :
    ∀ c ∈ p.atoms, ∃ name, c.field = .text name := by
  obtain ⟨s, rows, hs, hrows, hjoined, _⟩ := compiled_ok h
  intro q hq
  have hleaf : q ∈ leaves (joinedRows rows) := by rwa [hjoined]
  obtain ⟨_, _, _, _, field, hfield, hok⟩ := mem_rows hrows hleaf
  obtain ⟨k, hk, hbuilt⟩ := Comparison.ofCriterion_ok hok
  rw [hbuilt.field]
  exact targets_text (hsearched s hs) field hfield

end Predicate
end TableQuery
