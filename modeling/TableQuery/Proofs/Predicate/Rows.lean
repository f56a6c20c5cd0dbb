import TableQuery.Proofs.Predicate.Meaning

/-!
# Compiling by rows

Before anything is joined, a request is a row of comparisons for each of its keys, by criterion and
by field. Compiling makes the rows, which is all that can fail, and joins them. A key whose criteria
are asked of no field has a row without comparisons, and nothing is left of it in the end.
-/
namespace TableQuery

namespace Predicate

/-- The connective of a key and its comparisons, one list for each criterion. -/
abbrev Row := Connective × List (List Comparison)

def comparisonsOn (r : Resolver) (fields : List Value) (c : Criterion) :
    Except Fault (List Comparison) :=
  fields.mapM fun field => Comparison.ofCriterion r field c

def rowOf (r : Resolver) (globalField : Value) (searched : List Value)
    (e : String × List Criterion) : Except Fault Row :=
  (e.2.mapM (comparisonsOn r (targets globalField searched e.1))).map
    (Criterion.connectiveOf e.2, ·)

/-- The comparisons of one criterion, at least one of which has to be true. -/
def spread (qs : List Comparison) : Option Predicate := Formula.join? .any (qs.map .atom)

def joinedRow (row : Row) : Option Predicate :=
  Formula.join? row.1 (row.2.flatMap fun qs => (spread qs).toList)

def joinedRows (rows : List Row) : Option Predicate :=
  Formula.join? .all (rows.flatMap fun row => (joinedRow row).toList)

variable {r : Resolver} {globalField : Value} {searched : List Value}
  {e : String × List Criterion}

theorem ofTargets_eq (r : Resolver) (fields : List Value) (c : Criterion) :
    ofTargets r fields c = (comparisonsOn r fields c).map (List.map .atom) :=
  Outcome.mapM_map _ _ fields

theorem ofTargets_single (r : Resolver) (field : Value) (c : Criterion) :
    ofTargets r [field] c = (comparisonsOn r [field] c).map fun qs => (spread qs).toList := by
  rw [ofTargets_eq, comparisonsOn, List.mapM_cons]
  cases Comparison.ofCriterion r field c <;> rfl

theorem ofGlobal_eq (r : Resolver) (fields : List Value) (c : Criterion) :
    ofGlobal r fields c = (comparisonsOn r fields c).map fun qs => (spread qs).toList := by
  rw [ofGlobal, ofTargets_eq]
  cases comparisonsOn r fields c <;> rfl

theorem ofField_eq_row : ofField r globalField searched e =
    (rowOf r globalField searched e).map joinedRow := by
  unfold ofField rowOf
  cases hg : isGlobal globalField e.1 with
  | true =>
    have hstep : ofGlobal r searched = fun c =>
        (comparisonsOn r searched c).map fun qs => (spread qs).toList :=
      funext fun c => ofGlobal_eq r searched c
    rw [if_pos rfl, targets_of_global hg, hstep, Outcome.mapM_map]
    cases e.2.mapM (comparisonsOn r searched) <;> rfl
  | false =>
    have hstep : ofTargets r [.text e.1] = fun c =>
        (comparisonsOn r [.text e.1] c).map fun qs => (spread qs).toList :=
      funext fun c => ofTargets_single r (.text e.1) c
    rw [if_neg Bool.false_ne_true, targets_of_not_global hg, hstep, Outcome.mapM_map]
    cases e.2.mapM (comparisonsOn r [.text e.1]) <;> rfl

theorem skipped_iff : (isGlobal globalField e.1 && searched.isEmpty) = true ↔
    targets globalField searched e.1 = [] := by
  cases hg : isGlobal globalField e.1 with
  | true => simp [targets_of_global hg]
  | false => simp [targets_of_not_global hg]

theorem rowOf_skipped (h : targets globalField searched e.1 = []) :
    rowOf r globalField searched e =
      .ok (Criterion.connectiveOf e.2, List.replicate e.2.length []) := by
  have hnone : e.2.mapM (comparisonsOn r []) = .ok (List.replicate e.2.length []) := by
    rw [← List.map_const, Outcome.mapM_ok, List.forall₂_map_right_iff, List.forall₂_same]
    exact fun _ _ => rfl
  rw [rowOf, h, hnone]
  rfl

theorem joinedRow_skipped (how : Connective) (n : Nat) :
    joinedRow (how, List.replicate n []) = none := by
  rw [joinedRow, Formula.join?_eq_none, List.flatMap_eq_nil_iff]
  intro qs hqs
  rw [List.eq_of_mem_replicate hqs]
  rfl

theorem ofFields_eq_rows (entries : List (String × List Criterion)) :
    (ofFields r globalField searched entries).2 =
      (entries.mapM (rowOf r globalField searched)).map
        (List.flatMap fun row => (joinedRow row).toList) := by
  induction entries with
  | nil => rfl
  | cons e entries ih =>
    rw [ofFields, List.mapM_cons]
    split
    · next hskip =>
      have hrow := rowOf_skipped (r := r) (skipped_iff.mp hskip)
      have hjoined := joinedRow_skipped (Criterion.connectiveOf e.2) e.2.length
      rw [ih, hrow]
      cases entries.mapM (rowOf r globalField searched) with
      | error f => rfl
      | ok rows => simp [bind, Except.bind, Except.map, pure, Except.pure, hjoined]
    · rw [ofField_eq_row]
      cases rowOf r globalField searched e with
      | error f => rfl
      | ok row =>
        simp only [Except.map] at ih ⊢
        rw [ih]
        cases entries.mapM (rowOf r globalField searched) <;> rfl

theorem outcome_eq_fields (s : SearchSet) (request : Request) :
    (ofRequestWith r (.ok s) request).outcome =
      (ofFields r request.globalField s.fields request.criteria).2.bind
        fun ps => noted (Formula.join? .all ps) := by
  unfold ofRequestWith
  split
  · next hnone =>
    rw [List.isEmpty_iff.mp hnone]
    rfl
  · rfl

/-- Compiling makes the rows of a request, joins them and notes the result. -/
theorem outcome_eq_rows (s : SearchSet) (request : Request) :
    (ofRequestWith r (.ok s) request).outcome =
      (request.criteria.mapM (rowOf r request.globalField s.fields)).bind
        fun rows => noted (joinedRows rows) := by
  rw [outcome_eq_fields, ofFields_eq_rows]
  cases request.criteria.mapM (rowOf r request.globalField s.fields) <;> rfl

theorem rowOf_asked {row : Row} (h : rowOf r globalField searched e = .ok row) :
    row.2.flatten.map .ok = asked r (targets globalField searched e.1) e.2 := by
  obtain ⟨qss, hqss, rfl⟩ := Outcome.map_ok.mp h
  rw [List.flatten_eq_flatMap]
  refine Outcome.flatMap_of_mapM (fun c qs hqs => ?_) hqss
  have hfields := (Outcome.mapM_ok.mp hqs).imp fun _ _ hq => hq.symm
  exact Outcome.map_eq_of_forall₂ hfields.flip

theorem rows_asked {entries : List (String × List Criterion)} {rows : List Row}
    (h : entries.mapM (rowOf r globalField searched) = .ok rows) :
    (rows.flatMap fun row => row.2.flatten).map .ok =
      entries.flatMap fun e => asked r (targets globalField searched e.1) e.2 :=
  Outcome.flatMap_of_mapM (fun _ _ => rowOf_asked) h

theorem flatMap_toList {α : Type} (f : α → Option Predicate) (as : List α) :
    (as.flatMap fun a => (f a).toList).flatMap Formula.atoms =
      as.flatMap fun a => leaves (f a) := by
  rw [List.flatMap_assoc]
  congr 1
  funext a
  cases f a <;> simp [leaves]

theorem leaves_spread (qs : List Comparison) : leaves (spread qs) = qs := by
  rw [spread, leaves_join]
  simp [List.flatMap_map, Formula.atoms]

theorem leaves_joinedRows (rows : List Row) :
    leaves (joinedRows rows) = rows.flatMap fun row => row.2.flatten := by
  have hrow : ∀ row : Row, leaves (joinedRow row) = row.2.flatten := by
    intro row
    rw [joinedRow, leaves_join, flatMap_toList, List.flatten_eq_flatMap]
    simp only [leaves_spread]
    rfl
  rw [joinedRows, leaves_join, flatMap_toList]
  simp only [hrow]

theorem compiled_ok {attributes : Except Fault SearchSet} {request : Request} {p : Predicate}
    (h : (ofRequestWith r attributes request).outcome = .ok (some p)) :
    ∃ s rows, attributes = .ok s ∧
      request.criteria.mapM (rowOf r request.globalField s.fields) = .ok rows ∧
      joinedRows rows = some p ∧ ∃ shown, (Node.ofPredicate p).literal = .ok shown := by
  cases attributes with
  | error f =>
    unfold ofRequestWith at h
    split at h <;> cases h
  | ok s =>
    rw [outcome_eq_rows] at h
    obtain ⟨rows, hrows, hnoted⟩ := Outcome.bind_ok.mp h
    have hjoined := noted_ok hnoted
    rw [hjoined] at hnoted
    obtain ⟨shown, hshown, _⟩ := Outcome.map_ok.mp hnoted
    exact ⟨s, rows, rfl, hrows, hjoined, shown, hshown⟩

theorem mem_rows {entries : List (String × List Criterion)} {rows : List Row}
    (h : entries.mapM (rowOf r globalField searched) = .ok rows) {q : Comparison}
    (hq : q ∈ leaves (joinedRows rows)) :
    ∃ e ∈ entries, ∃ c ∈ e.2, ∃ field ∈ targets globalField searched e.1,
      Comparison.ofCriterion r field c = .ok q := by
  rw [leaves_joinedRows] at hq
  have hmem : (.ok q : Except Fault Comparison) ∈
      (rows.flatMap fun row => row.2.flatten).map .ok := List.mem_map_of_mem hq
  rw [rows_asked h] at hmem
  obtain ⟨e, he, hmem⟩ := List.mem_flatMap.mp hmem
  obtain ⟨c, hc, hmem⟩ := List.mem_flatMap.mp hmem
  obtain ⟨field, hfield, hok⟩ := List.mem_map.mp hmem
  exact ⟨e, he, c, hc, field, hfield, hok⟩

end Predicate
end TableQuery
