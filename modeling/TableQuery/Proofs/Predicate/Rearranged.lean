import TableQuery.Predicate.Check
import TableQuery.Proofs.Literal
import TableQuery.Proofs.Request.Source

/-!
# Predicates in another order

The keys of a request come in some order, and so do the fields that a global search looks at. In
another order they compile to the same predicate but for the order in which the parts of its
junctions stand, so that it is true of the same things and asks the same. The criteria under one
key stay in their order, since the first connective among them counts.
-/
namespace TableQuery

namespace Formula

variable {α : Type}

/-- Formulas that differ in the order of the parts of their junctions, at any depth. -/
inductive Rearranged : Formula α → Formula α → Prop
  | atom (a) : Rearranged (.atom a) (.atom a)
  | junction (how) {fs gs hs} (order : fs.Perm gs) (parts : List.Forall₂ Rearranged gs hs) :
    Rearranged (.junction how fs) (.junction how hs)

variable {how : Connective} {f g : Formula α} {fs gs hs : List (Formula α)}

theorem Rearranged.refl (f : Formula α) : Rearranged f f := by
  induction f using inductionOn with
  | atom a => exact .atom a
  | junction how parts ih => exact .junction how (.refl parts) (List.forall₂_same.mpr ih)

theorem forall₂_of_parts {motive : Formula α → Formula α → Prop}
    (ih : ∀ f ∈ fs, ∀ g, Rearranged f g → motive f g) (order : fs.Perm gs)
    (parts : List.Forall₂ Rearranged gs hs) : List.Forall₂ motive gs hs := by
  apply Outcome.forall₂_of_mem parts
  intro g hg
  exact ih g (order.mem_iff.mpr hg)

theorem truth_perm {ps qs : List Bool} (h : ps.Perm qs) : how.truth ps = how.truth qs := by
  cases how with
  | all => exact h.all_eq
  | any => exact h.any_eq

theorem Rearranged.holds_eq (h : Rearranged f g) (v : α → Bool) : holds v f = holds v g := by
  induction f using inductionOn generalizing g with
  | atom a =>
    cases h
    rfl
  | junction how fs ih =>
    cases h with
    | junction _ order parts =>
      have hvalues := Outcome.map_eq_of_forall₂ (forall₂_of_parts ih order parts)
      rw [holds_junction, holds_junction, ← hvalues]
      exact truth_perm (order.map _)

theorem Rearranged.atoms_perm (h : Rearranged f g) : f.atoms.Perm g.atoms := by
  induction f using inductionOn generalizing g with
  | atom a =>
    cases h
    exact .refl _
  | junction how fs ih =>
    cases h with
    | @junction _ _ gs hs order parts =>
      have hparts := forall₂_of_parts (fun f hf g h => ih f hf h) order parts
      rw [atoms, atoms, atomsAll_eq, atomsAll_eq]
      exact Outcome.flatMap_perm order hparts

theorem join?_rearranged (order : fs.Perm gs) (parts : List.Forall₂ Rearranged gs hs) :
    Option.Rel Rearranged (join? how fs) (join? how hs) := by
  have hlength : fs.length = hs.length := order.length_eq.trans parts.length_eq
  match fs, hs with
  | [], [] => exact .none
  | [f], [h] =>
    obtain rfl := List.singleton_perm.mp order
    cases parts with
    | cons hpart _ => exact .some hpart
  | _ :: _ :: _, _ :: _ :: _ => exact .some (.junction how order parts)

end Formula

theorem Node.check_rearranged {refuser : Refuser} {refused : List Operator} {f g : Predicate}
    (h : Formula.Rearranged f g) (hf : (Node.ofPredicate f).check refuser refused = .ok ()) :
    (Node.ofPredicate g).check refuser refused = .ok () := by
  induction f using Formula.inductionOn generalizing g with
  | atom c =>
    cases h
    exact hf
  | junction how fs ih =>
    cases h with
    | @junction _ _ gs hs order parts =>
      rw [ofPredicate_junction, check, Formula.visit_junction, List.forall_mem_map] at hf ⊢
      constructor
      · exact hf.1
      · intro g hg
        obtain ⟨f, hmem, hrearranged⟩ := Outcome.exists_of_forall₂ parts.flip g hg
        have hf' : f ∈ fs := order.mem_iff.mpr hmem
        exact ih f hf' hrearranged (hf.2 f hf')

namespace Predicate

open Formula

variable {r : Resolver} {globalField : Value}

structure Row.Rearranged (row row' : Row) : Prop where
  connective : row.1 = row'.1
  comparisons : List.Forall₂ List.Perm row.2 row'.2

theorem spread_rearranged {qs qs' : List Comparison} (h : qs.Perm qs') :
    Option.Rel Formula.Rearranged (spread qs) (spread qs') :=
  join?_rearranged (h.map _) (List.forall₂_same.mpr fun f _ => .refl f)

theorem toList_rearranged {p q : Option Predicate} (h : Option.Rel Formula.Rearranged p q) :
    List.Forall₂ Formula.Rearranged p.toList q.toList := by
  cases h with
  | none => exact .nil
  | some h => exact .cons h .nil

theorem joinedRow_rearranged {row row' : Row} (h : row.Rearranged row') :
    Option.Rel Formula.Rearranged (joinedRow row) (joinedRow row') := by
  have hparts := List.rel_flatMap h.comparisons fun qs qs' hqs =>
    toList_rearranged (spread_rearranged hqs)
  rw [joinedRow, joinedRow, h.connective]
  exact join?_rearranged (.refl _) hparts

theorem joinedRows_rearranged {rows mid rows' : List Row} (order : rows.Perm mid)
    (h : List.Forall₂ Row.Rearranged mid rows') :
    Option.Rel Formula.Rearranged (joinedRows rows) (joinedRows rows') := by
  have hparts := List.rel_flatMap h fun row row' hrow =>
    toList_rearranged (joinedRow_rearranged hrow)
  exact join?_rearranged (order.flatMap_right _) hparts

section Searched

variable {searched searched' : List Value} (horder : searched.Perm searched')
include horder

theorem targets_perm (key : String) :
    (targets globalField searched key).Perm (targets globalField searched' key) := by
  unfold targets
  split
  · split
    · exact horder
    · exact .refl _
  · exact .refl _

theorem rowOf_rearranged {e : String × List Criterion} {row : Row}
    (h : rowOf r globalField searched e = .ok row) :
    ∃ row', rowOf r globalField searched' e = .ok row' ∧ row.Rearranged row' := by
  obtain ⟨qss, hqss, rfl⟩ := Outcome.map_ok.mp h
  have hstep : ∀ c qs, comparisonsOn r (targets globalField searched e.1) c = .ok qs →
      ∃ qs', qs.Perm qs' ∧ comparisonsOn r (targets globalField searched' e.1) c = .ok qs' := by
    intro c qs hqs
    obtain ⟨qs', hqs', hperm⟩ := Outcome.mapM_perm (targets_perm horder e.1) hqs
    exact ⟨qs', hperm, hqs'⟩
  obtain ⟨qss', hperm, hqss'⟩ := Outcome.mapM_of_step hstep hqss
  refine ⟨(Criterion.connectiveOf e.2, qss'), ?_, rfl, hperm⟩
  rw [rowOf, hqss']
  rfl

/-- The keys and the searched fields may come in another order: the rows are the same but for
theirs. -/
theorem rows_rearranged {entries entries' : List (String × List Criterion)} {rows : List Row}
    (hentries : entries.Perm entries')
    (h : entries.mapM (rowOf r globalField searched) = .ok rows) :
    ∃ mid rows', entries'.mapM (rowOf r globalField searched') = .ok rows' ∧
      rows.Perm mid ∧ List.Forall₂ Row.Rearranged mid rows' := by
  obtain ⟨mid, hmid, hperm⟩ := Outcome.mapM_perm hentries h
  have hstep : ∀ e row, rowOf r globalField searched e = .ok row →
      ∃ row', row.Rearranged row' ∧ rowOf r globalField searched' e = .ok row' := by
    intro e row hrow
    obtain ⟨row', hrow', hsame⟩ := rowOf_rearranged horder hrow
    exact ⟨row', hsame, hrow'⟩
  obtain ⟨rows', hrows, hrows'⟩ := Outcome.mapM_of_step hstep hmid
  exact ⟨mid, rows', hrows', hperm, hrows⟩

end Searched

theorem noted_rearranged {p q : Option Predicate} (h : Option.Rel Formula.Rearranged p q)
    (hp : noted p = .ok p) : noted q = .ok q := by
  cases h with
  | none => rfl
  | @some f g h =>
    obtain ⟨shown, hshown, _⟩ := Outcome.map_ok.mp hp
    have hatoms := Node.hasText_ofPredicate.mp ⟨shown, hshown⟩
    obtain ⟨shown', hshown'⟩ := Node.hasText_ofPredicate.mpr fun c hc =>
      hatoms c (h.atoms_perm.mem_iff.mpr hc)
    rw [noted, Node.literal, hshown']
    rfl

/-- A request whose keys, and a search whose fields, are in another order compile to the same
predicate but for the order of its parts, if they compile. -/
theorem outcome_rearranged {s s' : SearchSet} {a b : Request} {p : Option Predicate}
    (hcriteria : a.criteria.Perm b.criteria) (hglobal : a.globalField = b.globalField)
    (hsearched : s.fields.Perm s'.fields) (h : (ofRequestWith r (.ok s) a).outcome = .ok p) :
    ∃ q, (ofRequestWith r (.ok s') b).outcome = .ok q ∧ Option.Rel Formula.Rearranged p q := by
  rw [outcome_eq_rows] at h
  obtain ⟨rows, hrows, hnoted⟩ := Outcome.bind_ok.mp h
  obtain ⟨mid, rows', hrows', hperm, hmid⟩ := rows_rearranged hsearched hcriteria hrows
  have hjoined := joinedRows_rearranged hperm hmid
  obtain rfl := noted_ok hnoted
  refine ⟨joinedRows rows', ?_, hjoined⟩
  rw [outcome_eq_rows, ← hglobal, hrows']
  exact noted_rearranged hjoined hnoted

end Predicate

section Distinct

variable {vs : List Value} {v : Value}

theorem distinct_append (vs : List Value) (v : Value) :
    distinct (vs ++ [v]) =
      if (distinct vs).any (·.same v) then distinct vs else distinct vs ++ [v] := by
  rw [distinct, List.foldl_append]
  rfl

theorem text_mem_distinct {name : String} :
    .text name ∈ distinct vs ↔ .text name ∈ vs := by
  constructor
  · exact Predicate.mem_distinct vs _
  · intro h
    induction vs using List.reverseRecOn with
    | nil => cases h
    | append_singleton vs v ih =>
      rw [distinct_append]
      by_cases hkept : (distinct vs).any (·.same v) = true
      · rw [if_pos hkept]
        rcases List.mem_append.mp h with h | h
        · exact ih h
        · obtain rfl := List.mem_singleton.mp h
          obtain ⟨w, hw, hsame⟩ := List.any_eq_true.mp hkept
          rwa [← Value.same_text.mp hsame]
      · rw [if_neg hkept, List.mem_append]
        exact (List.mem_append.mp h).imp_left ih

theorem mem_distinct_texts {names : List String} :
    v ∈ distinct (names.map .text) ↔ ∃ name ∈ names, v = .text name := by
  constructor
  · intro hv
    obtain ⟨name, hname, rfl⟩ := List.mem_map.mp (Predicate.mem_distinct _ v hv)
    exact ⟨name, hname, rfl⟩
  · rintro ⟨name, hname, rfl⟩
    exact text_mem_distinct.mpr (List.mem_map_of_mem hname)

theorem nodup_distinct (names : List String) : (distinct (names.map .text)).Nodup := by
  refine (Value.apart_distinct _).imp_of_mem ?_
  rintro v w hv hw hapart rfl
  obtain ⟨name, _, rfl⟩ := mem_distinct_texts.mp hv
  rw [Value.same_text.mpr rfl] at hapart
  cases hapart

theorem distinct_perm {names names' : List String} (h : ∀ name, name ∈ names ↔ name ∈ names') :
    (distinct (names.map .text)).Perm (distinct (names'.map .text)) := by
  apply (List.perm_ext_iff_of_nodup (nodup_distinct names) (nodup_distinct names')).mpr
  intro v
  simp only [mem_distinct_texts, h]

end Distinct

end TableQuery
