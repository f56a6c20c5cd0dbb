import TableQuery.Predicate.Compiler
import TableQuery.Proofs.Predicate.Rearranged
import TableQuery.Proofs.Sqlite.Conversion

/-!
# Clauses in another order

A predicate whose parts are in another order is lowered if the first one is, and binds the same
values, in another order. So it makes no difference to what is asked in which order the keys of a
request come, or the fields that its global search looks at.
-/
namespace TableQuery

open Formula

namespace Predicate

structure AskAlike (p q : Option Predicate) : Prop where
  nothing : p = none ↔ q = none
  truth : ∀ v, selects v p = selects v q
  comparisons : (leaves p).Perm (leaves q)

theorem askAlike_of_rearranged {p q : Option Predicate} (h : Option.Rel Rearranged p q) :
    AskAlike p q := by
  cases h with
  | none => exact ⟨.rfl, fun _ => rfl, .refl _⟩
  | some hfg => exact ⟨by simp, hfg.holds_eq, hfg.atoms_perm⟩

end Predicate

namespace Sqlite

variable {l : Layout} {f g : Predicate} {p q : Option Predicate} {clause : Clause}

theorem lower_rearranged (h : lower l (Node.ofPredicate f) = .ok clause) (hfg : Rearranged f g) :
    ∃ d, lower l (Node.ofPredicate g) = .ok d ∧ clause.bound.Perm d.bound := by
  refine lower_induction (motive := fun f clause => ∀ g, Rearranged f g →
    ∃ d, lower l (Node.ofPredicate g) = .ok d ∧ clause.bound.Perm d.bound) h ?_ ?_ g hfg
  · intro c clause hclause g hg
    cases hg
    exact ⟨clause, lower_atom.mpr hclause, .refl _⟩
  · intro how fs cs ih g hg
    cases hg with
    | @junction _ _ gs hs order parts =>
      -- the clauses follow their predicates into the new order, then each is compared with its own
      obtain ⟨mid, hmid, hperm⟩ := List.perm_comp_forall₂ order.symm ih
      obtain ⟨ds, hlowered, hbound⟩ := Outcome.forall₂_comp
        (Outcome.forall₂_trans (fun _ _ _ hpart hstep => hstep _ hpart) parts.flip hmid)
      refine ⟨junctionClause how ds, lower_junction how hlowered, ?_⟩
      rw [bound_junctionClause, bound_junctionClause]
      exact Outcome.flatMap_perm hperm.symm hbound.flip

theorem convert_rearranged (h : convert l (Node.ofPredicate? p) = .ok clause)
    (hpq : Option.Rel Rearranged p q) :
    ∃ d, convert l (Node.ofPredicate? q) = .ok d ∧ clause.bound.Perm d.bound := by
  cases hpq with
  | none => exact ⟨clause, h, .refl _⟩
  | some hfg =>
    obtain ⟨hcheck, hlower⟩ := convert_predicate.mp h
    obtain ⟨d, hd, hbound⟩ := lower_rearranged hlower hfg
    exact ⟨d, convert_predicate.mpr ⟨Node.check_rearranged hfg hcheck, hd⟩, hbound⟩

/-- A conversion that is refused has bound nothing if the predicate could be lowered. -/
theorem collected_of_refused {s : Stuck} (hlower : lower l (Node.ofPredicate f) = .ok clause)
    (h : convert l (Node.ofPredicate f) = .error s) : s.collected = [] := by
  have hsome : isNothing (Node.ofPredicate f) = false := by cases f <;> rfl
  rw [convert, hsome, if_neg Bool.false_ne_true] at h
  split at h
  · exact (Except.error.inj h) ▸ rfl
  · rw [hlower] at h
    cases h

namespace Converter

variable {k k' : Converter}

def Converts (k : Converter) (p : Option Predicate) : Prop :=
  ∃ clause, (k.convert (Node.ofPredicate? p)).2 = .ok clause

def binding (k : Converter) (p : Option Predicate) : List Value :=
  (k.convert (Node.ofPredicate? p)).1.params

theorem convert_of_ok (h : Sqlite.convert k.layout (Node.ofPredicate? p) = .ok clause) :
    k.convert (Node.ofPredicate? p) = (⟨k.layout, clause.bound⟩, .ok clause) := by
  rw [convert, h]

theorem converts_iff :
    k.Converts p ↔ ∃ clause, Sqlite.convert k.layout (Node.ofPredicate? p) = .ok clause := by
  unfold Converts convert
  cases Sqlite.convert k.layout (Node.ofPredicate? p) <;> simp

theorem binding_rearranged (hlayout : k.layout = k'.layout) (hpq : Option.Rel Rearranged p q)
    (h : k.Converts p) : k'.Converts q ∧ (k.binding p).Perm (k'.binding q) := by
  obtain ⟨clause, hclause⟩ := converts_iff.mp h
  obtain ⟨d, hd, hbound⟩ := convert_rearranged hclause hpq
  rw [hlayout] at hd
  refine ⟨converts_iff.mpr ⟨d, hd⟩, ?_⟩
  rw [binding, binding, convert_of_ok hclause, convert_of_ok hd]
  exact hbound

theorem binding_of_refused (h : ¬ k.Converts p)
    (hlower : ∀ f ∈ p, ∃ clause, lower k.layout (Node.ofPredicate f) = .ok clause) :
    k.binding p = [] := by
  cases p with
  | none => exact absurd ⟨_, rfl⟩ h
  | some f =>
    obtain ⟨clause, hclause⟩ := hlower f rfl
    unfold binding convert
    cases hconverted : Sqlite.convert k.layout (Node.ofPredicate? (some f)) with
    | ok d => exact absurd (converts_iff.mpr ⟨d, hconverted⟩) h
    | error s => exact collected_of_refused hclause hconverted

end Converter

end Sqlite

namespace SearchSet

theorem ofList_texts (names : List String) :
    ofList (names.map .text) = .ok ⟨distinct (names.map .text)⟩ := by
  have hkeys : (names.map Value.text).all Value.isKey = true := by
    simp [Value.isKey, Value.fingerprint?]
  rw [ofList, if_pos hkeys]

end SearchSet

namespace Compiler

open Predicate Sqlite

variable {r : Resolver} {c c' : Compiler} {given given' : Value} {names names' : List String}
  {a b : Request} {p q : Option Predicate}

theorem outcome_rearranged (hs : c.searchedBy given = SearchSet.ofList (names.map .text))
    (hs' : c'.searchedBy given' = SearchSet.ofList (names'.map .text))
    (hnames : ∀ name, name ∈ names ↔ name ∈ names') (hcriteria : a.criteria.Perm b.criteria)
    (hglobal : a.globalField = b.globalField) (h : (c.compile r a given).2.outcome = .ok p) :
    ∃ q, (c'.compile r b given').2.outcome = .ok q ∧ Option.Rel Rearranged p q := by
  rw [compile, hs, SearchSet.ofList_texts] at h
  rw [compile, hs', SearchSet.ofList_texts]
  exact Predicate.outcome_rearranged hcriteria hglobal (distinct_perm hnames) h

theorem lower_of_compile {l : Layout} (hl : l.Named)
    (hs : c.searchedBy given = SearchSet.ofList (names.map .text))
    (h : (c.compile r a given).2.outcome = .ok p) :
    ∀ f ∈ p, ∃ clause, lower l (Node.ofPredicate f) = .ok clause := by
  rintro f rfl
  rw [compile, hs] at h
  have hfields : ∀ q ∈ f.atoms, ∃ name, q.field = .text name := by
    refine field_of_compiled (fun s hs v hv => ?_) h
    rw [fields_ofList hs] at hv
    obtain ⟨name, _, rfl⟩ := mem_distinct_texts.mp hv
    exact ⟨name, rfl⟩
  refine lower_of_atoms fun q hq => ?_
  exact comparisonClause_of_wellFormed hl (wellFormed_of_compiled h q hq) (hfields q hq)

/-- The order of the keys of a request has no meaning, nor has the order in which the fields of its
global search are named, or how often. Compiled either way, if at all, it asks the same, is
converted or refused alike, and leaves the same values bound but for their order. -/
theorem compiled_in_any_order (r : Resolver)
    (hs : c.searchedBy given = SearchSet.ofList (names.map .text))
    (hs' : c'.searchedBy given' = SearchSet.ofList (names'.map .text))
    (hnames : ∀ name, name ∈ names ↔ name ∈ names') (hcriteria : a.criteria.Perm b.criteria)
    (hglobal : a.globalField = b.globalField) :
    ((∃ p, (c.compile r a given).2.outcome = .ok p) ↔
      ∃ q, (c'.compile r b given').2.outcome = .ok q) ∧
    ∀ p q, (c.compile r a given).2.outcome = .ok p → (c'.compile r b given').2.outcome = .ok q →
      AskAlike p q ∧
      ∀ k k' : Converter, k.layout = k'.layout →
        (k.Converts p ↔ k'.Converts q) ∧
        (k.Converts p ∨ k.layout.Named → (k.binding p).Perm (k'.binding q)) := by
  have hback : ∀ name, name ∈ names' ↔ name ∈ names := fun name => (hnames name).symm
  constructor
  · constructor
    · rintro ⟨p, hp⟩
      obtain ⟨q, hq, _⟩ := outcome_rearranged hs hs' hnames hcriteria hglobal hp
      exact ⟨q, hq⟩
    · rintro ⟨q, hq⟩
      obtain ⟨p, hp, _⟩ := outcome_rearranged hs' hs hback hcriteria.symm hglobal.symm hq
      exact ⟨p, hp⟩
  · intro p q hp hq
    obtain ⟨q', hq', hpq⟩ := outcome_rearranged hs hs' hnames hcriteria hglobal hp
    obtain rfl : q' = q := Except.ok.inj (hq'.symm.trans hq)
    obtain ⟨p', hp', hqp⟩ := outcome_rearranged hs' hs hback hcriteria.symm hglobal.symm hq
    obtain rfl : p' = p := Except.ok.inj (hp'.symm.trans hp)
    refine ⟨askAlike_of_rearranged hpq, fun k k' hlayout => ?_⟩
    have hconverts : k.Converts p' ↔ k'.Converts q' := by
      constructor
      · exact fun h => (k.binding_rearranged hlayout hpq h).1
      · exact fun h => (k'.binding_rearranged hlayout.symm hqp h).1
    refine ⟨hconverts, fun h => ?_⟩
    by_cases hk : k.Converts p'
    · exact (k.binding_rearranged hlayout hpq hk).2
    · -- refused before anything was bound, on both sides
      have hl : k.layout.Named := h.resolve_left hk
      rw [k.binding_of_refused hk (lower_of_compile hl hs hp),
        k'.binding_of_refused (fun hk' => hk (hconverts.mpr hk'))
          (lower_of_compile (hlayout ▸ hl) hs' hq)]

namespace Example

open Sqlite.Example

def turnedRequest : Request := { mixedRequest with criteria := mixedRequest.criteria.reverse }

/-- The predicate of that request, whose global search looks at the ordered field first. -/
def turnedPredicate : Predicate :=
  .junction .all [
    .junction .any [leaf "born" .between [.text "1980", .text "1990"],
      leaf "born" .isIn [.text "2001", .null, .bool true]],
    .junction .all [
      .junction .any [leaf "born" .eq [.text "19"],
        .atom ⟨.text "na\"me?", .like, [.text "%19%"], true⟩],
      .junction .any [leaf "born" .ne [.text "?"],
        .atom ⟨.text "na\"me?", .ne, [.text "?"], true⟩]]]

def configured : Compiler := ⟨⟨mixedSearch⟩⟩

def unconfigured : Compiler := ⟨⟨[]⟩⟩

def turnedNames : Value := .list [.text "born", .text "na\"me?", .text "born"]

theorem searchedBy_configured :
    configured.searchedBy .null = SearchSet.ofList (["na\"me?", "born"].map .text) := by cbv

theorem compile_mixed : (configured.compile mixedFields mixedRequest .null).2.outcome =
    .ok (some mixedPredicate) := by cbv

theorem compile_turned : (unconfigured.compile mixedFields turnedRequest turnedNames).2.outcome =
    .ok (some turnedPredicate) := by cbv

end Example

open Sqlite.Example in
theorem compiled_in_any_order_turned :
    (Example.configured.compile mixedFields mixedRequest .null).2.outcome =
      .ok (some mixedPredicate) ∧
    (Example.unconfigured.compile mixedFields Example.turnedRequest Example.turnedNames).2.outcome =
      .ok (some Example.turnedPredicate) ∧
    AskAlike (some mixedPredicate) (some Example.turnedPredicate) ∧
    (Converter.binding ⟨inObjects, []⟩ (some mixedPredicate)).Perm
      (Converter.binding ⟨inObjects, [.null]⟩ (some Example.turnedPredicate)) := by
  have hnames : ∀ name, name ∈ ["na\"me?", "born"] ↔ name ∈ ["born", "na\"me?", "born"] := by
    intro name
    simp only [List.mem_cons, List.not_mem_nil, or_false]
    tauto
  have hl : inObjects.Named := ⟨⟨none, rfl⟩, fun _ => ⟨"o?", rfl⟩⟩
  have hs' : Example.unconfigured.searchedBy Example.turnedNames =
      SearchSet.ofList (["born", "na\"me?", "born"].map .text) := rfl
  have hcriteria : mixedRequest.criteria.Perm Example.turnedRequest.criteria :=
    (List.reverse_perm mixedRequest.criteria).symm
  obtain ⟨_, hall⟩ := compiled_in_any_order mixedFields Example.searchedBy_configured hs' hnames
    hcriteria rfl
  obtain ⟨halike, hconverters⟩ := hall _ _ Example.compile_mixed Example.compile_turned
  obtain ⟨_, hbinding⟩ := hconverters ⟨inObjects, []⟩ ⟨inObjects, [.null]⟩ rfl
  exact ⟨Example.compile_mixed, Example.compile_turned, halike, hbinding (.inr hl)⟩

end Compiler
end TableQuery
