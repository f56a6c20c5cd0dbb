import TableQuery.Proofs.Outcome
import TableQuery.Proofs.Predicate.Formula
import TableQuery.Proofs.Value
import TableQuery.Predicate.OfRequest

/-!
# What a compiled predicate asks

A request says which criteria each field has to meet. Here that is said without the compiler: which
fields a criterion is asked of, how the criteria of an entry combine, when an entry is satisfied. A
compiled predicate is true exactly when every entry is satisfied, and its comparisons are those of
the criteria, each once and in order.
-/
namespace TableQuery
namespace Predicate

/-- The fields that the criteria under a key are asked of: those searched when the key is the
global search of the request, otherwise the field the key names. -/
def targets (globalField : Value) (searched : List Value) (key : String) : List Value :=
  match globalField with
  | .text name => if name = key then searched else [.text key]
  | _ => [.text key]

def Met (v : Comparison → Bool) (r : Resolver) (fields : List Value) (c : Criterion) : Prop :=
  ∃ field ∈ fields, ∃ q, Comparison.ofCriterion r field c = .ok q ∧ v q = true

def NamesFirst (how : Connective) (criteria : List Criterion) : Prop :=
  ∃ before c after, criteria = before ++ c :: after ∧ c.connective = some how ∧
    ∀ b ∈ before, b.connective = none

/-- An entry asks for nothing without fields or without criteria. Otherwise all of its criteria are
met if "all of" is named first, and at least one if "at least one" or nothing is. -/
def Satisfied (v : Comparison → Bool) (r : Resolver) (fields : List Value)
    (criteria : List Criterion) : Prop :=
  fields ≠ [] → criteria ≠ [] →
    (NamesFirst .all criteria → ∀ c ∈ criteria, Met v r fields c) ∧
    (¬ NamesFirst .all criteria → ∃ c ∈ criteria, Met v r fields c)

def selects (v : Comparison → Bool) (p : Option Predicate) : Bool :=
  p.elim true (Formula.holds v)

def leaves (p : Option Predicate) : List Comparison := p.elim [] Formula.atoms

/-- The comparisons that the criteria under a key stand for, by criterion, then by field. -/
def asked (r : Resolver) (fields : List Value) (criteria : List Criterion) :
    List (Except Fault Comparison) :=
  criteria.flatMap fun c => fields.map fun field => Comparison.ofCriterion r field c

theorem connectiveOf_eq_all {criteria : List Criterion} :
    Criterion.connectiveOf criteria = .all ↔ NamesFirst .all criteria := by
  unfold Criterion.connectiveOf NamesFirst
  constructor
  · intro h
    cases hf : criteria.findSome? Criterion.connective with
    | none => simp [hf] at h
    | some how =>
      rw [hf] at h
      obtain rfl : how = .all := h
      exact List.findSome?_eq_some_iff.mp hf
  · intro h
    rw [List.findSome?_eq_some_iff.mpr h]
    rfl

theorem connectiveOf_congr {cs ds : List Criterion}
    (h : cs.map Criterion.connective = ds.map Criterion.connective) :
    Criterion.connectiveOf cs = Criterion.connectiveOf ds := by
  have hnamed : ∀ es : List Criterion,
      Criterion.connectiveOf es = ((es.map Criterion.connective).findSome? id).getD .any := by
    intro es
    rw [Criterion.connectiveOf, List.findSome?_map]
    rfl
  rw [hnamed, hnamed, h]

theorem isGlobal_iff {globalField : Value} {key : String} :
    isGlobal globalField key = true ↔ globalField = .text key :=
  Value.same_text

theorem targets_of_global {globalField : Value} {searched : List Value} {key : String}
    (h : isGlobal globalField key = true) : targets globalField searched key = searched := by
  rw [isGlobal_iff.mp h]
  simp [targets]

theorem targets_of_not_global {globalField : Value} {searched : List Value} {key : String}
    (h : isGlobal globalField key = false) : targets globalField searched key = [.text key] := by
  unfold targets
  split
  · split
    · next hk => rw [isGlobal_iff.mpr (by rw [hk])] at h; cases h
    · rfl
  · rfl

/-- A formula that asks of the fields what a criterion asks: it has a comparison for each of them,
in order, and is true when one of these is. -/
structure StandsFor (r : Resolver) (fields : List Value) (c : Criterion) (f : Predicate) :
    Prop where
  atoms : f.atoms.map .ok = fields.map fun field => Comparison.ofCriterion r field c
  holds : ∀ v, Formula.holds v f = true ↔ Met v r fields c

theorem met_iff {r : Resolver} {fields : List Value} {c : Criterion} {qs : List Comparison}
    (h : qs.map .ok = fields.map fun field => Comparison.ofCriterion r field c)
    (v : Comparison → Bool) : Met v r fields c ↔ qs.any v = true := by
  rw [List.any_eq_true]
  constructor
  · rintro ⟨field, hf, q, hq, hv⟩
    have hm : (.ok q : Except Fault Comparison) ∈ qs.map .ok := by
      rw [h, ← hq]
      exact List.mem_map_of_mem hf
    obtain ⟨q', hq', he⟩ := List.mem_map.mp hm
    obtain rfl := Except.ok.inj he
    exact ⟨q', hq', hv⟩
  · rintro ⟨q, hq, hv⟩
    have hm : (.ok q : Except Fault Comparison) ∈
        fields.map fun field => Comparison.ofCriterion r field c := by
      rw [← h]
      exact List.mem_map_of_mem hq
    obtain ⟨field, hf, he⟩ := List.mem_map.mp hm
    exact ⟨field, hf, q, he, hv⟩

theorem ofTargets_ok {r : Resolver} {fields : List Value} {c : Criterion} {ps : List Predicate}
    (h : ofTargets r fields c = .ok ps) :
    ∃ qs : List Comparison, ps = qs.map .atom ∧
      qs.map .ok = fields.map fun field => Comparison.ofCriterion r field c := by
  induction fields generalizing ps with
  | nil =>
    obtain rfl := Except.ok.inj h
    exact ⟨[], rfl, rfl⟩
  | cons field fields ih =>
    obtain ⟨p, rest, hp, hrest, rfl⟩ := Outcome.mapM_cons_ok.mp h
    obtain ⟨q, hq, rfl⟩ := Outcome.map_ok.mp hp
    obtain ⟨qs, rfl, hqs⟩ := ih hrest
    exact ⟨q :: qs, rfl, by rw [List.map_cons, List.map_cons, hq, hqs]⟩

theorem standsFor_single {r : Resolver} {field : Value} {c : Criterion} {ps : List Predicate}
    (h : ofTargets r [field] c = .ok ps) : ∃ f, ps = [f] ∧ StandsFor r [field] c f := by
  obtain ⟨qs, rfl, hqs⟩ := ofTargets_ok h
  obtain ⟨q, rfl⟩ : ∃ q, qs = [q] :=
    List.length_eq_one_iff.mp (by simpa using congrArg List.length hqs)
  exact ⟨.atom q, rfl, hqs, fun v => by simp [met_iff hqs, Formula.holds]⟩

/-- However many fields are searched, a criterion of the global search gives one formula, joined by
"at least one". -/
theorem standsFor_global {r : Resolver} {fields : List Value} {c : Criterion} {ps : List Predicate}
    (hne : fields ≠ []) (h : ofGlobal r fields c = .ok ps) :
    ∃ f, ps = [f] ∧ StandsFor r fields c f := by
  obtain ⟨found, hfound, h⟩ := Outcome.bind_ok.mp h
  obtain ⟨qs, rfl, hqs⟩ := ofTargets_ok hfound
  have hlen := congrArg List.length hqs
  have hq : qs ≠ [] := by
    rintro rfl
    exact hne (List.length_eq_zero_iff.mp (by simpa using hlen.symm))
  obtain ⟨f, hf⟩ := Option.ne_none_iff_exists'.mp
    (mt (@Formula.join?_eq_none _ .any _).mp (by simpa using hq : qs.map Formula.atom ≠ []))
  have hatoms : f.atoms = qs := by
    rw [Formula.atoms_join? hf]
    simp [List.flatMap_map, Formula.atoms]
  refine ⟨f, ?_, by rw [hatoms, hqs], fun v => ?_⟩
  · rw [hf] at h
    exact (Except.ok.inj h).symm
  · rw [met_iff hqs, Formula.holds_join? hf]
    simp [Connective.truth, Function.comp_def, Formula.holds]

theorem standsFor_all {r : Resolver} {fields : List Value}
    {step : Criterion → Except Fault (List Predicate)} {criteria : List Criterion}
    {inner : List (List Predicate)}
    (hstep : ∀ c ps, step c = .ok ps → ∃ f, ps = [f] ∧ StandsFor r fields c f)
    (h : criteria.mapM step = .ok inner) :
    List.Forall₂ (StandsFor r fields) criteria inner.flatten := by
  induction criteria generalizing inner with
  | nil =>
    obtain rfl := Except.ok.inj h
    exact .nil
  | cons c cs ih =>
    obtain ⟨ps, rest, hps, hrest, rfl⟩ := Outcome.mapM_cons_ok.mp h
    obtain ⟨f, rfl, hf⟩ := hstep c ps hps
    exact .cons hf (ih hrest)

theorem atoms_of_standsFor {r : Resolver} {fields : List Value} {criteria : List Criterion}
    {fs : List Predicate} (h : List.Forall₂ (StandsFor r fields) criteria fs) :
    (fs.flatMap Formula.atoms).map .ok = asked r fields criteria := by
  induction h with
  | nil => rfl
  | cons hf _ ih =>
    rw [List.flatMap_cons, List.map_append, ih, hf.atoms]
    rfl

theorem truth_of_standsFor {r : Resolver} {fields : List Value} {criteria : List Criterion}
    {fs : List Predicate} (h : List.Forall₂ (StandsFor r fields) criteria fs)
    (v : Comparison → Bool) :
    (Connective.truth .all (fs.map (Formula.holds v)) = true ↔ ∀ c ∈ criteria, Met v r fields c) ∧
    (Connective.truth .any (fs.map (Formula.holds v)) = true ↔
      ∃ c ∈ criteria, Met v r fields c) := by
  simp only [Connective.truth]
  induction h with
  | nil => simp
  | cons hf _ ih =>
    rw [List.map_cons, List.all_cons, List.any_cons, Bool.and_eq_true, Bool.or_eq_true, ih.1, ih.2,
      id, hf.holds v]
    simp

/-- Both ways to ask a criterion end in the same way: the formulas of the criteria are joined by the
connective of the entry. -/
theorem ofField_eq {r : Resolver} {globalField : Value} {searched : List Value}
    {entry : String × List Criterion} {p : Option Predicate}
    (hne : targets globalField searched entry.1 ≠ [])
    (h : ofField r globalField searched entry = .ok p) :
    ∃ fs, List.Forall₂ (StandsFor r (targets globalField searched entry.1)) entry.2 fs ∧
      p = Formula.join? (Criterion.connectiveOf entry.2) fs := by
  unfold ofField at h
  cases hg : isGlobal globalField entry.1 with
  | true =>
    rw [targets_of_global hg] at hne ⊢
    rw [if_pos hg] at h
    obtain ⟨inner, hinner, h⟩ := Outcome.bind_ok.mp h
    exact ⟨_, standsFor_all (fun _ _ => standsFor_global hne) hinner, (Except.ok.inj h).symm⟩
  | false =>
    rw [targets_of_not_global hg]
    rw [if_neg (by simp [hg])] at h
    obtain ⟨inner, hinner, h⟩ := Outcome.bind_ok.mp h
    exact ⟨_, standsFor_all (fun _ _ => standsFor_single) hinner, (Except.ok.inj h).symm⟩

theorem ofField_ok {r : Resolver} {globalField : Value} {searched : List Value}
    {entry : String × List Criterion} {p : Option Predicate}
    (hne : targets globalField searched entry.1 ≠ [])
    (h : ofField r globalField searched entry = .ok p) :
    (leaves p).map .ok = asked r (targets globalField searched entry.1) entry.2 ∧
      ∀ v, selects v p = true ↔ Satisfied v r (targets globalField searched entry.1) entry.2 := by
  obtain ⟨fs, hall, rfl⟩ := ofField_eq hne h
  cases hj : Formula.join? (Criterion.connectiveOf entry.2) fs with
  | none =>
    rw [Formula.join?_eq_none.mp hj] at hall
    cases hentry : entry.2 with
    | nil => simp [leaves, asked, selects, Satisfied]
    | cons c cs =>
      rw [hentry] at hall
      cases hall
  | some f =>
    have hcriteria : entry.2 ≠ [] := by
      intro hnil
      rw [hnil] at hall
      cases hall
      cases hj
    refine ⟨?_, fun v => ?_⟩
    · rw [← atoms_of_standsFor hall, ← Formula.atoms_join? hj]
      rfl
    · have htrue : selects v (some f) = _ := Formula.holds_join? hj v
      have hjoined := truth_of_standsFor hall v
      rw [htrue]
      cases how : Criterion.connectiveOf entry.2 with
      | all =>
        have hfirst := connectiveOf_eq_all.mp how
        simp [hjoined.1, Satisfied, hne, hcriteria, hfirst]
      | any =>
        have hfirst : ¬ NamesFirst .all entry.2 := by
          rw [← connectiveOf_eq_all, how]
          decide
        simp [hjoined.2, Satisfied, hne, hcriteria, hfirst]

/-- Entries are compiled one after the other; those of a global search without fields ask for
nothing, and so does passing them over. -/
theorem ofFields_ok {r : Resolver} {globalField : Value} {searched : List Value}
    {entries : List (String × List Criterion)} {ps : List Predicate}
    (h : (ofFields r globalField searched entries).2 = .ok ps) :
    (ps.flatMap Formula.atoms).map .ok =
        entries.flatMap (fun e => asked r (targets globalField searched e.1) e.2) ∧
      ∀ v, ps.all (Formula.holds v) = true ↔
        ∀ e ∈ entries, Satisfied v r (targets globalField searched e.1) e.2 := by
  induction entries generalizing ps with
  | nil =>
    obtain rfl := Except.ok.inj h
    simp
  | cons e entries ih =>
    rw [ofFields] at h
    split at h
    · next hskip =>
      have hnone : targets globalField searched e.1 = [] := by
        simp only [Bool.and_eq_true, List.isEmpty_iff] at hskip
        rw [targets_of_global hskip.1, hskip.2]
      obtain ⟨hatoms, htrue⟩ := ih h
      refine ⟨?_, fun v => ?_⟩
      · simp [hatoms, hnone, asked]
      · simp [htrue v, hnone, Satisfied]
    · next hskip =>
      have hne : targets globalField searched e.1 ≠ [] := by
        cases hg : isGlobal globalField e.1 with
        | true => simpa [targets_of_global hg, hg] using hskip
        | false => simp [targets_of_not_global hg]
      cases hfield : ofField r globalField searched e with
      | error f => simp [hfield] at h
      | ok p =>
        rw [hfield] at h
        obtain ⟨rest, hrest, rfl⟩ := Outcome.map_ok.mp h
        obtain ⟨hatoms, htrue⟩ := ih hrest
        obtain ⟨hpatoms, hptrue⟩ := ofField_ok hne hfield
        refine ⟨?_, fun v => ?_⟩
        · rw [List.flatMap_append, List.map_append, hatoms, List.flatMap_cons, ← hpatoms]
          cases p <;> simp [leaves]
        · rw [List.all_append, Bool.and_eq_true, htrue v, List.forall_mem_cons, ← hptrue v]
          cases p <;> simp [selects]

theorem selects_join (v : Comparison → Bool) (ps : List Predicate) :
    selects v (Formula.join? .all ps) = ps.all (Formula.holds v) := by
  cases h : Formula.join? .all ps with
  | none => simp [Formula.join?_eq_none.mp h, selects]
  | some f =>
    have hf := Formula.holds_join? h v
    simpa [Connective.truth, Function.comp_def, selects] using hf

theorem leaves_join (how : Connective) (ps : List Predicate) :
    leaves (Formula.join? how ps) = ps.flatMap Formula.atoms := by
  cases h : Formula.join? how ps with
  | none => simp [Formula.join?_eq_none.mp h, leaves]
  | some f => exact Formula.atoms_join? h

theorem noted_ok {p q : Option Predicate} (h : noted p = .ok q) : p = q := by
  cases p with
  | none => exact Except.ok.inj h
  | some f =>
    obtain ⟨_, _, hq⟩ := Outcome.map_ok.mp h
    exact hq

/-- A request compiles to a predicate that is true exactly when every entry is satisfied, whichever
comparisons are true. Its comparisons are those of the criteria, by key, criterion and field. -/
theorem compiled_selects_iff {r : Resolver} {given : List Value} {request : Request}
    {p : Option Predicate}
    (h : (ofRequestWith r (SearchSet.ofList given) request).outcome = .ok p) :
    (∀ v, selects v p = true ↔ ∀ e ∈ request.criteria,
      Satisfied v r (targets request.globalField (distinct given) e.1) e.2) ∧
    (leaves p).map .ok = request.criteria.flatMap fun e =>
      asked r (targets request.globalField (distinct given) e.1) e.2 := by
  unfold ofRequestWith at h
  split at h
  · next hnone =>
    obtain rfl := Except.ok.inj h
    simp [List.isEmpty_iff.mp hnone, selects, leaves]
  · split at h
    · next s hset =>
      have hs : s.fields = distinct given := by
        unfold SearchSet.ofList at hset
        split at hset
        · rw [← Except.ok.inj hset]
        · cases hset
      obtain ⟨ps, hps, hnoted⟩ := Outcome.bind_ok.mp h
      rw [hs] at hps
      obtain ⟨hatoms, htrue⟩ := ofFields_ok hps
      obtain rfl := noted_ok hnoted
      rw [← hatoms]
      refine ⟨fun v => ?_, ?_⟩
      · rw [← htrue v, selects_join]
      · rw [leaves_join]
    · cases h

namespace Example

def resolver : Resolver := .table [(.text "name", .text), (.text "power", .text),
  (.text "state", .opaqueKind)]

/-- The global search is asked twice, "all of" is named first; a null stands before it. -/
def request : Request :=
  { offset := 0
    pageSize := 10
    sortKeys := []
    criteria := [("search", [⟨.text "Bolt", none, none⟩, ⟨.text "x", some .endsWith, some .all⟩]),
      ("state", [⟨.text "ME", none, none⟩])]
    globalField := .text "search" }

def searched : List Value := [.text "name", .text "power", .text "name"]

def like (field pattern : String) : Predicate := .atom ⟨.text field, .like, [.text pattern], true⟩

def predicate : Predicate :=
  .junction .all [
    .junction .all [.junction .any [like "name" "%bolt%", like "power" "%bolt%"],
      .junction .any [like "name" "%x", like "power" "%x"]],
    .atom ⟨.text "state", .eq, [.text "ME"], false⟩]

end Example

theorem compiled_selects_iff_search :
    (ofRequestWith Example.resolver (SearchSet.ofList Example.searched) Example.request).outcome =
        .ok (some Example.predicate) ∧
    (∀ v, selects v (some Example.predicate) = true ↔ ∀ e ∈ Example.request.criteria,
      Satisfied v Example.resolver
        (targets Example.request.globalField (distinct Example.searched) e.1) e.2) ∧
    (leaves (some Example.predicate)).map .ok = Example.request.criteria.flatMap fun e =>
      asked Example.resolver
        (targets Example.request.globalField (distinct Example.searched) e.1) e.2 := by
  have h : (ofRequestWith Example.resolver (SearchSet.ofList Example.searched)
      Example.request).outcome = .ok (some Example.predicate) := by cbv
  exact ⟨h, compiled_selects_iff h⟩

end Predicate
end TableQuery
