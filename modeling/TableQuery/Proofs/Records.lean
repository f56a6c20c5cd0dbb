import TableQuery.Proofs.Qdrant.Payload
import TableQuery.Proofs.Sqlite.Kept

/-!
# Records in both stores

One predicate is asked of the same record as a clause and as a filter. A clause is unknown of null
and keeps nothing then, while a filter negates that a null passes a test. So the two part where a
comparison denies something of a null, and only there.
-/
namespace TableQuery

namespace Comparison

/-- Whether a comparison denies something else than that its field is missing. -/
def deniesValue (c : Comparison) : Bool := c.denies && !c.positive.asksNull

theorem denies_positive (c : Comparison) : c.positive.denies = false := by
  obtain ⟨field, o, operands, folds⟩ := c
  cases o <;> rfl

theorem asksNull_positive (c : Comparison) :
    (c.positive.asksNull != c.denies) = (c.asksNull || c.deniesValue) := by
  rw [deniesValue]
  cases hd : c.denies with
  | true =>
    have hne : c.operator ≠ .eq := by
      intro heq
      rw [denies, heq] at hd
      cases hd
    rw [asksNull_eq_false hne]
    cases c.positive.asksNull <;> rfl
  | false =>
    have hself : c.positive = c := by
      unfold denies at hd
      unfold positive
      split at hd <;> simp_all
    rw [hself]
    cases c.asksNull <;> rfl

end Comparison

open Sqlite Qdrant

/-- What a record has under a field; only texts name one. -/
def valueAt (record : String → Value) : Value → Value
  | .text name => record name
  | _ => .null

def Comparison.deniesNull (record : String → Value) (c : Comparison) : Bool :=
  c.deniesValue && match valueAt record c.field with
    | .null => true
    | _ => false

/-- One record in both stores: a row has each field in its column, a payload under its key. -/
structure Stored (ls : Sqlite.Layout) (lq : Qdrant.Layout) (record : String → Value)
    (row : ColumnRef → Value) (payload : String → Value) : Prop where
  row : ∀ name ref, ls.reference (.text name) = .ok ref → row ref = record name
  payload : ∀ name key, lq.key (.text name) = .ok key → payload key = record name

namespace Stored

variable {ls : Sqlite.Layout} {lq : Qdrant.Layout} {record : String → Value}
  {row : ColumnRef → Value} {payload : String → Value} {other : Clause → Value → Bool}
  {answer : Test → Value → Bool}

/-- The two readings of a comparison differ when it denies something of a null: the filter says yes
and the clause does not. -/
theorem leafHolds_eq (hstored : Stored ls lq record row payload) {c : Comparison}
    (hclause : ∃ clause, comparisonClause ls c = .ok clause)
    (hpositive : ∃ q, comparisonCondition lq c.positive = .ok q)
    (hagree : valueAt record c.field ≠ .null →
      leafKeeps ls row other c = leafHolds lq (met payload answer) c) :
    leafHolds lq (met payload answer) c = (leafKeeps ls row other c || c.deniesNull record) := by
  obtain ⟨clause, hclause⟩ := hclause
  obtain ⟨ref, href, hoperator⟩ := Outcome.bind_ok.mp hclause
  obtain ⟨name, hname⟩ := field_of_reference href
  rw [hname] at href hagree
  by_cases hnull : record name = .null
  -- of null, what is asked decides for each of the two, whatever the databases answer
  · obtain ⟨q, hq⟩ := hpositive
    obtain ⟨key, hkey, hcondition⟩ :=
      key_of_comparisonCondition ((positive_field c).trans hname) hq
    have hmet : met payload answer q = c.positive.asksNull :=
      met_null ((hstored.payload name key hkey).trans hnull) c.denies_positive hcondition
    have hkeeps : clause.keeps row other = c.asksNull :=
      keeps_null (t := ⟨ref, c.foldsCase⟩) ((hstored.row name ref href).trans hnull) hoperator
    rw [leafHolds, hq, leafKeeps, hclause]
    simp only [hmet, hkeeps, Comparison.asksNull_positive, Comparison.deniesNull, hname, valueAt,
      hnull, Bool.and_true]
  · have hvalue : c.deniesNull record = false := by
      rw [Comparison.deniesNull, hname, valueAt]
      split
      · contradiction
      · exact Bool.and_false _
    rw [hvalue, Bool.or_false, hagree hnull]

/-- Both stores select the records that a predicate is true of, but for comparisons that deny
something of a null: a filter takes them for true, a clause does not. So what a clause keeps is
selected, and the two agree on a record of which nothing is denied where it has a null. -/
theorem keeps_iff_selects (hstored : Stored ls lq record row payload) {p : Option Predicate}
    {clause : Clause} {filter : Option Condition}
    (hclause : Sqlite.convert ls (Node.ofPredicate? p) = .ok clause)
    (hfilter : Qdrant.convert lq (Node.ofPredicate? p) = .ok filter)
    (hagree : ∀ c ∈ Predicate.leaves p, valueAt record c.field ≠ .null →
      leafKeeps ls row other c = leafHolds lq (met payload answer) c) :
    let selected := filter.elim true (Condition.holds (met payload answer))
    (clause.keeps row other = true → selected = true) ∧
    ((∀ c ∈ Predicate.leaves p, c.deniesNull record = false) →
      (clause.keeps row other = true ↔ selected = true)) ∧
    clause.keeps row other = Predicate.selects (leafKeeps ls row other) p ∧
    selected = Predicate.selects (fun c => leafKeeps ls row other c || c.deniesNull record) p := by
  cases p with
  | none =>
    obtain rfl := Except.ok.inj hclause
    obtain rfl := Except.ok.inj hfilter
    exact ⟨id, fun _ => Iff.rfl, rfl, rfl⟩
  | some p =>
    obtain ⟨f, rfl⟩ := convert_some hfilter
    obtain ⟨q, hq, rfl⟩ := Qdrant.convert_ok hfilter
    have hlower := Sqlite.convert_ok hclause
    have hkeeps := Qdrant.keeps_lower hq
    -- both read the junctions of `p` in one way, so it comes down to its comparisons
    have hkept : clause.keeps row other = Formula.holds (leafKeeps ls row other) p :=
      keeps_of_lower hlower
    have hselected : Condition.holds (met payload answer) (asFilter q) =
        Formula.holds (fun c => leafKeeps ls row other c || c.deniesNull record) p := by
      rw [holds_asFilter, hkeeps.truth]
      refine Formula.holds_congr fun c hc => ?_
      obtain ⟨q', hq', _⟩ := hkeeps.positives c hc
      exact hstored.leafHolds_eq (atoms_of_lower hlower c hc) ⟨q', hq'⟩ (hagree c hc)
    refine ⟨fun h => ?_, fun hnone => ?_, hkept, hselected⟩
    · rw [hkept] at h
      exact hselected.trans (Formula.holds_mono (fun c _ hc => by simp [hc]) h)
    · have hsame := Formula.holds_congr (f := p) fun c hc =>
        show leafKeeps ls row other c = (leafKeeps ls row other c || c.deniesNull record) by
          rw [hnone c hc, Bool.or_false]
      rw [hkept, hsame, ← hselected]
      exact Iff.rfl

end Stored
namespace Example

def staff : Resolver := .table [(.text "state", .ordered), (.text "team", .ordered)]

def elsewhere : Request :=
  { offset := 0
    pageSize := 0
    sortKeys := []
    criteria := [("state", [⟨.text "me", some .notEquals, none⟩])]
    globalField := .null }

def comparison (field : String) (o : Operator) (v : Value) : Comparison :=
  ⟨.text field, o, [v], false⟩

def notMine : Predicate := .atom (comparison "state" .ne (.text "me"))

def notMineOrFree : Predicate := .junction .any [notMine, .atom (comparison "team" .eq .null)]

def columns : Sqlite.Layout := ⟨.null, .null, [], []⟩

def keys : Qdrant.Layout := ⟨.null, []⟩

def column (name : String) : Term := ⟨.column none name, false⟩

def notMineClause : Clause := .compare (column "state") .ne (.text "me")

def notMineFilter : Condition := .allOf [] [.test "state" (.equals (.text "me"))]

def freeClause : Clause := .junction .any [notMineClause, .isNull (column "team") false]

def freeFilter : Condition := .anyOf [notMineFilter, .isNull "team"]

def isText (s : String) : Value → Bool
  | .text t => t = s
  | _ => false

/-- Both databases tell texts apart. -/
def sqlAnswer : Clause → Value → Bool
  | .compare _ .ne (.text s), v => !isText s v
  | _, _ => false

def qdrantAnswer : Test → Value → Bool
  | .equals (.text s), v => isText s v
  | _, _ => false

def rowOf (record : String → Value) : ColumnRef → Value
  | .column _ name | .path _ _ name => record name

def blank : String → Value := fun _ => .null

def away : String → Value := fun name => if name = "state" then .text "you" else .null

theorem stored (record : String → Value) : Stored columns keys record (rowOf record) record := by
  constructor
  · intro name ref h
    obtain rfl := Except.ok.inj (show Except.ok (.column none name) = Except.ok ref from h)
    rfl
  · intro name key h
    obtain rfl := Except.ok.inj (show Except.ok name = Except.ok key from h)
    rfl

end Example

/-- A record without a state is not kept by the clause, and selected by the filter. -/
theorem Stored.keeps_ne_selects_blank :
    (Predicate.ofRequest Example.staff [] Example.elsewhere).outcome = .ok (some Example.notMine) ∧
    Sqlite.convert Example.columns (Node.ofPredicate Example.notMine) = .ok Example.notMineClause ∧
    Qdrant.convert Example.keys (Node.ofPredicate Example.notMine) =
      .ok (some Example.notMineFilter) ∧
    Stored Example.columns Example.keys Example.blank (Example.rowOf Example.blank)
      Example.blank ∧
    (∀ c ∈ Example.notMine.atoms, valueAt Example.blank c.field ≠ .null →
      leafKeeps Example.columns (Example.rowOf Example.blank) Example.sqlAnswer c =
        leafHolds Example.keys (met Example.blank Example.qdrantAnswer) c) ∧
    Example.notMineClause.keeps (Example.rowOf Example.blank) Example.sqlAnswer = false ∧
    Example.notMineFilter.holds (met Example.blank Example.qdrantAnswer) = true := by
  refine ⟨by cbv, by cbv, by cbv, Example.stored Example.blank, ?_, by cbv, by cbv⟩
  intro c _ hvalue
  cases hfield : c.field <;> simp [hfield, valueAt, Example.blank] at hvalue

theorem Stored.keeps_iff_selects_away :
    Sqlite.convert Example.columns (Node.ofPredicate? (some Example.notMineOrFree)) =
      .ok Example.freeClause ∧
    Qdrant.convert Example.keys (Node.ofPredicate? (some Example.notMineOrFree)) =
      .ok (some Example.freeFilter) ∧
    (Example.freeClause.keeps (Example.rowOf Example.away) Example.sqlAnswer = true ↔
      Example.freeFilter.holds (met Example.away Example.qdrantAnswer) = true) := by
  have hclause : Sqlite.convert Example.columns
      (Node.ofPredicate? (some Example.notMineOrFree)) = .ok Example.freeClause := by cbv
  have hfilter : Qdrant.convert Example.keys
      (Node.ofPredicate? (some Example.notMineOrFree)) = .ok (some Example.freeFilter) := by cbv
  have hleaves : Predicate.leaves (some Example.notMineOrFree) =
      [Example.comparison "state" .ne (.text "me"), Example.comparison "team" .eq .null] := rfl
  have hagree : ∀ c ∈ Predicate.leaves (some Example.notMineOrFree),
      valueAt Example.away c.field ≠ .null →
        leafKeeps Example.columns (Example.rowOf Example.away) Example.sqlAnswer c =
          leafHolds Example.keys (met Example.away Example.qdrantAnswer) c := by
    rw [hleaves, List.forall_mem_cons, List.forall_mem_singleton]
    exact ⟨fun _ => by cbv, fun hteam => absurd rfl hteam⟩
  obtain ⟨_, hiff, _⟩ := (Example.stored Example.away).keeps_iff_selects hclause hfilter hagree
  refine ⟨hclause, hfilter, hiff ?_⟩
  rw [hleaves, List.forall_mem_cons, List.forall_mem_singleton]
  exact ⟨by cbv, by cbv⟩

end TableQuery
