import TableQuery.Proofs.Sqlite.Outline
import TableQuery.Proofs.Sqlite.Query

/-!
# Statements of alike requests

A store asked with the plans of alike requests executes the same texts; what the requests hold, and
which rows they ask for, is in the values that are bound to them. Only one of these is not noted
before a find, the number of rows to skip: where it has too many digits for a text, nothing is
executed.
-/
namespace TableQuery

open Value

/-- Whether the number of rows before the page has a text. -/
def QueryPlan.Shown (p : QueryPlan) : Prop := ∀ w ∈ p.page, ∀ v, w.offset = .ok v → HasText v

theorem Planner.sort_of_alike {p : Planner} {a b : Request} {default : Value} (h : a.Alike b) :
    p.sort a default = p.sort b default := by
  rw [sort, sort, SortSpec.ofRequest, SortSpec.ofRequest, h.sortKeys]

namespace Sqlite

theorem limit_of_plan {p : Planner} {request : Request} {default : Value} {plan : QueryPlan}
    (h : p.plan request default = .ok plan) :
    ∃ skip, limit plan.page =
        .ok (if request.pageSize = 0 then "" else "LIMIT ? OFFSET ?", skip) ∧
      skip.length = (if request.pageSize = 0 then 0 else 2) ∧
      (plan.Shown ↔ ∀ v ∈ skip, HasText v) := by
  obtain ⟨_, _, hpage, hnoted⟩ := Planner.plan_ok.mp h
  obtain ⟨_, _, hnumbers⟩ := QueryPlan.noted_ok.mp hnoted
  rw [QueryPlan.Shown, hpage, limit_ofRequest]
  rw [hpage] at hnumbers
  by_cases hall : request.pageSize = 0
  · simp [PageWindow.ofRequest, hall]
  · rw [PageWindow.ofRequest, if_neg hall] at hnumbers ⊢
    have hsize := (hnumbers _ rfl).2
    simp only [if_neg hall]
    refine ⟨_, rfl, rfl, ?_⟩
    have hoffset : ∀ index size : Int,
        PageWindow.offset ⟨.int index, .int size⟩ = .ok (.int (index * size)) := fun _ _ => rfl
    simpa [hoffset] using fun _ => hsize

theorem session_of_withoutValues (s : Refusals) (path : Value) {body body' : List Action}
    (h : body.map Action.withoutValues = body'.map Action.withoutValues) :
    (withConnection s path false body).session.map Event.withoutValues =
      (withConnection s path false body').session.map Event.withoutValues := by
  have hsession := congrArg Outcome.session (withConnection_withoutValues s path false body)
  rw [h, withConnection_withoutValues] at hsession
  exact hsession.symm

theorem execute_withoutValues {sql : String} {vs vs' : List Value} (h : vs.length = vs'.length) :
    (Event.execute sql (some vs)).withoutValues = (Event.execute sql (some vs')).withoutValues := by
  simp only [Event.withoutValues, Option.map_some, List.map_const', h]

namespace Store

def findFor (t : Store) (r : Refusals) (rows : List Value) (plan : QueryPlan) :
    Reply (List Value) :=
  t.find r rows (Node.ofPredicate? plan.predicate) plan.sort plan.page

def countFor (t : Store) (r : Refusals) (rows : List Value) (plan : QueryPlan) : Reply Value :=
  t.count r rows (Node.ofPredicate? plan.predicate)

structure Counts (t : Store) (plan : QueryPlan) (q : Statement) : Prop where
  made : t.countStatement (Node.ofPredicate? plan.predicate) = .ok q
  runs : ∀ rows, Runs q fun r => (t.countFor r rows plan).session
  noted : ∀ v ∈ q.params, HasText v

/-- Finding for a plan executes one statement if the rows to skip can be noted, and otherwise never
comes to a session. -/
structure Finds (t : Store) (plan : QueryPlan) (q : Statement) : Prop where
  made : plan.Shown →
    t.findStatement (Node.ofPredicate? plan.predicate) plan.sort plan.page = .ok q
  runs : ∀ rows, Runs q fun r => (t.findFor r rows plan).session
  noted : (∀ v ∈ q.params, HasText v) ↔ plan.Shown
  stopped : ¬ plan.Shown → ∃ f, ∀ r rows, t.findFor r rows plan = ⟨[], .error f⟩

variable {t : Store} {table : String} {plan planA planB : QueryPlan} {clause : Clause}
  {order part sql : String} {skip vs ws : List Value}

/-- A compiled predicate has a clause whose values have texts, and whose own text comes from the
outline of the predicate. -/
theorem clauseOf_compiled (hl : t.layout.Named) (hrefused : t.layout.refused = []) {r : Resolver}
    {s : SearchSet} {request : Request} {p : Option Predicate}
    (hsearched : ∀ v ∈ s.fields, ∃ name, v = .text name)
    (h : (Predicate.ofRequestWith r (.ok s) request).outcome = .ok p) :
    ∃ clause, t.clauseOf (Node.ofPredicate? p) = .ok clause ∧ (∀ v ∈ clause.bound, HasText v) ∧
      ∃ d, t.clauseOf (Node.ofPredicate? (p.map (Formula.map Comparison.outline))) = .ok d ∧
        d.SameText clause := by
  cases p with
  | none => exact ⟨.constant true, rfl, by simp [Clause.bound], .constant true, rfl, rfl, rfl⟩
  | some p =>
    have hwell := Predicate.wellFormed_of_compiled h
    obtain ⟨_, _, _, _, _, htext⟩ := Predicate.compiled_ok h
    have hfields := Predicate.field_of_compiled (fun s hs => Except.ok.inj hs ▸ hsearched) h
    have hconverted : ∀ {q : Predicate} {clause : Clause},
        lower t.layout (Node.ofPredicate q) = .ok clause →
          t.clauseOf (Node.ofPredicate q) = .ok clause := by
      intro q clause hclause
      rw [clauseOf, convert_of_lower hrefused hclause]
    obtain ⟨clause, hclause⟩ := lower_of_atoms fun c hc =>
      comparisonClause_of_wellFormed hl (hwell c hc) (hfields c hc)
    obtain ⟨d, hd, hsame⟩ := lower_outline hclause
    refine ⟨clause, hconverted hclause, fun v hv => ?_, d, hconverted hd, hsame⟩
    obtain ⟨c, hc, hv⟩ := bound_of_lower hclause v hv
    exact Comparison.operands_hasText (hwell c hc) (Node.hasText_ofPredicate.mp htext c hc) v hv

theorem clauses_of_alike (hl : t.layout.Named) (hrefused : t.layout.refused = []) {r : Resolver}
    {s : SearchSet} {a b : Request} {p q : Option Predicate}
    (hsearched : ∀ v ∈ s.fields, ∃ name, v = .text name) (h : a.Alike b)
    (hp : (Predicate.ofRequestWith r (.ok s) a).outcome = .ok p)
    (hq : (Predicate.ofRequestWith r (.ok s) b).outcome = .ok q) :
    ∃ c d, t.clauseOf (Node.ofPredicate? p) = .ok c ∧ t.clauseOf (Node.ofPredicate? q) = .ok d ∧
      (∀ v ∈ c.bound, HasText v) ∧ (∀ v ∈ d.bound, HasText v) ∧
      c.text = d.text ∧ c.bound.length = d.bound.length := by
  have houtline := Predicate.outline_of_alike h hp hq
  obtain ⟨c, hc, htextsC, shared, hshared, hsameC⟩ := clauseOf_compiled hl hrefused hsearched hp
  obtain ⟨d, hd, htextsD, shared', hshared', hsameD⟩ := clauseOf_compiled hl hrefused hsearched hq
  -- each clause is written as that of its outline, and the outlines are one
  rw [houtline] at hshared
  obtain rfl := Except.ok.inj (hshared.symm.trans hshared')
  refine ⟨c, d, hc, hd, htextsC, htextsD, ?_, hsameC.bound.symm.trans hsameD.bound⟩
  rw [Clause.text, Clause.text, ← hsameC.chars, hsameD.chars]

theorem countSql_congr {c d : Clause} (h : c.text = d.text) :
    countSql table c = countSql table d := by
  unfold countSql
  rw [h]

theorem selectSql_congr {c d : Clause} (h : c.text = d.text) (order part : String) :
    selectSql table c order part = selectSql table d order part := by
  unfold selectSql
  rw [h]

theorem noted_error {q : Statement} (h : ¬ ∀ v ∈ q.params, HasText v) :
    ∃ f, Store.noted q = .error f := by
  cases hnoted : Store.noted q with
  | error f => exact ⟨f, rfl⟩
  | ok made =>
    obtain ⟨rfl, hall⟩ := noted_made.mp hnoted
    exact absurd hall h

/-- Once a predicate and a page are written, only the order and the note of the statement can stop a
find. -/
theorem findStatement_of_clause (htable : t.table = .text table)
    (hclause : t.clauseOf (Node.ofPredicate? plan.predicate) = .ok clause)
    (hlimit : limit plan.page = .ok (part, skip)) :
    t.findStatement (Node.ofPredicate? plan.predicate) plan.sort plan.page =
      (t.order plan.sort).bind fun order =>
        Store.noted
          ⟨selectSql (quoteIdentifier table) clause order part, clause.bound ++ skip⟩ := by
  rw [findStatement, Store.order, hclause, hlimit, quotedTable_ok htable]
  cases checkSort t.resolver plan.sort with
  | error f => rfl
  | ok _ => cases orderBy t.layout plan.sort <;> rfl

theorem findFor_error {f : Fault}
    (h : t.findStatement (Node.ofPredicate? plan.predicate) plan.sort plan.page = .error f)
    (r : Refusals) (rows : List Value) : t.findFor r rows plan = ⟨[], .error f⟩ := by
  rw [findFor, find, h]

theorem findFor_of_unwritten (htable : t.table = .text table)
    (hclause : t.clauseOf (Node.ofPredicate? plan.predicate) = .ok clause)
    (hlimit : limit plan.page = .ok (part, skip)) {f : Fault} (hf : t.order plan.sort = .error f)
    (r : Refusals) (rows : List Value) : t.findFor r rows plan = ⟨[], .error f⟩ := by
  have hmade := findStatement_of_clause htable hclause hlimit
  rw [hf] at hmade
  exact findFor_error hmade r rows

theorem counts_of_clause (htable : t.table = .text table)
    (hclause : t.clauseOf (Node.ofPredicate? plan.predicate) = .ok clause)
    (htexts : ∀ v ∈ clause.bound, HasText v) :
    t.Counts plan ⟨countSql (quoteIdentifier table) clause, clause.bound⟩ :=
  ⟨countStatement_ok htable hclause htexts, runs_count htable hclause, htexts⟩

theorem finds_of_clause (htable : t.table = .text table)
    (hclause : t.clauseOf (Node.ofPredicate? plan.predicate) = .ok clause)
    (htexts : ∀ v ∈ clause.bound, HasText v) (hlimit : limit plan.page = .ok (part, skip))
    (hshown : plan.Shown ↔ ∀ v ∈ skip, HasText v) (horder : t.order plan.sort = .ok order) :
    t.Finds plan
      ⟨selectSql (quoteIdentifier table) clause order part, clause.bound ++ skip⟩ := by
  have hnoted : (∀ v ∈ clause.bound ++ skip, HasText v) ↔ plan.Shown := by
    rw [hshown, List.forall_mem_append]
    exact and_iff_right htexts
  have hmade := findStatement_of_clause htable hclause hlimit
  rw [horder] at hmade
  constructor
  · intro h
    exact hmade.trans (noted_ok.mpr (hnoted.mpr h))
  · exact runs_find htable hclause horder hlimit
  · exact hnoted
  · intro h
    have hstopped : ∃ f, Store.noted
        ⟨selectSql (quoteIdentifier table) clause order part, clause.bound ++ skip⟩ = .error f :=
      noted_error (mt hnoted.mp h)
    obtain ⟨f, hf⟩ := hstopped
    exact ⟨f, findFor_error (hmade.trans hf)⟩

theorem Counts.withoutValues (hlength : vs.length = ws.length) (hA : t.Counts planA ⟨sql, vs⟩)
    (hB : t.Counts planB ⟨sql, ws⟩) (r : Refusals) (rows rows' : List Value) :
    (t.countFor r rows planA).session.map Event.withoutValues =
      (t.countFor r rows' planB).session.map Event.withoutValues := by
  rw [countFor, countFor, session_count hA.made, session_count hB.made]
  refine session_of_withoutValues r t.path ?_
  simp only [List.map_cons, Action.withoutValues, execute_withoutValues hlength]

theorem Finds.withoutValues (hlength : vs.length = ws.length) (hA : t.Finds planA ⟨sql, vs⟩)
    (hB : t.Finds planB ⟨sql, ws⟩) (hshown : planA.Shown ↔ planB.Shown) (r : Refusals)
    (rows rows' : List Value) :
    (t.findFor r rows planA).session.map Event.withoutValues =
      (t.findFor r rows' planB).session.map Event.withoutValues := by
  by_cases hshownA : planA.Shown
  · rw [findFor, findFor, session_find (hA.made hshownA),
      session_find (hB.made (hshown.mp hshownA))]
    refine session_of_withoutValues r t.path ?_
    simp only [List.map_cons, Action.withoutValues, execute_withoutValues hlength]
  · obtain ⟨f, hf⟩ := hA.stopped hshownA
    obtain ⟨g, hg⟩ := hB.stopped fun hshownB => hshownA (hshown.mpr hshownB)
    rw [hf, hg]

/-- The plans of alike requests execute the same texts, with as many values bound to them, and so
make the same calls but for these values. Only an order that cannot be written, as with a field that
the resolver of the store does not know, keeps both finds from a session, and a number of rows to
skip with too many digits for a text keeps the find of its own plan from one. -/
theorem statements_hide_values {p : Planner} {default : Value} {a b : Request}
    (hsearched : ∀ v ∈ p.attributes.fields, ∃ name, v = .text name)
    (hl : t.layout.Named) (hrefused : t.layout.refused = []) (htable : t.table = .text table)
    (h : a.Alike b) (hA : p.plan a default = .ok planA) (hB : p.plan b default = .ok planB) :
    planA.sort = planB.sort ∧
    (∃ sql as bs, as.length = bs.length ∧
      t.Counts planA ⟨sql, as⟩ ∧ t.Counts planB ⟨sql, bs⟩) ∧
    (∀ order, t.order planA.sort = .ok order → ∃ sql as bs, as.length = bs.length ∧
      t.Finds planA ⟨sql, as⟩ ∧ t.Finds planB ⟨sql, bs⟩) ∧
    (∀ f, t.order planA.sort = .error f → ∀ r rows,
      t.findFor r rows planA = ⟨[], .error f⟩ ∧ t.findFor r rows planB = ⟨[], .error f⟩) ∧
    ((∀ o ∈ planA.sort, ∃ name, o.field = .text name) →
      ((∃ order, t.order planA.sort = .ok order) ↔ t.Knows planA.sort)) ∧
    ∀ r rows rows',
      (t.countFor r rows planA).session.map Event.withoutValues =
        (t.countFor r rows' planB).session.map Event.withoutValues ∧
      ((planA.Shown ↔ planB.Shown) →
        (t.findFor r rows planA).session.map Event.withoutValues =
          (t.findFor r rows' planB).session.map Event.withoutValues) := by
  obtain ⟨hpredA, hsortA, _, _⟩ := Planner.plan_ok.mp hA
  obtain ⟨hpredB, hsortB, _, _⟩ := Planner.plan_ok.mp hB
  have hsort : planA.sort = planB.sort := by
    rw [Planner.sort_of_alike h] at hsortA
    exact Except.ok.inj (hsortA.symm.trans hsortB)
  obtain ⟨cA, cB, hcA, hcB, htextsA, htextsB, htext, hbound⟩ :=
    clauses_of_alike hl hrefused hsearched h hpredA hpredB
  obtain ⟨skipA, hlimitA, hlengthA, hshownA⟩ := limit_of_plan hA
  obtain ⟨skipB, hlimitB, hlengthB, hshownB⟩ := limit_of_plan hB
  simp only [h.paged] at hlimitA hlengthA
  have hlength : (cA.bound ++ skipA).length = (cB.bound ++ skipB).length := by
    rw [List.length_append, List.length_append, hbound, hlengthA, hlengthB]
  have hcountsA := counts_of_clause htable hcA htextsA
  have hcountsB := counts_of_clause htable hcB htextsB
  rw [countSql_congr htext] at hcountsA
  have hfinds : ∀ order, t.order planA.sort = .ok order → ∃ sql as bs, as.length = bs.length ∧
      t.Finds planA ⟨sql, as⟩ ∧ t.Finds planB ⟨sql, bs⟩ := by
    intro order horder
    have hfindsA := finds_of_clause htable hcA htextsA hlimitA hshownA horder
    have hfindsB := finds_of_clause htable hcB htextsB hlimitB hshownB (hsort ▸ horder)
    rw [selectSql_congr htext] at hfindsA
    exact ⟨_, _, _, hlength, hfindsA, hfindsB⟩
  have hstopped : ∀ f, t.order planA.sort = .error f → ∀ r rows,
      t.findFor r rows planA = ⟨[], .error f⟩ ∧ t.findFor r rows planB = ⟨[], .error f⟩ := by
    intro f hf r rows
    exact ⟨findFor_of_unwritten htable hcA hlimitA hf r rows,
      findFor_of_unwritten htable hcB hlimitB (hsort ▸ hf) r rows⟩
  have hknown : (∀ o ∈ planA.sort, ∃ name, o.field = .text name) →
      ((∃ order, t.order planA.sort = .ok order) ↔ t.Knows planA.sort) := by
    intro hfields
    constructor
    · rintro ⟨order, horder⟩
      exact (order_ok.mp horder).1
    · intro hknows
      obtain ⟨order, hwritten⟩ := orderBy_text hl hfields
      exact ⟨order, order_ok.mpr ⟨hknows, hwritten⟩⟩
  refine ⟨hsort, ⟨_, _, _, hbound, hcountsA, hcountsB⟩, hfinds, hstopped, hknown,
    fun r rows rows' =>
      ⟨hcountsA.withoutValues hbound hcountsB r rows rows', fun hshown => ?_⟩⟩
  cases horder : t.order planA.sort with
  | error f =>
    rw [(hstopped f horder r rows).1, (hstopped f horder r rows').2]
  | ok order =>
    obtain ⟨sql, as, bs, hsame, hfindsA, hfindsB⟩ := hfinds order horder
    exact hfindsA.withoutValues hsame hfindsB hshown r rows rows'

end Store

namespace Example

/-- A global search beside a list and a question for null, on some page. -/
def pageOf (offset pageSize : Nat) (needle : String) (years : Value) : Request :=
  { offset := offset
    pageSize := pageSize
    sortKeys := [⟨"born", some (-1)⟩]
    criteria := [("all", [⟨.text needle, none, none⟩]),
      ("born", [⟨years, some .isIn, some .all⟩, ⟨.null, some .notEquals, none⟩])]
    globalField := .text "all" }

def harmless : Request := pageOf 47 20 "ada" (.tuple [.text "1815", .text "1816"])

def hostile : Request := pageOf 0 5 "' or 1=1 --" (.list [.null, .text "?"])

def planner : Planner := ⟨mixedFields, ⟨mixedSearch⟩, .null⟩

def planOf (needle : String) (years : List Value) (index size : Int) : QueryPlan :=
  { predicate := some (.junction .all [
      .junction .any [.atom ⟨.text "na\"me?", .like, [.text ("%" ++ needle ++ "%")], true⟩,
        leaf "born" .eq [.text needle]],
      .junction .all [leaf "born" .isIn years, leaf "born" .ne [.null]]])
    sort := [⟨.text "born", false⟩]
    page := some ⟨.int index, .int size⟩ }

def harmlessPlan : QueryPlan := planOf "ada" [.text "1815", .text "1816"] 2 20

def hostilePlan : QueryPlan := planOf "' or 1=1 --" [.null, .text "?"] 0 5

theorem hasText_small {n : Int} (h : n.natAbs < 100) : HasText (.int n) :=
  hasText_of_digits (k := 2) (by decide) h

theorem noted_planOf {needle : String} {years : List Value} {index size : Int}
    (hindex : index.natAbs < 100) (hsize : size.natAbs < 100) :
    (planOf needle years index size).noted = .ok (planOf needle years index size) := by
  refine QueryPlan.noted_ok.mpr ⟨rfl, ?_, ?_⟩
  · simpa [planOf] using ⟨_, rfl⟩
  · simpa [planOf] using ⟨hasText_small hindex, hasText_small hsize⟩

theorem shown_planOf {needle : String} {years : List Value} {index size : Int}
    (h : (index * size).natAbs < 100) : (planOf needle years index size).Shown := by
  have hoffset : PageWindow.offset ⟨.int index, .int size⟩ = .ok (.int (index * size)) := rfl
  simpa [QueryPlan.Shown, planOf, hoffset] using hasText_small h

theorem plan_harmless : planner.plan harmless .null = .ok harmlessPlan :=
  Planner.plan_ok.mpr ⟨by cbv, rfl, rfl, noted_planOf (by decide) (by decide)⟩

theorem plan_hostile : planner.plan hostile .null = .ok hostilePlan :=
  Planner.plan_ok.mpr ⟨by cbv, rfl, rfl, noted_planOf (by decide) (by decide)⟩

end Example

theorem Store.statements_hide_values_hostile :
    Example.harmless.Alike Example.hostile ∧
    Example.planner.plan Example.harmless .null = .ok Example.harmlessPlan ∧
    Example.planner.plan Example.hostile .null = .ok Example.hostilePlan ∧
    ∃ sql as bs, as.length = bs.length ∧
      queries (Example.people.findFor Example.unhindered [] Example.harmlessPlan).session =
        [⟨sql, as⟩] ∧
      queries (Example.people.findFor Example.unhindered [] Example.hostilePlan).session =
        [⟨sql, bs⟩] := by
  have hsearched : ∀ v ∈ Example.planner.attributes.fields, ∃ name, v = .text name := by
    simp [Example.planner, Example.mixedSearch]
  have hl : Example.people.layout.Named := ⟨⟨none, rfl⟩, fun _ => ⟨"o?", rfl⟩⟩
  have halike : Example.harmless.Alike Example.hostile :=
    ⟨rfl, rfl, rfl, by simp [Example.harmless, Example.hostile, Example.pageOf]⟩
  have hknows : Example.people.Knows Example.harmlessPlan.sort := by
    apply checkSort_ok.mp
    cbv
  have hfields : ∀ o ∈ Example.harmlessPlan.sort, ∃ name, o.field = .text name := by
    simp [Example.harmlessPlan, Example.planOf]
  obtain ⟨_, _, hfinds, _, hknown, _⟩ := Store.statements_hide_values (t := Example.people) hsearched
    hl rfl rfl halike Example.plan_harmless Example.plan_hostile
  obtain ⟨order, horder⟩ := (hknown hfields).mpr hknows
  obtain ⟨sql, as, bs, hlength, hA, hB⟩ := hfinds order horder
  have hnever : Example.unhindered.Never := fun _ _ => rfl
  have hshown : Example.harmlessPlan.Shown ∧ Example.hostilePlan.Shown :=
    ⟨Example.shown_planOf (by decide), Example.shown_planOf (by decide)⟩
  exact ⟨halike, Example.plan_harmless, Example.plan_hostile, sql, as, bs, hlength,
    (hA.runs []).all (hA.noted.mpr hshown.1) _ hnever,
    (hB.runs []).all (hB.noted.mpr hshown.2) _ hnever⟩

namespace Example

def everyRow (offset pageSize : Nat) : Request := ⟨offset, pageSize, [], [], .null⟩

def everyRowPlan (index size : Int) : QueryPlan := ⟨none, [], some ⟨.int index, .int size⟩⟩

theorem everyRow_alike {offset offset' pageSize pageSize' : Nat} (h : 0 < pageSize)
    (h' : 0 < pageSize') : (everyRow offset pageSize).Alike (everyRow offset' pageSize') :=
  ⟨rfl, rfl, rfl, iff_of_false (Nat.ne_of_gt h) (Nat.ne_of_gt h')⟩

theorem plan_everyRow (index : Nat) {size : Nat} (hsize : 0 < size)
    (hindexText : HasText (.int index)) (hsizeText : HasText (.int size)) :
    planner.plan (everyRow (index * size) size) .null = .ok (everyRowPlan index size) := by
  have hpage : PageWindow.ofRequest (everyRow (index * size) size) =
      some ⟨.int index, .int size⟩ := by
    rw [PageWindow.ofRequest, everyRow, if_neg (Nat.ne_of_gt hsize), Nat.mul_div_cancel _ hsize]
  refine Planner.plan_ok.mpr ⟨rfl, rfl, hpage.symm, QueryPlan.noted_ok.mpr ⟨rfl, ?_, ?_⟩⟩
  · simp [everyRowPlan]
  · simpa [everyRowPlan] using ⟨hindexText, hsizeText⟩

theorem hasText_power {d : Nat} (h : d < greatestDigits) :
    HasText (.int ((10 ^ d : Nat) : Int)) := by
  apply hasText_of_digits h
  rw [Int.natAbs_natCast]
  exact Nat.pow_lt_pow_right (by decide) (Nat.lt_succ_self d)

theorem finds_everyRow (index : Int) {size : Int} (hsize : HasText (.int size)) :
    people.Finds (everyRowPlan index size)
      ⟨"SELECT * FROM \"people\" WHERE 1=1 LIMIT ? OFFSET ?",
        [.int size, .int (index * size)]⟩ := by
  have hlimit : limit (everyRowPlan index size).page =
      .ok ("LIMIT ? OFFSET ?", [.int size, .int (index * size)]) := rfl
  have hshown : (everyRowPlan index size).Shown ↔
      ∀ v ∈ [Value.int size, .int (index * size)], HasText v := by
    have hoffset : PageWindow.offset ⟨.int index, .int size⟩ = .ok (.int (index * size)) := rfl
    simp [QueryPlan.Shown, everyRowPlan, hoffset, hsize]
  have htable : people.table = .text "people" := rfl
  have hclause : people.clauseOf (Node.ofPredicate? (everyRowPlan index size).predicate) =
      .ok (.constant true) := rfl
  have horder : people.order (everyRowPlan index size).sort = .ok "" := rfl
  have hsql : Store.selectSql (quoteIdentifier "people") (.constant true) "" "LIMIT ? OFFSET ?" =
      "SELECT * FROM \"people\" WHERE 1=1 LIMIT ? OFFSET ?" := by decide
  rw [← hsql]
  exact Store.finds_of_clause htable hclause (by simp [Clause.bound]) hlimit hshown horder

theorem session_far {d : Nat} (h : d < greatestDigits) (hfar : greatestDigits ≤ d + d)
    (r : Refusals) (rows : List Value) :
    (people.findFor r rows (everyRowPlan (10 ^ d : Nat) (10 ^ d : Nat))).session = [] := by
  have hfinds := finds_everyRow (10 ^ d : Nat) (hasText_power h)
  have hlost : ¬ (everyRowPlan (10 ^ d : Nat) (10 ^ d : Nat)).Shown := by
    intro hshown
    -- the number of rows before the page is bound, so it would have to be shown
    have hproduct := hfinds.noted.mpr hshown (.int ((10 ^ d : Nat) * (10 ^ d : Nat))) (by simp)
    rw [Nat.cast_pow] at hproduct
    exact not_hasText_far hfar hproduct
  obtain ⟨f, hf⟩ := hfinds.stopped hlost
  rw [hf]

/-- Every row, in the order of a field that is not known. -/
def byNobody : Request := ⟨0, 0, [⟨"nobody", none⟩], [], .null⟩

def byNobodyPlan : QueryPlan := ⟨none, [⟨.text "nobody", true⟩], none⟩

theorem plan_byNobody : planner.plan byNobody .null = .ok byNobodyPlan := by
  refine Planner.plan_ok.mpr ⟨rfl, rfl, rfl, QueryPlan.noted_ok.mpr ⟨rfl, ?_, ?_⟩⟩
  · simpa [byNobodyPlan] using ⟨_, rfl⟩
  · simp [byNobodyPlan]

end Example

/-- Two requests for every row, one for the first page and one for a page far out, both have plans,
but only the find of the first executes anything; neither does one in an order by a field that is
not known to the store. -/
theorem Store.plans_not_found :
    (Example.everyRow 0 5).Alike (Example.everyRow (10 ^ 4000 * 10 ^ 4000) (10 ^ 4000)) ∧
    ∃ near far,
      Example.planner.plan (Example.everyRow 0 5) .null = .ok near ∧
      Example.planner.plan (Example.everyRow (10 ^ 4000 * 10 ^ 4000) (10 ^ 4000)) .null = .ok far ∧
      queries (Example.people.findFor Example.unhindered [] near).session =
        [⟨"SELECT * FROM \"people\" WHERE 1=1 LIMIT ? OFFSET ?", [.int 5, .int 0]⟩] ∧
      queries (Example.people.findFor Example.unhindered [] far).session = [] ∧
    Example.planner.plan Example.byNobody .null = .ok Example.byNobodyPlan ∧
      queries (Example.people.findFor Example.unhindered [] Example.byNobodyPlan).session = [] := by
  have hpositive : ∀ d, 0 < 10 ^ d := fun d => Nat.pow_pos (by decide)
  have htext : HasText (.int ((10 ^ 4000 : Nat) : Int)) := Example.hasText_power (by decide)
  have hfirst : HasText (.int 0) := Example.hasText_small (by decide)
  have hfive : HasText (.int 5) := Example.hasText_small (by decide)
  have hnear : Example.planner.plan (Example.everyRow 0 5) .null = .ok (Example.everyRowPlan 0 5) :=
    Example.plan_everyRow 0 (by decide) hfirst hfive
  have hfar := Example.plan_everyRow (10 ^ 4000) (hpositive 4000) htext htext
  refine ⟨Example.everyRow_alike (by decide) (hpositive 4000), _, _, hnear, hfar, ?_, ?_,
    Example.plan_byNobody, by cbv⟩
  · have hfinds := Example.finds_everyRow 0 hfive
    apply (hfinds.runs []).all
    · simp [hfirst, hfive]
    · intro c n
      rfl
  · rw [Example.session_far (by decide) (by decide)]
    rfl

end Sqlite
end TableQuery
