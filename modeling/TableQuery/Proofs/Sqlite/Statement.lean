import TableQuery.Proofs.Literal
import TableQuery.Proofs.Sqlite.Conversion
import TableQuery.Sqlite.Store

/-!
# Statements of a store

A plan, and each statement made for one, is noted before it is used, so it exists just if its parts
can be written and the values in it have texts. A session depends on its statement alone.
-/
namespace TableQuery

open Value

namespace QueryPlan

theorem noted_ok {p q : QueryPlan} : p.noted = .ok q ↔
    p = q ∧ (∀ o ∈ p.sort, HasText o.field) ∧ ∀ w ∈ p.page, HasText w.index ∧ HasText w.size := by
  have hsort : (∃ ts, literals (p.sort.map SortOrder.field) = .ok ts) ↔
      ∀ o ∈ p.sort, HasText o.field := by
    rw [literals_ok, List.forall_mem_map]
  have hpage : (∃ ts, literals (p.page.elim [] fun w => [w.index, w.size]) = .ok ts) ↔
      ∀ w ∈ p.page, HasText w.index ∧ HasText w.size := by
    rw [literals_ok]
    cases p.page <;> simp
  rw [← hsort, ← hpage]
  constructor
  · intro h
    obtain ⟨_, hfields, h⟩ := Outcome.bind_ok.mp h
    obtain ⟨_, hnumbers, h⟩ := Outcome.bind_ok.mp h
    exact ⟨Except.ok.inj h, ⟨_, hfields⟩, ⟨_, hnumbers⟩⟩
  · rintro ⟨rfl, ⟨_, hfields⟩, ⟨_, hnumbers⟩⟩
    exact Outcome.bind_ok.mpr ⟨_, hfields, Outcome.bind_ok.mpr ⟨_, hnumbers, rfl⟩⟩

end QueryPlan

namespace Planner

variable {p : Planner} {request : Request} {default : Value} {plan : QueryPlan}

theorem plan_ok : p.plan request default = .ok plan ↔
    (p.compile request).outcome = .ok plan.predicate ∧
      p.sort request default = .ok plan.sort ∧ plan.page = PageWindow.ofRequest request ∧
      plan.noted = .ok plan := by
  constructor
  · intro h
    obtain ⟨predicate, hpredicate, h⟩ := Outcome.bind_ok.mp h
    obtain ⟨sort, hsort, h⟩ := Outcome.bind_ok.mp h
    obtain ⟨rfl, _⟩ := QueryPlan.noted_ok.mp h
    exact ⟨hpredicate, hsort, rfl, h⟩
  · rintro ⟨hpredicate, hsort, hpage, hnoted⟩
    refine Outcome.bind_ok.mpr ⟨_, hpredicate, Outcome.bind_ok.mpr ⟨_, hsort, ?_⟩⟩
    rwa [← hpage]

end Planner

namespace Sqlite

theorem limit_ofRequest (request : Request) : limit (PageWindow.ofRequest request) =
    .ok (if request.pageSize = 0 then ("", [])
      else ("LIMIT ? OFFSET ?", [.int request.pageSize,
        .int ((request.offset / request.pageSize : Nat) * request.pageSize)])) := by
  unfold PageWindow.ofRequest
  by_cases hall : request.pageSize = 0
  · rw [if_pos hall, if_pos hall]
    rfl
  · rw [if_neg hall, if_neg hall]
    rfl

theorem orderBy_text {l : Layout} (hl : l.Named) {sort : SortSpec}
    (hfields : ∀ o ∈ sort, ∃ name, o.field = .text name) : ∃ order, orderBy l sort = .ok order := by
  have hkeys : ∀ o ∈ sort, ∃ key, orderKey l o = .ok key := by
    intro o ho
    obtain ⟨name, hname⟩ := hfields o ho
    obtain ⟨ref, href⟩ := reference_text hl name
    exact ⟨_, by rw [orderKey, hname, href]; rfl⟩
  obtain ⟨keys, hkeys⟩ := Outcome.forall₂_of_exists hkeys
  rw [orderBy, Outcome.mapM_ok.mpr hkeys]
  split <;> exact ⟨_, rfl⟩

namespace Store

variable {t : Store} {table : String}

/-- The order of a statement, once its fields are known to the resolver of the store. -/
def order (t : Store) (sort : SortSpec) : Except Fault String := do
  checkSort t.resolver sort
  orderBy t.layout sort

theorem noted_ok {q : Statement} : noted q = .ok q ↔ ∀ v ∈ q.params, HasText v := by
  rw [← literals_ok, noted]
  cases literals q.params <;> simp [Except.map]

theorem quotedTable_ok (htable : t.table = .text table) :
    t.quotedTable = .ok (quoteIdentifier table) := by
  rw [quotedTable, htable]
  rfl

theorem countStatement_ok (htable : t.table = .text table) {n : Node} {clause : Clause}
    (hclause : t.clauseOf n = .ok clause) (htexts : ∀ v ∈ clause.bound, HasText v) :
    t.countStatement n = .ok ⟨countSql (quoteIdentifier table) clause, clause.bound⟩ := by
  refine Outcome.bind_ok.mpr ⟨clause, hclause, Outcome.bind_ok.mpr ⟨_, quotedTable_ok htable, ?_⟩⟩
  exact noted_ok.mpr htexts

theorem noted_made {q made : Statement} :
    noted q = .ok made ↔ q = made ∧ ∀ v ∈ made.params, HasText v := by
  constructor
  · intro h
    obtain ⟨_, _, rfl⟩ := Outcome.map_ok.mp h
    exact ⟨rfl, noted_ok.mp h⟩
  · rintro ⟨rfl, htexts⟩
    exact noted_ok.mpr htexts

theorem countStatement_made (htable : t.table = .text table) {n : Node} {q : Statement} :
    t.countStatement n = .ok q ↔ ∃ clause, t.clauseOf n = .ok clause ∧
      q = ⟨countSql (quoteIdentifier table) clause, clause.bound⟩ ∧ ∀ v ∈ q.params, HasText v := by
  constructor
  · intro h
    obtain ⟨clause, hclause, h⟩ := Outcome.bind_ok.mp h
    obtain ⟨_, hquoted, h⟩ := Outcome.bind_ok.mp h
    obtain rfl := Except.ok.inj ((quotedTable_ok htable).symm.trans hquoted)
    obtain ⟨hq, htexts⟩ := noted_made.mp h
    exact ⟨clause, hclause, hq.symm, htexts⟩
  · rintro ⟨clause, hclause, rfl, htexts⟩
    exact countStatement_ok htable hclause htexts

theorem findStatement_made (htable : t.table = .text table) {n : Node} {sort : SortSpec}
    {page : Option PageWindow} {q : Statement} :
    t.findStatement n sort page = .ok q ↔ ∃ clause order part skip,
      t.clauseOf n = .ok clause ∧ t.order sort = .ok order ∧ limit page = .ok (part, skip) ∧
      q = ⟨selectSql (quoteIdentifier table) clause order part, clause.bound ++ skip⟩ ∧
      ∀ v ∈ q.params, HasText v := by
  constructor
  · intro h
    obtain ⟨_, hsort, h⟩ := Outcome.bind_ok.mp h
    obtain ⟨clause, hclause, h⟩ := Outcome.bind_ok.mp h
    obtain ⟨order, horder, h⟩ := Outcome.bind_ok.mp h
    obtain ⟨⟨part, skip⟩, hlimit, h⟩ := Outcome.bind_ok.mp h
    obtain ⟨_, hquoted, h⟩ := Outcome.bind_ok.mp h
    obtain rfl := Except.ok.inj ((quotedTable_ok htable).symm.trans hquoted)
    obtain ⟨hq, htexts⟩ := noted_made.mp h
    exact ⟨clause, order, part, skip, hclause, Outcome.bind_ok.mpr ⟨_, hsort, horder⟩, hlimit,
      hq.symm, htexts⟩
  · rintro ⟨clause, order, part, skip, hclause, horder, hlimit, rfl, htexts⟩
    obtain ⟨_, hsort, hwritten⟩ := Outcome.bind_ok.mp horder
    refine Outcome.bind_ok.mpr ⟨_, hsort, Outcome.bind_ok.mpr ⟨clause, hclause, ?_⟩⟩
    refine Outcome.bind_ok.mpr ⟨order, hwritten, Outcome.bind_ok.mpr ⟨(part, skip), hlimit, ?_⟩⟩
    exact Outcome.bind_ok.mpr ⟨_, quotedTable_ok htable, noted_ok.mpr htexts⟩

theorem session_answer {α : Type} (s : Refusals) (body : List Action) (shaped : Except Fault α) :
    (t.answer s body shaped).session = (withConnection s t.path false body).session := by
  unfold answer
  dsimp only
  split <;> rfl

theorem session_count {s : Refusals} {rows : List Value} {n : Node} {q : Statement}
    (h : t.countStatement n = .ok q) :
    (t.count s rows n).session = (withConnection s t.path false
      [.perform (.execute q.sql (some q.params)), .perform .fetchOne]).session := by
  rw [count, h]
  exact session_answer s _ _

theorem session_find {s : Refusals} {rows : List Value} {n : Node} {sort : SortSpec}
    {page : Option PageWindow} {q : Statement} (h : t.findStatement n sort page = .ok q) :
    (t.find s rows n sort page).session = (withConnection s t.path false
      [.perform .rowFactory, .perform (.execute q.sql (some q.params)),
        .perform .fetchAll]).session := by
  rw [find, h]
  exact session_answer s _ _

end Store

namespace Example

def people : Store := ⟨.text "p.db", .text "people", mixedFields, inObjects⟩

end Example

end Sqlite
end TableQuery
