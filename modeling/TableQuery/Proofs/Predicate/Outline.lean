import TableQuery.Plan
import TableQuery.Proofs.Predicate.Structure

/-!
# Outlines

What can be seen of a value from outside: whether there is one, and of a sequence how many items it
has. An outline is what remains of a comparison when its operands may be seen from outside only.
Requests that look alike from outside compile to predicates with one outline, since nothing but the
operands of a comparison is made of a value.
-/
namespace TableQuery

namespace Value

inductive Shape where
  | null
  | single
  | many (count : Nat)
  deriving DecidableEq

def shape (v : Value) : Shape :=
  match v with
  | null => .null
  | v => v.members?.elim .single fun items => .many items.length

theorem shape_eq_null {v : Value} : v.shape = .null ↔ v = .null := by
  cases v <;> simp [shape, members?]

theorem shape_of_members {v : Value} {items : List Value} (h : v.members? = some items) :
    v.shape = .many items.length := by
  cases v <;> simp_all [shape, members?]

end Value

namespace Comparison

/-- What stands for an operand; that one is null can be seen where it is asked for. -/
def standIn (o : Operator) (v : Value) : Value :=
  match v with
  | .null => if o = .eq ∨ o = .ne then .null else .bool true
  | _ => .bool true

def outline (c : Comparison) : Comparison :=
  { c with operands := c.operands.map (standIn c.operator) }

variable {field v w : Value} {k : Category} {m : MatchMode} {d : MatchMode.Demand}
  {q q' : Comparison}

theorem standIn_of_ne_null (o : Operator) (h : v ≠ .null) : standIn o v = .bool true := by
  unfold standIn
  split
  · contradiction
  · rfl

/-- Only a comparison for equality shows whether an operand is null. -/
theorem map_standIn {o : Operator} (h : ¬ (o = .eq ∨ o = .ne)) (vs : List Value) :
    vs.map (standIn o) = List.replicate vs.length (.bool true) := by
  refine List.map_eq_replicate_iff.mpr fun v _ => ?_
  unfold standIn
  split
  · rw [if_neg h]
  · rfl

theorem standIn_congr (o : Operator) (h : v = .null ↔ w = .null) : standIn o v = standIn o w := by
  by_cases hv : v = .null
  · rw [hv, h.mp hv]
  · rw [standIn_of_ne_null o hv, standIn_of_ne_null o (hv ∘ h.mpr)]

theorem Takes.standIn_eq {taken taken' : List Value} (h : Takes v d taken) (h' : Takes w d taken')
    (hshape : v.shape = w.shape) :
    taken.map (standIn d.operator) = taken'.map (standIn d.operator) := by
  have hnull : v = .null ↔ w = .null := by
    rw [← Value.shape_eq_null, hshape, Value.shape_eq_null]
  cases h with
  | pattern | single =>
    cases h'
    simp only [List.map_singleton, standIn_congr _ hnull]
  | bounds =>
    cases h'
    rw [map_standIn (by simp [MatchMode.Demand.operator]),
      map_standIn (by simp [MatchMode.Demand.operator])]
    rfl
  | members items hitems =>
    cases h' with
    | members items' hitems' =>
      rw [Value.shape_of_members hitems, Value.shape_of_members hitems'] at hshape
      rw [map_standIn (by simp [MatchMode.Demand.operator]),
        map_standIn (by simp [MatchMode.Demand.operator]), Value.Shape.many.inj hshape]

theorem Built.outline_eq (h : Built field k m v q) (h' : Built field k m w q')
    (hshape : v.shape = w.shape) : q.outline = q'.outline := by
  have hstandIn : ∀ {taken operands : List Value}, List.Forall₂ k.Compares taken operands →
      operands.map (standIn m.demand.operator) = taken.map (standIn m.demand.operator) :=
    fun hcompares => (Outcome.map_eq_of_forall₂ (hcompares.imp fun _ _ hcompares =>
      standIn_congr _ (Category.Compares.null_iff hcompares).symm)).symm
  obtain ⟨taken, htaken, hoperands⟩ := h.operands
  obtain ⟨taken', htaken', hoperands'⟩ := h'.operands
  have hfolds : q.foldsCase = q'.foldsCase := by
    rw [Bool.eq_iff_iff, h.folds, h'.folds]
  rw [outline, outline, h.operator, h'.operator, hstandIn hoperands, hstandIn hoperands',
    htaken.standIn_eq htaken' hshape, h.field, h'.field, hfolds]

end Comparison

namespace Criterion

def outline (c : Criterion) : Value.Shape × Option MatchMode × Option Connective :=
  (c.value.shape, c.mode, c.connective)

theorem connectiveOf_outline {cs ds : List Criterion} (h : cs.map outline = ds.map outline) :
    connectiveOf cs = connectiveOf ds := by
  have hconnectives := congrArg (List.map fun o => o.2.2) h
  rw [List.map_map, List.map_map] at hconnectives
  exact Predicate.connectiveOf_congr hconnectives

end Criterion

/-- Two requests that differ in values of the same shape, in the rows they ask for, and in nothing
else. -/
structure Request.Alike (a b : Request) : Prop where
  criteria : a.criteria.map (Prod.map id (List.map Criterion.outline)) =
    b.criteria.map (Prod.map id (List.map Criterion.outline))
  globalField : a.globalField = b.globalField
  sortKeys : a.sortKeys = b.sortKeys
  paged : a.pageSize = 0 ↔ b.pageSize = 0

namespace Predicate

def Row.outline (row : Row) : Row := (row.1, row.2.map (List.map Comparison.outline))

variable {r : Resolver} {globalField : Value} {searched : List Value}

theorem ofCriterion_outline {field : Value} {c d : Criterion} {q q' : Comparison}
    (h : c.outline = d.outline) (hq : Comparison.ofCriterion r field c = .ok q)
    (hq' : Comparison.ofCriterion r field d = .ok q') : q.outline = q'.outline := by
  obtain ⟨hshape, hmode, _⟩ : c.value.shape = d.value.shape ∧ c.mode = d.mode ∧ _ := by
    simpa [Criterion.outline] using h
  obtain ⟨k, hk, hbuilt⟩ := Comparison.ofCriterion_ok hq
  obtain ⟨k', hk', hbuilt'⟩ := Comparison.ofCriterion_ok hq'
  obtain rfl := Except.ok.inj (hk.symm.trans hk')
  exact hbuilt.outline_eq (hmode ▸ hbuilt') hshape

theorem comparisonsOn_outline {fields : List Value} {c d : Criterion} {qs qs' : List Comparison}
    (h : c.outline = d.outline) (hqs : comparisonsOn r fields c = .ok qs)
    (hqs' : comparisonsOn r fields d = .ok qs') :
    qs.map Comparison.outline = qs'.map Comparison.outline := by
  refine Outcome.map_eq_of_mapM (fun field field' q q' hfield hq hq' => ?_)
    (rfl : fields.map id = _) hqs hqs'
  obtain rfl : field = field' := hfield
  exact ofCriterion_outline h hq hq'

theorem rowOf_outline {e e' : String × List Criterion} {row row' : Row}
    (h : e.map id (List.map Criterion.outline) = e'.map id (List.map Criterion.outline))
    (hrow : rowOf r globalField searched e = .ok row)
    (hrow' : rowOf r globalField searched e' = .ok row') : row.outline = row'.outline := by
  obtain ⟨hkey, hcriteria⟩ : e.1 = e'.1 ∧
      e.2.map Criterion.outline = e'.2.map Criterion.outline := Prod.mk.inj h
  obtain ⟨qss, hqss, rfl⟩ := Outcome.map_ok.mp hrow
  obtain ⟨qss', hqss', rfl⟩ := Outcome.map_ok.mp hrow'
  rw [← hkey] at hqss'
  rw [Row.outline, Row.outline, Criterion.connectiveOf_outline hcriteria,
    Outcome.map_eq_of_mapM (fun _ _ _ _ => comparisonsOn_outline) hcriteria hqss hqss']

theorem flatMap_outline {α β : Type} {f : α → Option Predicate} {f' : β → Option Predicate}
    {g : α → β} (h : ∀ a, (f a).map (Formula.map Comparison.outline) = f' (g a)) (as : List α) :
    (as.flatMap fun a => (f a).toList).map (Formula.map Comparison.outline) =
      (as.map g).flatMap fun b => (f' b).toList := by
  rw [List.map_flatMap, List.flatMap_map]
  congr 1
  funext a
  rw [← h, Option.toList_map]

theorem spread_outline (qs : List Comparison) :
    (spread qs).map (Formula.map Comparison.outline) = spread (qs.map Comparison.outline) := by
  rw [spread, spread, Formula.map_join?, List.map_map, List.map_map]
  rfl

theorem joinedRow_outline (row : Row) :
    (joinedRow row).map (Formula.map Comparison.outline) = joinedRow row.outline := by
  rw [joinedRow, joinedRow, Formula.map_join?, flatMap_outline spread_outline]
  rfl

theorem joinedRows_outline (rows : List Row) :
    (joinedRows rows).map (Formula.map Comparison.outline) =
      joinedRows (rows.map Row.outline) := by
  rw [joinedRows, joinedRows, Formula.map_join?, flatMap_outline joinedRow_outline]

/-- Alike requests compile to predicates that differ in operands only. -/
theorem outline_of_alike {s : SearchSet} {a b : Request} {p q : Option Predicate} (h : a.Alike b)
    (hp : (ofRequestWith r (.ok s) a).outcome = .ok p)
    (hq : (ofRequestWith r (.ok s) b).outcome = .ok q) :
    p.map (Formula.map Comparison.outline) = q.map (Formula.map Comparison.outline) := by
  rw [outcome_eq_rows] at hp hq
  obtain ⟨rows, hrows, hnoted⟩ := Outcome.bind_ok.mp hp
  obtain ⟨rows', hrows', hnoted'⟩ := Outcome.bind_ok.mp hq
  rw [← h.globalField] at hrows'
  rw [← noted_ok hnoted, ← noted_ok hnoted', joinedRows_outline, joinedRows_outline,
    Outcome.map_eq_of_mapM (fun _ _ _ _ => rowOf_outline) h.criteria hrows hrows']

end Predicate
end TableQuery
