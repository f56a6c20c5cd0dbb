import TableQuery.Proofs.Qdrant.Search

/-!
# What the schema takes

Conditions are built to a schema. To ask for equality, it takes null, truth values, numbers and
texts; to ask for membership, texts alone or whole numbers alone; as bounds, what can be read as a
number, or as a date once one bound is a date. A compiled predicate may compare with anything else.
It is then refused, or breaks the schema at the first comparison that has no condition.
-/
namespace TableQuery

namespace Value

def isExact : Value → Bool
  | null | bool _ | int _ | float _ | text _ => true
  | _ => false

def isWord : Value → Bool
  | text _ => true
  | _ => false

def isWhole : Value → Bool
  | int _ => true
  | _ => false

end Value

namespace Qdrant

open Outcome

def reads {α : Type} (read? : Value → Option α) : Value → Bool
  | .null => true
  | v => (read? v).isSome

/-- Whether all bounds of a range can be read, as dates if one of them is a date. -/
def readable (bounds : List Value) : Bool :=
  if bounds.any isMoment then bounds.all (reads Moment.ofValue?) else bounds.all (reads numberOf?)

/-- Whether the schema takes the operands of a comparison; of a range over folded text it is given
none, since that is refused before. -/
def takes (q : Comparison) : Bool :=
  match q.operator with
  | .eq | .ne => q.operands.all Value.isExact
  | .isIn => q.operands.all Value.isWord || q.operands.all Value.isWhole
  | .lt | .lte | .gt | .gte | .between => q.foldsCase || readable q.operands
  | .like | .notLike | .and | .or => true

def breach (fits : Bool) : Option Fault := if fits then none else some .schemaViolated

section Steps

variable {α β : Type} {x : Except Fault α} {f : α → Except Fault β} {fits fits' : Bool}

theorem breach_eq_none : breach fits = none ↔ fits = true := by
  cases fits <;> simp [breach]

theorem breach_eq_some {g : Fault} : breach fits = some g ↔ fits = false ∧ g = .schemaViolated := by
  cases fits <;> simp [breach, eq_comm]

theorem fault?_bind_breach (hx : fault? x = breach fits)
    (hf : ∀ a, fault? (f a) = breach fits') : fault? (x >>= f) = breach (fits && fits') := by
  cases x with
  | ok a =>
    obtain rfl := breach_eq_none.mp hx.symm
    exact hf a
  | error g =>
    obtain ⟨rfl, rfl⟩ := breach_eq_some.mp hx.symm
    rfl

end Steps

/-! ## Operands -/

theorem fault?_equality (key : String) (v : Value) :
    fault? (equality (.ok key) v) = breach v.isExact := by
  cases v <;> rfl

theorem allTexts_isSome (items : List Value) :
    (allTexts items).isSome = items.all Value.isWord := by
  induction items with
  | nil => rfl
  | cons v items ih =>
    rw [List.all_cons, ← ih]
    cases v <;> simp [allTexts, Value.isWord]

theorem allInts_isSome (items : List Value) :
    (allInts items).isSome = items.all Value.isWhole := by
  induction items with
  | nil => rfl
  | cons v items ih =>
    rw [List.all_cons, ← ih]
    cases v <;> simp [allInts, Value.isWhole]

theorem fault?_choice (items : List Value) :
    fault? (choice items) = breach (items.all Value.isWord || items.all Value.isWhole) := by
  rw [← allTexts_isSome, ← allInts_isSome, choice]
  cases allTexts items <;> cases allInts items <;> rfl

variable {α : Type} {read? : Value → Option α}

theorem fault?_bound (v : Value) : fault? (bound read? v) = breach (reads read? v) := by
  unfold bound reads
  split
  · rfl
  · cases hread : read? v <;> simp_all [fault?, breach]

def Range.given (r : Range Value) : List Value := [r.gt, r.gte, r.lt, r.lte].filterMap id

theorem all_given (r : Range Value) (good : Value → Bool) :
    r.given.all good =
      (r.gt.all good && (r.gte.all good && (r.lt.all good && r.lte.all good))) := by
  obtain ⟨gt, gte, lt, lte⟩ := r
  cases gt <;> cases gte <;> cases lt <;> cases lte <;> simp [Range.given]

theorem fault?_mapM_bound (r : Range Value) :
    fault? (r.mapM (bound read?)) = breach (r.given.all (reads read?)) := by
  rw [all_given, ← Bool.and_true (r.lte.all _)]
  unfold Range.mapM
  extract_lets at?
  have hat : ∀ b, fault? (at? b) = breach (b.all (reads read?)) := by
    intro b
    cases b with
    | none => rfl
    | some v => exact fault?_bound v
  exact fault?_bind_breach (hat r.gt) fun _ => fault?_bind_breach (hat r.gte) fun _ =>
    fault?_bind_breach (hat r.lt) fun _ => fault?_bind_breach (hat r.lte) fun _ => rfl

theorem fault?_rangeTest (r : Range Value) : fault? (rangeTest r) = breach (readable r.given) := by
  have hany : ([r.gt, r.gte, r.lt, r.lte].any fun b => (b.map isMoment).getD false) =
      r.given.any isMoment := by
    obtain ⟨gt, gte, lt, lte⟩ := r
    cases gt <;> cases gte <;> cases lt <;> cases lte <;> simp [Range.given]
  rw [rangeTest, readable, hany]
  split <;> rw [fault?_map, fault?_mapM_bound]

/-! ## Comparisons -/

variable {l : Layout} {r : Resolver} {q : Comparison} {key : String}

theorem fault?_searched (asked : Bool) (field : Value) (s : String) (folds : Bool) :
    let q : Comparison := ⟨field, searchOperator asked, [.text s], folds⟩
    fault? (operatorCondition (.ok key) q) = breach true ∨
      ∃ o refuser, fault? (operatorCondition (.ok key) q) = some (.operatorRefused o refuser) := by
  intro q
  have hsearch : operatorCondition (.ok key) q = _ := condition_of_pattern asked field s folds
  rw [hsearch]
  split
  · exact .inl rfl
  · exact .inr ⟨_, _, rfl⟩

/-- A comparison that is compiled has a condition or is refused, or else breaks the schema. -/
theorem fault?_operatorCondition (hq : q.WellFormed r)
    (htexts : q.foldsCase = true → ∀ v ∈ q.operands, ∃ s, v = .text s) :
    fault? (operatorCondition (.ok key) q) = breach (takes q) ∨
      takes q = true ∧ ∃ o refuser,
        fault? (operatorCondition (.ok key) q) = some (.operatorRefused o refuser) := by
  obtain ⟨field, o, operands, folds⟩ := q
  have hone : o ≠ .between → o ≠ .isIn → ∃ v, operands = [v] := fun hpair hmany =>
    List.length_eq_one_iff.mp (hq.single hpair hmany)
  -- only a text field is asked for a pattern, so that the pattern is a text
  have hpattern : o = .like ∨ o = .notLike → ∃ s, operands = [.text s] := by
    intro ho
    obtain ⟨v, rfl⟩ := hone (by rcases ho with rfl | rfl <;> decide)
      (by rcases ho with rfl | rfl <;> decide)
    obtain ⟨k, _, hfolds, htext, _⟩ := hq.category
    obtain ⟨s, rfl⟩ := htexts (hfolds.mpr (htext ho)) v (by simp)
    exact ⟨s, rfl⟩
  have hcompares := hq.compares
  cases o with
  | eq =>
    obtain ⟨v, rfl⟩ := hone (by decide) (by decide)
    left
    rw [takes, List.all_cons, List.all_nil, Bool.and_true]
    exact fault?_equality key v
  | ne =>
    obtain ⟨v, rfl⟩ := hone (by decide) (by decide)
    left
    have hpositive : fault? (equality (.ok key) v >>= fun c => .ok (Condition.allOf [] [c])) =
        breach (v.isExact && true) := fault?_bind_breach (fault?_equality key v) fun _ => rfl
    exact hpositive
  | isIn =>
    left
    rw [takes, ← Bool.and_true (_ || _)]
    exact fault?_bind_breach (fault?_choice operands) fun _ => rfl
  | like =>
    obtain ⟨s, rfl⟩ := hpattern (.inl rfl)
    exact (fault?_searched true field s folds).imp_right fun h => ⟨rfl, h⟩
  | notLike =>
    obtain ⟨s, rfl⟩ := hpattern (.inr rfl)
    exact (fault?_searched false field s folds).imp_right fun h => ⟨rfl, h⟩
  | between =>
    cases folds with
    | true => exact .inr ⟨rfl, .between, .qdrantTextRanges, rfl⟩
    | false =>
      obtain ⟨low, high, rfl⟩ := List.length_eq_two.mp (hq.pair rfl)
      left
      change fault? (rangeTest ⟨none, some low, none, some high⟩ >>= testUnder (.ok key)) =
        breach (readable [low, high])
      rw [← Bool.and_true (readable _)]
      exact fault?_bind_breach (fault?_rangeTest _) fun _ => rfl
  | lt | lte | gt | gte =>
    obtain ⟨v, rfl⟩ := hone (by decide) (by decide)
    cases folds with
    | true => exact .inr ⟨rfl, _, .qdrantTextRanges, rfl⟩
    | false =>
      left
      change fault? (rangeTest _ >>= testUnder (.ok key)) = breach (readable [v])
      rw [← Bool.and_true (readable _)]
      exact fault?_bind_breach (fault?_rangeTest _) fun _ => rfl
  | and | or => cases hcompares

theorem takes_of_texts (hfolds : q.foldsCase = true) (htexts : ∀ v ∈ q.operands, ∃ s, v = .text s) :
    takes q = true := by
  have hexact : q.operands.all Value.isExact = true := by
    refine List.all_eq_true.mpr fun v hv => ?_
    obtain ⟨s, rfl⟩ := htexts v hv
    rfl
  have hword : q.operands.all Value.isWord = true := by
    refine List.all_eq_true.mpr fun v hv => ?_
    obtain ⟨s, rfl⟩ := htexts v hv
    rfl
  unfold takes
  split <;> simp [hexact, hword, hfolds]

/-! ## Predicates -/

section Compiled

open Predicate

variable {attributes : Except Fault SearchSet} {request : Request}

theorem fault?_comparisonCondition {p : Predicate} (hroot : ∃ s, l.root.display = .ok s)
    (hsearched : ∀ s, attributes = .ok s → ∀ v ∈ s.fields, ∃ t, v = .text t)
    (h : (ofRequestWith r attributes request).outcome = .ok (some p)) (hq : q ∈ p.atoms) :
    fault? (comparisonCondition l q) = breach (takes q) ∨
      takes q = true ∧ ∃ o refuser,
        fault? (comparisonCondition l q) = some (.operatorRefused o refuser) := by
  obtain ⟨name, hname⟩ := field_of_compiled hsearched h q hq
  obtain ⟨key, _, hcondition⟩ := comparisonCondition_of_text hroot hname
  rw [hcondition]
  exact fault?_operatorCondition (wellFormed_of_compiled h q hq) (texts_of_compiled h q hq)

theorem broken_iff {p : Predicate} (hroot : ∃ s, l.root.display = .ok s)
    (hsearched : ∀ s, attributes = .ok s → ∀ v ∈ s.fields, ∃ t, v = .text t)
    (h : (ofRequestWith r attributes request).outcome = .ok (some p)) (hq : q ∈ p.atoms) :
    comparisonCondition l q = .error .schemaViolated ↔ takes q = false := by
  rw [← fault?_eq_some]
  rcases fault?_comparisonCondition hroot hsearched h hq with hleaf | ⟨htakes, o, refuser, hleaf⟩
  · simp [hleaf, breach_eq_some]
  · simp [hleaf, htakes]

variable {p : Option Predicate}

/-- A compiled predicate is converted to a filter, if there is one, or is refused, or breaks the
schema. It breaks the schema exactly when its first comparison without a condition compares with
what the schema does not take, and that is never a comparison of a text field. -/
theorem breaks_schema_iff (hl : l.refused = []) (hroot : ∃ s, l.root.display = .ok s)
    (hsearched : ∀ s, attributes = .ok s → ∀ v ∈ s.fields, ∃ t, v = .text t)
    (h : (ofRequestWith r attributes request).outcome = .ok p) :
    ((∃ found, convert l (Node.ofPredicate? p) = .ok found ∧ found.isSome = p.isSome ∧
        ∀ f, found = some f → f.isFilter = true) ∨
      (∃ o refuser, convert l (Node.ofPredicate? p) = .error (.operatorRefused o refuser)) ∨
      convert l (Node.ofPredicate? p) = .error .schemaViolated) ∧
    (convert l (Node.ofPredicate? p) = .error .schemaViolated ↔
      ∃ before q after, leaves p = before ++ q :: after ∧ takes q = false ∧
        ∀ b ∈ before, ∃ c, comparisonCondition l b = .ok c) ∧
    (∀ q ∈ leaves p, q.foldsCase = true → takes q = true) := by
  cases p with
  | none =>
    have hnothing : convert l (Node.ofPredicate? none) = .ok none := rfl
    simp [hnothing, leaves]
  | some p =>
    -- a conversion fails at the first comparison that does, so the leaves decide how
    have hfault : ∀ g, convert l (Node.ofPredicate? (some p)) = .error g ↔
        ∃ before q after, p.atoms = before ++ q :: after ∧ comparisonCondition l q = .error g ∧
          ∀ b ∈ before, ∃ c, comparisonCondition l b = .ok c := by
      intro g
      rw [← fault?_eq_some, ← firstFault_map_eq_some, ← fault?_convert hl]
      rfl
    refine ⟨?_, ?_, fun q hq hfolds => takes_of_texts hfolds (texts_of_compiled h q hq hfolds)⟩
    · cases hconvert : convert l (Node.ofPredicate? (some p)) with
      | ok found =>
        obtain ⟨lowered, _, rfl⟩ := map_ok.mp ((convert_permitted hl p).symm.trans hconvert)
        refine .inl ⟨_, rfl, rfl, ?_⟩
        intro f hf
        obtain rfl := Option.some.inj hf
        exact isFilter_asFilter lowered
      | error g =>
        obtain ⟨before, q, after, hsplit, hg, _⟩ := (hfault g).mp hconvert
        have hq : q ∈ p.atoms := by simp [hsplit]
        have hleaf := fault?_comparisonCondition hroot hsearched h hq
        rw [hg] at hleaf
        rcases hleaf with hbroken | ⟨_, o, refuser, hrefused⟩
        · obtain ⟨_, rfl⟩ := breach_eq_some.mp hbroken.symm
          exact .inr (.inr rfl)
        · obtain rfl := Option.some.inj hrefused
          exact .inr (.inl ⟨o, refuser, rfl⟩)
    · rw [hfault]
      constructor
      · rintro ⟨before, q, after, hsplit, hg, hbefore⟩
        have hq : q ∈ p.atoms := by simp [hsplit]
        exact ⟨before, q, after, hsplit, (broken_iff hroot hsearched h hq).mp hg, hbefore⟩
      · rintro ⟨before, q, after, hsplit, htakes, hbefore⟩
        have hsplit : p.atoms = before ++ q :: after := hsplit
        have hq : q ∈ p.atoms := by simp [hsplit]
        exact ⟨before, q, after, hsplit, (broken_iff hroot hsearched h hq).mpr htakes, hbefore⟩

end Compiled

namespace Example

def marked : Resolver := .table [(.text "name", .text), (.text "marks", .opaqueKind)]

def byMark : Request :=
  { offset := 0
    pageSize := 0
    sortKeys := []
    criteria := [("name", [⟨.text "Bolt", none, none⟩]),
      ("marks", [⟨.list [.text "new", .bool true], some .isIn, none⟩])]
    globalField := .null }

def boltIn : Comparison := ⟨.text "name", .like, [.text "%bolt%"], true⟩

def markIn : Comparison := ⟨.text "marks", .isIn, [.text "new", .bool true], false⟩

def marking : Predicate := .junction .all [.atom boltIn, .atom markIn]

theorem compiled_byMark :
    (Predicate.ofRequestWith marked (.ok .empty) byMark).outcome = .ok (some marking) := by cbv

end Example

/-- A text and a truth value are not taken as one list. -/
theorem breaks_schema_iff_marks :
    (Predicate.ofRequestWith Example.marked (.ok .empty) Example.byMark).outcome =
        .ok (some Example.marking) ∧
    convert ⟨.null, []⟩ (Node.ofPredicate? (some Example.marking)) = .error .schemaViolated := by
  have hbolt : ∃ c, comparisonCondition ⟨.null, []⟩ Example.boltIn = .ok c :=
    ⟨.test "name" (.hasText "bolt"), by cbv⟩
  have hsearched : ∀ s, (.ok .empty : Except Fault SearchSet) = .ok s →
      ∀ v ∈ s.fields, ∃ t, v = .text t := by
    rintro s hs v hv
    obtain rfl := Except.ok.inj hs
    cases hv
  have hbreaks :=
    breaks_schema_iff (l := ⟨.null, []⟩) rfl ⟨_, rfl⟩ hsearched Example.compiled_byMark
  exact ⟨Example.compiled_byMark, hbreaks.2.1.mpr
    ⟨[Example.boltIn], Example.markIn, [], rfl, rfl, by simpa using hbolt⟩⟩

end Qdrant
end TableQuery
