import TableQuery.Proofs.Predicate.Structure
import TableQuery.Proofs.Sqlite.ReadBack

/-!
# Compiled predicates have clauses

A converter reads the operands of a comparison without counting them. On a compiled predicate this
never fails: whatever the layout, as long as its names are texts, there is a clause, and its text
has a mark outside all quotations for every value that is bound.
-/
namespace TableQuery.Sqlite

/-- A layout whose names can be written, where there are any: that of the table as it is shown, that
of the objects as a text. -/
structure Layout.Named (l : Layout) : Prop where
  table : ∃ table, l.tableName = .ok table
  objects : l.objects.truthy = true → ∃ s, l.objects = .text s

variable {l : Layout}

theorem reference_text (hl : l.Named) (name : String) :
    ∃ ref, l.reference (.text name) = .ok ref := by
  obtain ⟨table, htable⟩ := hl.table
  have hdirect := isDirect_text (l := l) name
  unfold Layout.reference
  rw [hdirect, htable]
  cases hinside : l.isInside name with
  | false => exact ⟨_, rfl⟩
  | true =>
    obtain ⟨hgiven, _⟩ := (Bool.and_eq_true _ _).mp hinside
    obtain ⟨s, hs⟩ := hl.objects hgiven
    rw [hs]
    exact ⟨_, rfl⟩

theorem compareClause_of_ne_null {v : Value} (h : v ≠ .null) (t : Term) (o : Comparator) :
    compareClause t o v = .compare t o v := by
  unfold compareClause
  split <;> first | rfl | contradiction

theorem operatorClause_of_wellFormed {r : Resolver} {c : Comparison} (h : c.WellFormed r)
    (t : Term) : ∃ clause, operatorClause t c = .ok clause := by
  have hoperand : c.operator ≠ .between → c.operator ≠ .isIn → ∃ v, c.operand = .ok v := by
    intro hbetween hin
    obtain ⟨v, hv⟩ := List.length_eq_one_iff.mp (h.single hbetween hin)
    exact ⟨v, by rw [Comparison.operand, hv]⟩
  unfold operatorClause
  cases ho : c.operator with
  | isIn => exact ⟨_, rfl⟩
  | between =>
    obtain ⟨low, high, hv⟩ := List.length_eq_two.mp (h.pair ho)
    rw [hv]
    exact ⟨_, rfl⟩
  | like | notLike | eq | ne | lt | lte | gt | gte =>
    obtain ⟨v, hv⟩ := hoperand (by simp [ho]) (by simp [ho])
    rw [hv]
    exact ⟨_, rfl⟩
  | and | or =>
    have hlogical := h.compares
    rw [ho] at hlogical
    cases hlogical

theorem comparisonClause_of_wellFormed (hl : l.Named) {r : Resolver} {c : Comparison}
    (h : c.WellFormed r) (hfield : ∃ name, c.field = .text name) :
    ∃ clause, comparisonClause l c = .ok clause := by
  obtain ⟨name, hname⟩ := hfield
  obtain ⟨ref, href⟩ := reference_text hl name
  rw [comparisonClause, hname, href]
  exact operatorClause_of_wellFormed h _

theorem lowerAll_of_forall₂ {ns : List Node} {cs : List Clause}
    (h : List.Forall₂ (fun n c => lower l n = .ok c) ns cs) : lowerAll l ns = .ok cs := by
  induction h with
  | nil => rfl
  | cons hc _ ih => rw [lowerAll, hc, ih]

theorem lower_junction (how : Connective) {parts : List Predicate} {cs : List Clause}
    (h : List.Forall₂ (fun p c => lower l (Node.ofPredicate p) = .ok c) parts cs) :
    lower l (Node.ofPredicate (.junction how parts)) = .ok (junctionClause how cs) := by
  rw [Node.ofPredicate_junction, lower, lowerAll_of_forall₂ (List.forall₂_map_left_iff.mpr h)]

/-- A junction without parts binds nothing, as a junction of them would. -/
theorem bound_junctionClause (how : Connective) (cs : List Clause) :
    (junctionClause how cs).bound = cs.flatMap Clause.bound := by
  cases cs with
  | nil => rfl
  | cons c cs => exact Clause.boundAll_eq (c :: cs)

theorem lower_of_atoms {p : Predicate}
    (h : ∀ c ∈ p.atoms, ∃ clause, comparisonClause l c = .ok clause) :
    ∃ clause, lower l (Node.ofPredicate p) = .ok clause := by
  induction p using Formula.inductionOn with
  | atom c =>
    obtain ⟨clause, hclause⟩ := h c (by simp [Formula.atoms])
    exact ⟨clause, lower_atom.mpr hclause⟩
  | junction how parts ih =>
    have hparts : ∀ p ∈ parts, ∃ c, lower l (Node.ofPredicate p) = .ok c := by
      intro p hp
      exact ih p hp fun c hc => h c (Formula.mem_atoms_junction.mpr ⟨p, hp, hc⟩)
    obtain ⟨cs, hcs⟩ := Outcome.forall₂_of_exists hparts
    exact ⟨_, lower_junction how hcs⟩

theorem convert_of_lower (hl : l.refused = []) {p : Predicate} {clause : Clause}
    (h : lower l (Node.ofPredicate p) = .ok clause) :
    convert l (Node.ofPredicate p) = .ok clause := by
  refine convert_predicate.mpr ⟨?_, h⟩
  rw [hl]
  exact Node.check_permitted _ p

theorem convert_of_wellFormed (hl : l.Named) (hrefused : l.refused = []) {r : Resolver}
    {p : Predicate} (hp : ∀ c ∈ p.atoms, c.WellFormed r)
    (hfields : ∀ c ∈ p.atoms, ∃ name, c.field = .text name) :
    ∃ clause, convert l (Node.ofPredicate p) = .ok clause := by
  obtain ⟨clause, hclause⟩ := lower_of_atoms fun c hc =>
    comparisonClause_of_wellFormed hl (hp c hc) (hfields c hc)
  exact ⟨clause, convert_of_lower hrefused hclause⟩

theorem HasArity.of_wellFormed {r : Resolver} {c : Comparison} (h : c.WellFormed r) :
    HasArity c := by
  by_cases hin : c.operator = .isIn
  · exact .inl hin
  · by_cases hbetween : c.operator = .between
    · exact .inr (.inl hbetween)
    · exact .inr (.inr (h.single hbetween hin))

theorem count_mark (ts : List (Token Value)) :
    (ts.map Token.shape).count (.mark ()) = (ts.filterMap Token.value?).length := by
  induction ts with
  | nil => rfl
  | cons t ts ih =>
    rw [List.map_cons, List.count_cons, ih, List.filterMap_cons]
    cases t <;> rfl

theorem Clause.Plain.marks {c : Clause} (h : c.Plain) :
    ∃ ts, tokens c.text.toList = some ts ∧ ts.count (.mark ()) = c.bound.length := by
  obtain ⟨ts, hspelled, hbound, _⟩ := h.says
  refine ⟨ts.map Token.shape, ?_, by rw [count_mark, hbound]⟩
  rw [Clause.text, String.toList_ofList, hspelled]

/-- A compiled predicate is well formed throughout, which is why it has a text, and why a converter
that refuses no operator makes a clause of it. A mark stands for each value that the clause binds,
as long as the name of the table needs no quotation. -/
theorem compiled_converts {r : Resolver} {given : List Value} {request : Request} {p : Predicate}
    (hgiven : ∀ v ∈ given, ∃ s, v = .text s)
    (h : (Predicate.ofRequestWith r (SearchSet.ofList given) request).outcome = .ok (some p)) :
    Formula.Layered 3 p ∧ (∀ c ∈ p.atoms, c.WellFormed r) ∧
    (∃ shown, (Node.ofPredicate p).literal = .ok shown) ∧
    ∀ b : Converter, b.layout.Named → b.layout.refused = [] →
      ∃ clause, b.convert (Node.ofPredicate p) = (⟨b.layout, clause.bound⟩, .ok clause) ∧
        (b.layout.HasBareTable → ∃ ts, tokens clause.text.toList = some ts ∧
          ts.count (.mark ()) = clause.bound.length) := by
  have hwell := Predicate.wellFormed_of_compiled h
  have hsearched : ∀ s, SearchSet.ofList given = .ok s → ∀ v ∈ s.fields, ∃ t, v = .text t := by
    intro s hs
    rw [Predicate.fields_ofList hs]
    exact fun v hv => hgiven v (Predicate.mem_distinct given v hv)
  obtain ⟨_, _, _, _, _, hshown⟩ := Predicate.compiled_ok h
  refine ⟨Predicate.layered_of_compiled h, hwell, hshown, fun b hl hrefused => ?_⟩
  obtain ⟨clause, hclause⟩ :=
    convert_of_wellFormed hl hrefused hwell (Predicate.field_of_compiled hsearched h)
  refine ⟨clause, by rw [Converter.convert, hclause], fun hbare => ?_⟩
  exact (lower_ok hbare (fun c hc => .of_wellFormed (hwell c hc)) (convert_ok hclause)).1.marks

namespace Example

def mixedFields : Resolver := .table [(.text "na\"me?", .text), (.text "born", .ordered)]

/-- A global search of a text field, whose name holds marks, and of an ordered one, beside a range
and a list. -/
def mixedRequest : Request :=
  { offset := 0
    pageSize := 0
    sortKeys := []
    criteria := [("all", [⟨.text "19", none, none⟩, ⟨.text "?", some .notEquals, some .all⟩]),
      ("born", [⟨.tuple [.text "1980", .text "1990"], some .between, none⟩,
        ⟨.list [.text "2001", .null, .bool true], some .isIn, none⟩])]
    globalField := .text "all" }

def mixedSearch : List Value := [.text "na\"me?", .text "born"]

def mixedPredicate : Predicate :=
  .junction .all [
    .junction .all [
      .junction .any [.atom ⟨.text "na\"me?", .like, [.text "%19%"], true⟩,
        leaf "born" .eq [.text "19"]],
      .junction .any [.atom ⟨.text "na\"me?", .ne, [.text "?"], true⟩,
        leaf "born" .ne [.text "?"]]],
    .junction .any [leaf "born" .between [.text "1980", .text "1990"],
      leaf "born" .isIn [.text "2001", .null, .bool true]]]

def inObjects : Layout := ⟨.null, .text "o?", [.text "born"], []⟩

end Example

theorem compiled_converts_mixed :
    (∀ v ∈ Example.mixedSearch, ∃ s, v = .text s) ∧
    (Predicate.ofRequestWith Example.mixedFields (SearchSet.ofList Example.mixedSearch)
      Example.mixedRequest).outcome = .ok (some Example.mixedPredicate) ∧
    Example.inObjects.Named ∧
    Formula.Layered 3 Example.mixedPredicate ∧
    (∀ c ∈ Example.mixedPredicate.atoms, c.WellFormed Example.mixedFields) ∧
    ∃ clause ts,
      Converter.convert ⟨Example.inObjects, [.null]⟩ (Node.ofPredicate Example.mixedPredicate) =
        (⟨Example.inObjects, clause.bound⟩, .ok clause) ∧
      tokens clause.text.toList = some ts ∧ ts.count (.mark ()) = clause.bound.length := by
  have hgiven : ∀ v ∈ Example.mixedSearch, ∃ s, v = .text s := by simp [Example.mixedSearch]
  have h : (Predicate.ofRequestWith Example.mixedFields (SearchSet.ofList Example.mixedSearch)
      Example.mixedRequest).outcome = .ok (some Example.mixedPredicate) := by cbv
  have hl : Example.inObjects.Named := ⟨⟨none, rfl⟩, fun _ => ⟨"o?", rfl⟩⟩
  obtain ⟨hlayered, hwell, _, hconvert⟩ := compiled_converts hgiven h
  obtain ⟨clause, hclause, hmarks⟩ := hconvert ⟨Example.inObjects, [.null]⟩ hl rfl
  obtain ⟨ts, hts, hcount⟩ := hmarks (.inl rfl)
  exact ⟨hgiven, h, hl, hlayered, hwell, clause, ts, hclause, hts, hcount⟩

end TableQuery.Sqlite
