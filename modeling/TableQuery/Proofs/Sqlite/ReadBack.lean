import TableQuery.Proofs.Sqlite.Spelling
import TableQuery.Proofs.Value
import TableQuery.Sqlite.Lowering

/-!
# Predicates read back

The clause that a predicate is lowered to can be read back from its text and the values beside it.
What is read asks what the predicate does, of the same fields and with the same operands.
-/
namespace TableQuery.Sqlite

namespace Layout

/-- A table that is left out, or whose name needs no quotation. -/
def HasBareTable (l : Layout) : Prop :=
  l.table.truthy = false ∨ ∃ t, l.table = .text t ∧ isBare t = true

def tableText (l : Layout) : Option String :=
  match l.table with
  | .text t => if t = "" then none else some t
  | _ => none

/-- The text that a name is, which it always is where a reference can be made. -/
def textOf : Value → String
  | .text s => s
  | _ => ""

def isText (s : String) : Value → Bool
  | .text t => t = s
  | _ => false

def isInside (l : Layout) (field : String) : Bool :=
  l.objects.truthy && !l.direct.any (isText field)

def place (l : Layout) (field : String) : ColumnRef :=
  if l.isInside field then .path l.tableText (textOf l.objects) field
  else .column l.tableText field

end Layout

def fact (l : Layout) (c : Comparison) : Fact :=
  let t : Term := ⟨l.place (Layout.textOf c.field), c.foldsCase⟩
  match c.operator, c.operands with
  | .eq, [.null] => .isNull t false
  | .ne, [.null] => .isNull t true
  | .isIn, [] => .constant false
  | o, operands => .asks t o operands

mutual

def reading (l : Layout) : Predicate → Reading
  | .atom c => .atom (fact l c)
  | .junction how parts => joined how (readings l parts)

def readings (l : Layout) : List Predicate → List Reading
  | [] => []
  | p :: rest => reading l p :: readings l rest

end

/-- Any number of operands in a membership, two in a range, and one otherwise. A range with another
number is refused by itself. -/
def HasArity (c : Comparison) : Prop :=
  c.operator = .isIn ∨ c.operator = .between ∨ c.operands.length = 1

variable {l : Layout}

theorem nameOf_ok {v : Value} {s : String} : nameOf v = .ok s ↔ v = .text s := by
  cases v <;> simp [nameOf]

theorem isText_eq (s : String) (v : Value) : v.same (.text s) = Layout.isText s v := by
  rw [Bool.eq_iff_iff, Value.same_text]
  cases v <;> simp [Layout.isText]

theorem tableName_ok (hl : l.HasBareTable) :
    l.tableName = .ok l.tableText ∧ ∀ t ∈ l.tableText, isBare t = true := by
  unfold Layout.tableName Layout.tableText
  rcases hl with hfalse | ⟨t, ht, hbare⟩
  · rw [if_neg (by simp [hfalse])]
    cases htable : l.table <;> simp_all [Value.truthy]
  · have hne : t ≠ "" := by
      rintro rfl
      simp [isBare] at hbare
    rw [ht, if_pos (by simpa [Value.truthy] using hne)]
    simp [hne, hbare, Value.display, Value.shown, Except.map]

theorem isDirect_text (name : String) : l.isDirect (.text name) = .ok (!l.isInside name) := by
  have hsame : l.direct.any (·.same (.text name)) = l.direct.any (Layout.isText name) := by
    simp only [isText_eq]
  have hask : Layout.canAsk (.text name) = true := rfl
  unfold Layout.isDirect Layout.isInside
  rw [hask, if_pos rfl, hsame]
  cases l.objects.truthy <;> simp

theorem reference_ok (hl : l.HasBareTable) {field : Value} {r : ColumnRef}
    (h : l.reference field = .ok r) :
    r = l.place (Layout.textOf field) ∧ ∀ t ∈ r.table, isBare t = true := by
  obtain ⟨direct, hdirect, hnamed⟩ := Outcome.bind_ok.mp h
  obtain ⟨name, hname, href⟩ := Outcome.bind_ok.mp hnamed
  obtain rfl := nameOf_ok.mp hname
  obtain ⟨htable, hbare⟩ := tableName_ok hl
  obtain rfl : (!l.isInside name) = direct :=
    Except.ok.inj ((isDirect_text name).symm.trans hdirect)
  rw [htable] at href
  rw [Layout.textOf, Layout.place]
  cases hinside : l.isInside name with
  | false =>
    rw [hinside] at href
    obtain rfl := Except.ok.inj href
    exact ⟨rfl, hbare⟩
  | true =>
    rw [hinside] at href
    obtain ⟨objects, hobjects, hpath⟩ := Outcome.bind_ok.mp href
    obtain rfl := Except.ok.inj hpath
    rw [nameOf_ok.mp hobjects]
    exact ⟨rfl, hbare⟩

/-- Comparing with null for equality is read as the question it is. -/
theorem reading_compareClause {c : Comparison} {t : Term}
    (hterm : t = ⟨l.place (Layout.textOf c.field), c.foldsCase⟩) {o : Comparator} {v : Value}
    (ho : c.operator = o.operator) (hv : c.operands = [v]) :
    (compareClause t o v).reading = .atom (fact l c) := by
  rw [fact, ho, hv, ← hterm]
  unfold compareClause
  split
  · rfl
  · rfl
  · next hne hnn =>
    rw [Clause.reading]
    cases o with
    | eq => cases v <;> first | rfl | exact absurd rfl (hne rfl)
    | ne => cases v <;> first | rfl | exact absurd rfl (hnn rfl)
    | gt => rfl
    | gte => rfl
    | lt => rfl
    | lte => rfl

theorem comparator?_eq_some {o : Operator} {sign : Comparator} (h : comparator? o = some sign) :
    o = sign.operator := by
  cases o <;> cases h <;> rfl

theorem HasArity.single {c : Comparison} (h : HasArity c) (hin : c.operator ≠ .isIn)
    (hbetween : c.operator ≠ .between) : ∃ v, c.operands = [v] ∧ c.operand = .ok v := by
  rcases h with h | h | h
  · exact absurd h hin
  · exact absurd h hbetween
  · obtain ⟨v, hv⟩ := List.length_eq_one_iff.mp h
    exact ⟨v, hv, by rw [Comparison.operand, hv]⟩

theorem reading_operatorClause {c : Comparison} (harity : HasArity c) {t : Term}
    (hterm : t = ⟨l.place (Layout.textOf c.field), c.foldsCase⟩) {clause : Clause}
    (h : operatorClause t c = .ok clause) : clause.reading = .atom (fact l c) := by
  unfold operatorClause at h
  split at h
  · next ho =>
    obtain rfl := Except.ok.inj h
    rw [fact, ho, ← hterm]
    cases c.operands <;> rfl
  · next ho =>
    split at h
    · next low high hv =>
      obtain rfl := Except.ok.inj h
      rw [fact, ho, hv, ← hterm]
      rfl
    · cases h
  · next ho =>
    obtain ⟨v, hv, hoperand⟩ := harity.single (by simp [ho]) (by simp [ho])
    rw [hoperand] at h
    obtain rfl := Except.ok.inj h
    rw [fact, ho, hv, ← hterm]
    rfl
  · next ho =>
    obtain ⟨v, hv, hoperand⟩ := harity.single (by simp [ho]) (by simp [ho])
    rw [hoperand] at h
    obtain rfl := Except.ok.inj h
    rw [fact, ho, hv, ← hterm]
    rfl
  · next hin hbetween _ _ =>
    split at h
    · next sign hsign =>
      obtain ⟨v, hv, hoperand⟩ := harity.single hin hbetween
      rw [hoperand] at h
      obtain rfl := Except.ok.inj h
      exact reading_compareClause hterm (comparator?_eq_some hsign) hv
    · cases h

theorem lowerAll_ok {ns : List Node} {cs : List Clause} (h : lowerAll l ns = .ok cs) :
    List.Forall₂ (fun n c => lower l n = .ok c) ns cs := by
  induction ns generalizing cs with
  | nil =>
    obtain rfl := Except.ok.inj h
    exact .nil
  | cons n ns ih =>
    rw [lowerAll] at h
    split at h
    · cases h
    · next c hc =>
      split at h
      · next rest hrest =>
        obtain rfl := Except.ok.inj h
        exact .cons hc (ih hrest)
      · cases h

theorem plain_compareClause {t : Term} (ht : t.Plain) (o : Comparator) (v : Value) :
    (compareClause t o v).Plain := by
  unfold compareClause
  split
  · exact .isNull ht _
  · exact .isNull ht _
  · exact .compare ht _ _

theorem plain_operatorClause {t : Term} (ht : t.Plain) {c : Comparison} {clause : Clause}
    (h : operatorClause t c = .ok clause) : clause.Plain := by
  have hsingle : ∀ {f : Value → Clause}, (∀ v, (f v).Plain) → c.operand.map f = .ok clause →
      clause.Plain := by
    intro f hf h
    obtain ⟨v, _, rfl⟩ := Outcome.map_ok.mp h
    exact hf v
  unfold operatorClause at h
  split at h
  · obtain rfl := Except.ok.inj h
    cases c.operands with
    | nil => exact .constant false
    | cons v vs => exact .member ht (List.cons_ne_nil v vs)
  · split at h
    · obtain rfl := Except.ok.inj h
      exact .between ht _ _
    · cases h
  · exact hsingle (.like ht false) h
  · exact hsingle (.like ht true) h
  · split at h
    · exact hsingle (plain_compareClause ht _) h
    · cases h

theorem plain_junctionClause (how : Connective) {cs : List Clause} (h : ∀ c ∈ cs, c.Plain) :
    (junctionClause how cs).Plain := by
  cases cs with
  | nil => exact .constant _
  | cons c cs => exact .junction how (List.cons_ne_nil c cs) h

theorem plain_of_lower (hl : l.HasBareTable) {n : Node} {clause : Clause}
    (h : lower l n = .ok clause) : clause.Plain := by
  induction n using Formula.inductionOn generalizing clause with
  | atom a =>
    have hleaf : leafClause l a = .ok clause := by
      rw [lower] at h
      split at h
      · next hc => rw [← Except.ok.inj h, hc]
      · cases h
    cases a with
    | comparison c =>
      obtain ⟨r, href, hclause⟩ := Outcome.bind_ok.mp hleaf
      obtain ⟨rfl, hbare⟩ := reference_ok hl href
      have ht : Term.Plain ⟨l.place (Layout.textOf c.field), c.foldsCase⟩ := hbare
      exact plain_operatorClause ht hclause
    | bare o => cases hleaf
    | value v => cases hleaf
  | junction how parts ih =>
    rw [lower] at h
    split at h
    · next cs hcs =>
      obtain rfl := Except.ok.inj h
      apply plain_junctionClause
      intro c hc
      obtain ⟨n, hn, hlower⟩ := Outcome.exists_of_forall₂ (lowerAll_ok hcs).flip c hc
      exact ih n hn hlower
    · cases h

@[simp]
theorem readings_eq (ps : List Predicate) : readings l ps = ps.map (reading l) := by
  induction ps with
  | nil => rfl
  | cons p ps ih => rw [readings, ih, List.map_cons]

theorem lower_atom {c : Comparison} {clause : Clause} :
    lower l (Node.ofPredicate (.atom c)) = .ok clause ↔ comparisonClause l c = .ok clause := by
  rw [Node.ofPredicate, Formula.map, lower, leafClause]
  cases comparisonClause l c <;> simp

/-- What holds of every comparison and its clause, and of a junction once it holds of its parts,
holds of every predicate and its clause. -/
@[elab_as_elim]
theorem lower_induction {motive : Predicate → Clause → Prop} {p : Predicate} {clause : Clause}
    (h : lower l (Node.ofPredicate p) = .ok clause)
    (atom : ∀ c clause, comparisonClause l c = .ok clause → motive (.atom c) clause)
    (junction : ∀ how parts cs, List.Forall₂ motive parts cs →
      motive (.junction how parts) (junctionClause how cs)) :
    motive p clause := by
  induction p using Formula.inductionOn generalizing clause with
  | atom c => exact atom c clause (lower_atom.mp h)
  | junction how parts ih =>
    rw [Node.ofPredicate_junction, lower] at h
    split at h
    · next cs hcs =>
      obtain rfl := Except.ok.inj h
      have hlowered := List.forall₂_map_left_iff.mp (lowerAll_ok hcs)
      -- pointwise, so that each part is paired with its own clause
      exact junction how parts cs (Outcome.forall₂_of_mem hlowered fun p hp c hc => ih p hp hc)
    · cases h

theorem reading_junctionClause (how : Connective) (cs : List Clause) :
    (junctionClause how cs).reading = joined how (cs.map Clause.reading) := by
  rw [← Clause.readings_eq]
  cases cs <;> rfl

theorem reading_of_lower (hl : l.HasBareTable) {p : Predicate} (hp : ∀ c ∈ p.atoms, HasArity c)
    {clause : Clause} (h : lower l (Node.ofPredicate p) = .ok clause) :
    clause.reading = reading l p := by
  refine lower_induction (motive := fun p clause => (∀ c ∈ p.atoms, HasArity c) →
    clause.reading = reading l p) h ?_ ?_ hp
  · intro c clause hclause hc
    obtain ⟨r, href, hclause⟩ := Outcome.bind_ok.mp hclause
    obtain ⟨rfl, _⟩ := reference_ok hl href
    exact reading_operatorClause (hc c (by simp [Formula.atoms])) rfl hclause
  · intro how parts cs ih hatoms
    have hparts : List.Forall₂ (fun p c => reading l p = c.reading) parts cs := by
      apply Outcome.forall₂_of_mem ih
      intro p hp c hreading
      exact (hreading fun c hc => hatoms c (Formula.mem_atoms_junction.mpr ⟨p, hp, hc⟩)).symm
    rw [reading_junctionClause, reading, readings_eq, Outcome.map_eq_of_forall₂ hparts]

theorem lower_ok (hl : l.HasBareTable) {p : Predicate} (hp : ∀ c ∈ p.atoms, HasArity c)
    {clause : Clause} (h : lower l (Node.ofPredicate p) = .ok clause) :
    clause.Plain ∧ clause.reading = reading l p :=
  ⟨plain_of_lower hl h, reading_of_lower hl hp h⟩

theorem convert_predicate {p : Predicate} {clause : Clause} :
    convert l (Node.ofPredicate p) = .ok clause ↔
      (Node.ofPredicate p).check .sqlite l.refused = .ok () ∧
        lower l (Node.ofPredicate p) = .ok clause := by
  have hsome : isNothing (Node.ofPredicate p) = false := by cases p <;> rfl
  rw [convert, hsome, if_neg Bool.false_ne_true]
  cases (Node.ofPredicate p).check .sqlite l.refused <;> simp

theorem convert_ok {p : Predicate} {clause : Clause}
    (h : convert l (Node.ofPredicate p) = .ok clause) :
    lower l (Node.ofPredicate p) = .ok clause :=
  (convert_predicate.mp h).2

/-- Whatever a converter has converted before, the text it makes of a predicate and the values it
keeps beside it are read back as what the predicate asks, with no value left over. -/
theorem converted_reads_back {b b' : Converter} (hl : b.layout.HasBareTable) {p : Predicate}
    (hp : ∀ c ∈ p.atoms, HasArity c) {clause : Clause}
    (h : b.convert (Node.ofPredicate p) = (b', .ok clause)) :
    read clause.text b'.params = some (reading b.layout p) := by
  unfold Converter.convert at h
  split at h
  · next found hfound =>
    obtain ⟨rfl, hclause⟩ := Prod.mk.inj h
    obtain rfl := Except.ok.inj hclause
    obtain ⟨hplain, hreading⟩ := lower_ok hl hp (convert_ok hfound)
    rw [← hreading]
    exact hplain.read_text
  · cases h

namespace Example

def layout : Layout := ⟨.text "t", .text "meta \"x\"", [.text "id?"], []⟩

def leaf (field : String) (o : Operator) (operands : List Value) : Predicate :=
  .atom ⟨.text field, o, operands, false⟩

/-- Names that look like the text around them, and empty and single junctions. -/
def predicate : Predicate :=
  .junction .any [
    .junction .all [leaf "id?" .between [.text "a", .text "b"],
      leaf "') OR \"x\" = ?" .eq [.null],
      .junction .any [.atom ⟨.text "", .notLike, [.text "%v%"], true⟩]],
    .junction .all [],
    leaf "id?" .isIn [.null, .text "?", .bool true],
    leaf "x" .isIn []]

def term (field : String) (folded : Bool) : Term := ⟨layout.place field, folded⟩

def clause : Clause :=
  .junction .any [
    .junction .all [.between (term "id?" false) (.text "a") (.text "b"),
      .isNull (term "') OR \"x\" = ?" false) false,
      .junction .any [.like (term "" true) true (.text "%v%")]],
    .constant true,
    .member (term "id?" false) [.null, .text "?", .bool true],
    .constant false]

def values : List Value :=
  [.text "a", .text "b", .text "%v%", .null, .text "?", .bool true]

end Example

theorem converted_reads_back_nested :
    Converter.convert ⟨Example.layout, [.text "old"]⟩ (Node.ofPredicate Example.predicate) =
      (⟨Example.layout, Example.values⟩, .ok Example.clause) ∧
    Example.layout.HasBareTable ∧ (∀ c ∈ Example.predicate.atoms, HasArity c) ∧
    read Example.clause.text Example.values =
      some (reading Example.layout Example.predicate) := by
  have hl : Example.layout.HasBareTable := .inr ⟨"t", rfl, by decide +kernel⟩
  have hp : ∀ c ∈ Example.predicate.atoms, HasArity c := by
    simp [Example.predicate, Example.leaf, Formula.atoms, HasArity]
  have h : Converter.convert ⟨Example.layout, [.text "old"]⟩ (Node.ofPredicate Example.predicate) =
      (⟨Example.layout, Example.values⟩, .ok Example.clause) := by cbv
  exact ⟨h, hl, hp, @converted_reads_back ⟨Example.layout, _⟩ ⟨_, Example.values⟩ hl _ hp _ h⟩

example : (Clause.isNull (Example.term "') OR \"x\" = ?" false) false).text =
    "json_extract(t.\"meta \"\"x\"\"\", '$.'') OR \"x\" = ?') IS NULL" := by
  decide +kernel

end TableQuery.Sqlite
