import TableQuery.Predicate.OfCriterion
import TableQuery.Proofs.Outcome
import TableQuery.Proofs.Sqlite.Truth
import TableQuery.Proofs.Text.Casing

/-!
# Searching texts

A criterion that searches a text column becomes a clause with a pattern. The value is put into the
pattern as it is, so that its own `%` and `_` are wildcards too: the clause finds what fits the
value, which is what the mode promises for the values without wildcards and for no others.
-/
namespace TableQuery

namespace MatchMode

def searches : List MatchMode := [contains, notContains, startsWith, endsWith]

/-- What a mode promises about a text and what it is searched for. -/
def Finds (m : MatchMode) (needle text : List Char) : Prop :=
  match m with
  | contains => needle <:+: text
  | notContains => ¬ needle <:+: text
  | startsWith => needle <+: text
  | endsWith => needle <:+ text
  | _ => False

/-- What a mode finds when the value is read as a pattern. -/
def Fits (m : MatchMode) (value text : List Char) : Prop :=
  match m with
  | contains => ∃ part, part <:+: text ∧ Sqlite.like value part = true
  | notContains => ¬ ∃ part, part <:+: text ∧ Sqlite.like value part = true
  | startsWith => ∃ part, part <+: text ∧ Sqlite.like value part = true
  | endsWith => ∃ part, part <:+ text ∧ Sqlite.like value part = true
  | _ => False

end MatchMode

namespace Sqlite

open Text

variable {m : MatchMode} {needle text : List Char}

theorem fits_iff_finds (h : needle.any isWildcard = false) :
    m.Fits needle text ↔ m.Finds needle text := by
  have hlike : ∀ part, like needle part = true ↔ part = needle := fun part => like_plain h
  cases m <;> simp [MatchMode.Fits, MatchMode.Finds, hlike]

/-- The needle itself has no place in a text without wildcards that fits it. -/
theorem not_fits_filled (hm : m ∈ MatchMode.searches) (h : needle.any isWildcard = true) :
    ¬ (m.Fits needle (filled needle) ↔ m.Finds needle (filled needle)) := by
  obtain ⟨c, hc, hwild⟩ := List.any_eq_true.mp h
  have hnot : c ∉ filled needle := by
    intro hmem
    rcases mem_filled hmem with rfl | ⟨_, hplain⟩
    · cases hwild
    · rw [hplain] at hwild
      cases hwild
  have hfits := like_filled needle
  simp only [MatchMode.searches, List.mem_cons, List.not_mem_nil, or_false] at hm
  rcases hm with rfl | rfl | rfl | rfl
  · exact fun hiff => hnot ((hiff.mp ⟨_, List.infix_rfl, hfits⟩).subset hc)
  · exact fun hiff => hiff.mpr (fun hin => hnot (hin.subset hc)) ⟨_, List.infix_rfl, hfits⟩
  · exact fun hiff => hnot ((hiff.mp ⟨_, List.prefix_rfl, hfits⟩).subset hc)
  · exact fun hiff => hnot ((hiff.mp ⟨_, List.suffix_rfl, hfits⟩).subset hc)

theorem lowerChars_filled (v : List Char) :
    lowerChars (filled (lowerChars v)) = filled (lowerChars v) := by
  refine lowerFrom_of_isSmall fun c hc => ?_
  rcases mem_filled hc with rfl | ⟨hmem, _⟩
  · exact ⟨by decide, by decide, by decide +kernel⟩
  · exact isSmall_of_mem_lowerFrom hmem

theorem any_wildcard_lower (v : List Char) :
    (lowerChars v).any isWildcard = v.any isWildcard := by
  have hpercent : '%' ∈ lowerChars v ↔ '%' ∈ v :=
    mem_lowerChars_of_special (by decide) isSmall_percent
  have hone : '_' ∈ lowerChars v ↔ '_' ∈ v :=
    mem_lowerChars_of_special (by decide) ⟨by decide, by decide, by decide +kernel⟩
  have hany : ∀ t : List Char, t.any isWildcard = true ↔ '%' ∈ t ∨ '_' ∈ t := by
    intro t
    simp [isWildcard, and_or_left, exists_or]
  rw [Bool.eq_iff_iff, hany, hany, hpercent, hone]

section Clause

variable {r : Resolver} {l : Layout} {field : Value} {ref : ColumnRef} {c : Criterion} {v : String}

theorem search_comparison (hfield : r.require field = .ok .text) (hvalue : c.value = .text v)
    (hmode : c.mode.getD .contains = m) {o : Operator} {openLeft openRight : Bool}
    (hdemand : m.demand = .pattern o openLeft openRight) :
    Comparison.ofCriterion r field c =
      .ok ⟨field, o, [.text (Comparison.pattern openLeft openRight (Text.lower v))], true⟩ := by
  have hdefault : c.mode.getD (Category.defaultMode .text) = m := hmode
  have happlies : m.appliesTo .text = true := rfl
  rw [Comparison.ofCriterion, hfield]
  change (if (c.mode.getD (Category.defaultMode .text)).appliesTo .text = true then
    Comparison.onText field (c.mode.getD (Category.defaultMode .text)) c.value
    else (Fault.modeRefused field (c.mode.getD (Category.defaultMode .text)) .text).raise) = _
  rw [hdefault, happlies, if_pos rfl, Comparison.onText, hdemand, hvalue]
  rfl

theorem search_clause (href : l.reference field = .ok ref) {o : Operator} {negated : Bool}
    (ho : o = if negated then .notLike else .like) (hallowed : o ∉ l.refused) (pattern : Value) :
    convert l (.atom (.comparison ⟨field, o, [pattern], true⟩)) =
      .ok (.like ⟨ref, true⟩ negated pattern) := by
  have hcheck : Node.check .sqlite l.refused (.atom (.comparison ⟨field, o, [pattern], true⟩)) =
      .ok () := by
    simp [Node.check, Formula.visit, Node.checkLeaf, Node.permit, hallowed]
  have hclause : comparisonClause l ⟨field, o, [pattern], true⟩ =
      .ok (.like ⟨ref, true⟩ negated pattern) := by
    rw [comparisonClause, href, ho]
    cases negated <;> rfl
  unfold convert
  rw [hcheck]
  simp [isNothing, lower, leafClause, hclause]

theorem keeps_like (row : ColumnRef → Value) (other : Clause → Value → Bool) {s p : String}
    (hs : row ref = .text s) (negated : Bool) :
    (Clause.like ⟨ref, true⟩ negated (.text p)).keeps row other =
      (like p.toList (lowerChars s.toList) != negated) := by
  have htruth : (Clause.like ⟨ref, true⟩ negated (.text p)).truth row other =
      some (like p.toList (lowerChars s.toList) != negated) := by
    simp only [Clause.truth, Clause.ask, Term.valueIn, hs, foldValue, if_true, Clause.answer,
      Text.lower, String.toList_ofList]
  rw [Clause.keeps, htruth]
  cases like p.toList (lowerChars s.toList) != negated <;> rfl

theorem searches_pattern (hm : m ∈ MatchMode.searches) :
    ∃ o openLeft openRight negated, m.demand = .pattern o openLeft openRight ∧
      o = (if negated then .notLike else .like) ∧ ∀ value text,
        (like (Comparison.pattern openLeft openRight value).toList text != negated) = true ↔
          m.Fits value.toList text := by
  simp only [MatchMode.searches, List.mem_cons, List.not_mem_nil, or_false] at hm
  rcases hm with rfl | rfl | rfl | rfl
  · refine ⟨.like, true, true, false, rfl, rfl, fun value text => ?_⟩
    have hpattern : (Comparison.pattern true true value).toList =
        '%' :: (value.toList ++ ['%']) := by simp [Comparison.pattern]
    rw [hpattern, Bool.bne_false]
    exact like_open
  · refine ⟨.notLike, true, true, true, rfl, rfl, fun value text => ?_⟩
    have hpattern : (Comparison.pattern true true value).toList =
        '%' :: (value.toList ++ ['%']) := by simp [Comparison.pattern]
    rw [hpattern, Bool.bne_true, Bool.not_eq_true', Bool.eq_false_iff]
    exact not_congr like_open
  · refine ⟨.like, false, true, false, rfl, rfl, fun value text => ?_⟩
    have hpattern : (Comparison.pattern false true value).toList = value.toList ++ ['%'] := by
      simp [Comparison.pattern]
    rw [hpattern, Bool.bne_false]
    exact like_open_right
  · refine ⟨.like, true, false, false, rfl, rfl, fun value text => ?_⟩
    have hpattern : (Comparison.pattern true false value).toList = '%' :: value.toList := by
      simp [Comparison.pattern]
    rw [hpattern, Bool.bne_false]
    exact like_open_left

/-- A search finds the texts that fit its value as a pattern. These are the texts that its mode
promises, whatever is stored, exactly when the value has no wildcard. -/
theorem search_keeps_iff (hfield : r.require field = .ok .text)
    (href : l.reference field = .ok ref) (hvalue : c.value = .text v)
    (hmode : c.mode.getD .contains = m) (hm : m ∈ MatchMode.searches)
    (hallowed : .like ∉ l.refused ∧ .notLike ∉ l.refused) :
    ∃ q clause, Comparison.ofCriterion r field c = .ok q ∧
      convert l (.atom (.comparison q)) = .ok clause ∧
      (∀ row other s, row ref = .text s → (clause.keeps row other = true ↔
        m.Fits (lowerChars v.toList) (lowerChars s.toList))) ∧
      ((∀ row other s, row ref = .text s → (clause.keeps row other = true ↔
        m.Finds (lowerChars v.toList) (lowerChars s.toList))) ↔
          v.toList.any isWildcard = false) := by
  obtain ⟨o, openLeft, openRight, negated, hdemand, ho, hpattern⟩ := searches_pattern hm
  have hallow : o ∉ l.refused := by
    rw [ho]
    cases negated
    · exact hallowed.1
    · exact hallowed.2
  have hkeeps : ∀ row other s, row ref = .text s →
      ((Clause.like ⟨ref, true⟩ negated (.text (Comparison.pattern openLeft openRight
        (Text.lower v)))).keeps row other = true ↔
          m.Fits (lowerChars v.toList) (lowerChars s.toList)) := by
    intro row other s hs
    rw [keeps_like row other hs, hpattern, Text.lower, String.toList_ofList]
  refine ⟨_, _, search_comparison hfield hvalue hmode hdemand, search_clause href ho hallow _,
    hkeeps, ?_⟩
  constructor
  · intro h
    rw [← any_wildcard_lower, Bool.eq_false_iff]
    intro hwild
    let s := String.ofList (filled (lowerChars v.toList))
    have hs : lowerChars s.toList = filled (lowerChars v.toList) := by
      rw [String.toList_ofList, lowerChars_filled]
    refine not_fits_filled hm hwild ?_
    rw [← hs, ← hkeeps (fun _ => .text s) (fun _ _ => false) s rfl]
    exact h (fun _ => .text s) (fun _ _ => false) s rfl
  · intro hplain row other s hs
    rw [hkeeps row other s hs, fits_iff_finds]
    rw [any_wildcard_lower, hplain]

end Clause

namespace Example

def names : Resolver := .table [(.text "name", .text)]

def plain : Layout := ⟨.null, .null, [], []⟩

def percentage : Criterion := ⟨.text "100%", some .contains, none⟩

def percentLike : Comparison := ⟨.text "name", .like, [.text "%100%%"], true⟩

def percentClause : Clause := .like ⟨.column none "name", true⟩ false (.text "%100%%")

end Example

/-- A name with a hundred and no percentage in it is found by a search for the percentage. -/
theorem search_keeps_iff_percentage :
    Comparison.ofCriterion Example.names (.text "name") Example.percentage =
      .ok Example.percentLike ∧
    convert Example.plain (.atom (.comparison Example.percentLike)) = .ok Example.percentClause ∧
    Example.percentClause.keeps (fun _ => .text "1000 m") (fun _ _ => false) = true ∧
    ¬ MatchMode.contains.Finds (lowerChars "100%".toList) (lowerChars "1000 m".toList) ∧
    ¬ ∀ row other s, row (.column none "name") = .text s →
      (Example.percentClause.keeps row other = true ↔
        MatchMode.contains.Finds (lowerChars "100%".toList) (lowerChars s.toList)) := by
  have hq : Comparison.ofCriterion Example.names (.text "name") Example.percentage =
      .ok Example.percentLike := by cbv
  have hclause : convert Example.plain (.atom (.comparison Example.percentLike)) =
      .ok Example.percentClause := by cbv
  have hfield : Example.names.require (.text "name") = .ok .text := by cbv
  have href : Example.plain.reference (.text "name") = .ok (.column none "name") := by cbv
  obtain ⟨q, clause, hq', hclause', hfits, hexact⟩ :=
    @search_keeps_iff .contains Example.names Example.plain _ _ Example.percentage "100%" hfield
      href rfl rfl (by decide) ⟨List.not_mem_nil, List.not_mem_nil⟩
  obtain rfl := Except.ok.inj (hq.symm.trans hq')
  obtain rfl := Except.ok.inj (hclause.symm.trans hclause')
  have hnot : ¬ lowerChars "100%".toList <:+: lowerChars "1000 m".toList := by decide +kernel
  refine ⟨hq, hclause, ?_, hnot, fun h => absurd (hexact.mp h) (by decide)⟩
  rw [hfits _ _ "1000 m" rfl]
  exact ⟨"1000".toList, by decide +kernel, by decide +kernel⟩

end Sqlite
end TableQuery
