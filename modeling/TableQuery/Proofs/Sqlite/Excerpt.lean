import TableQuery.Proofs.Sqlite.Search
import TableQuery.Proofs.Text.Excerpt

/-!
# Searching for what is there

A text that has a value in it, letter for letter, should be found by a search for that value. The
value is taken in small letters alone and the text as a whole, so it is found for certain exactly
when the small letters of the value do not depend on what stands around it.
-/
namespace TableQuery

open Text

namespace MatchMode

theorem finds_iff_stands {m : MatchMode} {openLeft openRight : Bool} {needle text : List Char}
    (h : m.demand = .pattern .like openLeft openRight) :
    m.Finds needle text ↔ Stands openLeft openRight needle text := by
  cases m <;> simp only [demand, Demand.pattern.injEq, reduceCtorEq, false_and] at h
  case contains =>
    obtain ⟨_, rfl, rfl⟩ := h
    simp [Finds, Stands, List.IsInfix, eq_comm]
  case startsWith =>
    obtain ⟨_, rfl, rfl⟩ := h
    simp [Finds, Stands, List.IsPrefix, eq_comm]
  case endsWith =>
    obtain ⟨_, rfl, rfl⟩ := h
    simp [Finds, Stands, List.IsSuffix, eq_comm]

end MatchMode

namespace Sqlite

theorem like_self (p : List Char) : like p p = true := by
  induction p with
  | nil => rfl
  | cons c p ih =>
    by_cases hc : c = '%'
    · subst hc
      exact like_percent.mpr ⟨['%'], p, rfl, ih⟩
    · exact (like_cons hc).mpr ⟨c, p, rfl, .inr rfl, ih⟩

theorem count_le_of_like {p s : List Char} {d : Char} (hd : isWildcard d = false)
    (h : like p s = true) : p.count d ≤ s.count d := by
  induction p generalizing s with
  | nil => simp
  | cons c p ih =>
    by_cases hc : c = '%'
    · subst hc
      obtain ⟨a, b, rfl, hb⟩ := like_percent.mp h
      have hne : '%' ≠ d := by
        rintro rfl
        cases hd
      rw [List.count_cons_of_ne hne, List.count_append]
      exact (ih hb).trans (Nat.le_add_left _ _)
    · obtain ⟨e, b, rfl, he, hb⟩ := (like_cons hc).mp h
      have hrest := ih hb
      rw [List.count_cons, List.count_cons]
      rcases he with rfl | rfl
      · have hne : '_' ≠ d := by
          rintro rfl
          cases hd
        simp only [beq_iff_eq, if_neg hne]
        omega
      · omega

variable {m : MatchMode} {openLeft openRight : Bool} {needle text : List Char}

theorem fits_of_finds (hdemand : m.demand = .pattern .like openLeft openRight)
    (h : m.Finds needle text) : m.Fits needle text := by
  cases m <;> first | exact ⟨needle, h, like_self needle⟩ | cases hdemand

theorem count_le_of_fits (hdemand : m.demand = .pattern .like openLeft openRight) {d : Char}
    (hd : isWildcard d = false) (h : m.Fits needle text) : needle.count d ≤ text.count d := by
  have hpart : ∃ part, part.Sublist text ∧ like needle part = true := by
    cases m <;> simp only [MatchMode.demand, reduceCtorEq] at hdemand
    case contains =>
      obtain ⟨part, hpart, hlike⟩ := h
      exact ⟨part, hpart.sublist, hlike⟩
    case startsWith =>
      obtain ⟨part, hpart, hlike⟩ := h
      exact ⟨part, hpart.sublist, hlike⟩
    case endsWith =>
      obtain ⟨part, hpart, hlike⟩ := h
      exact ⟨part, hpart.sublist, hlike⟩
    all_goals simp at hdemand
  obtain ⟨part, hpart, hlike⟩ := hpart
  exact (count_le_of_like hd hlike).trans (hpart.count_le d)

section Clause

variable {r : Resolver} {l : Layout} {field : Value} {ref : ColumnRef} {c : Criterion} {v : String}

/-- A search finds every text that has its value in it, letter for letter, where its mode looks for
it, exactly when no sigma of the value waits for what may stand around it there; so it always does
if the value has no capital sigma. -/
theorem search_keeps_excerpts_iff (hfield : r.require field = .ok .text)
    (href : l.reference field = .ok ref) (hvalue : c.value = .text v)
    (hmode : c.mode.getD .contains = m) (hdemand : m.demand = .pattern .like openLeft openRight)
    (hallowed : .like ∉ l.refused) :
    ∃ q clause, Comparison.ofCriterion r field c = .ok q ∧
      convert l (.atom (.comparison q)) = .ok clause ∧
      ((∀ row other s, row ref = .text s → m.Finds v.toList s.toList →
        clause.keeps row other = true) ↔ Settled openLeft openRight v.toList) ∧
      ('Σ' ∉ v.toList → ∀ row other s, row ref = .text s → m.Finds v.toList s.toList →
        clause.keeps row other = true) := by
  have hm : m ∈ MatchMode.searches := by
    cases m <;> first | decide | cases hdemand
  obtain ⟨o, openLeft', openRight', negated, hdemand', ho, hpattern⟩ := searches_pattern hm
  obtain ⟨rfl, rfl, rfl⟩ := MatchMode.Demand.pattern.inj (hdemand.symm.trans hdemand')
  obtain rfl : negated = false := by
    cases negated
    · rfl
    · cases ho
  have hkeeps : ∀ row other s, row ref = .text s →
      ((Clause.like ⟨ref, true⟩ false (.text (Comparison.pattern openLeft openRight
        (Text.lower v)))).keeps row other = true ↔
          m.Fits (lowerChars v.toList) (lowerChars s.toList)) := by
    intro row other s hs
    rw [keeps_like row other hs, hpattern, Text.lower, String.toList_ofList]
  have hexact : (∀ row other s, row ref = .text s → m.Finds v.toList s.toList →
      (Clause.like ⟨ref, true⟩ false (.text (Comparison.pattern openLeft openRight
        (Text.lower v)))).keeps row other = true) ↔ Settled openLeft openRight v.toList := by
    constructor
    · intro h
      by_contra hopen
      obtain ⟨t, d, hstands, hd, hlost⟩ := exists_count_lt hopen
      have hplain : isWildcard d = false := by
        rcases hd with rfl | rfl <;> rfl
      have hfound := h (fun _ => .text (String.ofList t)) (fun _ _ => false) (String.ofList t) rfl
      rw [hkeeps _ _ _ rfl, String.toList_ofList] at hfound
      have hfits := hfound ((MatchMode.finds_iff_stands hdemand).mpr hstands)
      exact absurd (count_le_of_fits hdemand hplain hfits) (Nat.not_le.mpr hlost)
    · intro hsettled row other s hs hfinds
      rw [hkeeps row other s hs]
      have hstands := stands_lowerChars hsettled ((MatchMode.finds_iff_stands hdemand).mp hfinds)
      exact fits_of_finds hdemand ((MatchMode.finds_iff_stands hdemand).mpr hstands)
  exact ⟨_, _, search_comparison hfield hvalue hmode hdemand, search_clause href ho hallowed _,
    hexact, fun hsigma => hexact.mpr (settled_of_not_mem openLeft openRight hsigma)⟩

end Clause

namespace Example

/-- A search for two letters, the second of which ends a word when they stand alone. -/
def ending : Criterion := ⟨.text "ΑΣ", none, none⟩

def endingLike : Comparison := ⟨.text "name", .like, [.text "%ας%"], true⟩

def endingClause : Clause := .like ⟨.column none "name", true⟩ false (.text "%ας%")

end Example

/-- The letters are not found in a word that goes on behind them. -/
theorem search_keeps_excerpts_iff_ending :
    Comparison.ofCriterion Example.names (.text "name") Example.ending = .ok Example.endingLike ∧
    convert Example.plain (.atom (.comparison Example.endingLike)) = .ok Example.endingClause ∧
    ¬ (∀ row other s, row (.column none "name") = .text s →
      MatchMode.contains.Finds "ΑΣ".toList s.toList →
        Example.endingClause.keeps row other = true) ∧
    MatchMode.contains.Finds "ΑΣ".toList "ΑΣΑ".toList ∧
    Example.endingClause.keeps (fun _ => .text "ΑΣΑ") (fun _ _ => false) = false := by
  have hq : Comparison.ofCriterion Example.names (.text "name") Example.ending =
      .ok Example.endingLike := by cbv
  have hclause : convert Example.plain (.atom (.comparison Example.endingLike)) =
      .ok Example.endingClause := by cbv
  have hfield : Example.names.require (.text "name") = .ok .text := by cbv
  have href : Example.plain.reference (.text "name") = .ok (.column none "name") := by cbv
  obtain ⟨q, clause, hq', hclause', hexact, _⟩ :=
    @search_keeps_excerpts_iff .contains true true Example.names Example.plain _ _ Example.ending
      "ΑΣ" hfield href rfl rfl rfl List.not_mem_nil
  obtain rfl := Except.ok.inj (hq.symm.trans hq')
  obtain rfl := Except.ok.inj (hclause.symm.trans hclause')
  have hopen : ¬ Settled true true "ΑΣ".toList := by decide +kernel
  refine ⟨hq, hclause, fun h => hopen (hexact.mp h), ⟨[], ['Α'], rfl⟩, ?_⟩
  have hnot : like "%ας%".toList (lowerChars "ΑΣΑ".toList) = false := by decide +kernel
  rw [Example.endingClause, keeps_like _ _ rfl, hnot]
  rfl

end Sqlite
end TableQuery
