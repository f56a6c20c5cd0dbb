import TableQuery.Proofs.Predicate.Bounds
import TableQuery.Proofs.Qdrant.Lowered
import TableQuery.Proofs.Text.Excerpt

/-!
# What becomes of a search

A criterion on a text field should end in a full-text search if its pattern is open on both sides,
and be refused if it is not, and if it asks for a range. The lowering only has the text of the
pattern to tell them apart, and the value is part of that text. So a pattern with one open side
passes for one with two exactly when the value has a wildcard at the other side; what is searched
for is then the value without it.
-/
namespace TableQuery

namespace Comparison

variable {r : Resolver} {field v : Value} {m : MatchMode} {c : Criterion} {q : Comparison}

theorem foldedText_display {s : String} (h : foldedText field m v = .ok s) :
    ∃ t, v.display = .ok t ∧ s = Text.lower t := by
  unfold foldedText at h
  split at h
  case h_7 =>
    obtain ⟨t, ht, rfl⟩ := Outcome.map_ok.mp h
    exact ⟨t, ht, rfl⟩
  all_goals exact absurd h Outcome.raise_ne_ok

theorem onText_of_ofCriterion (hk : r.require field = .ok .text)
    (h : ofCriterion r field c = .ok q) :
    onText field (c.mode.getD .contains) c.value = .ok q := by
  rw [ofCriterion, hk] at h
  exact h

theorem pattern_of_ofCriterion {o : Operator} {openLeft openRight : Bool}
    (hk : r.require field = .ok .text) (h : ofCriterion r field c = .ok q)
    (hdemand : (c.mode.getD .contains).demand = .pattern o openLeft openRight) :
    ∃ t, c.value.display = .ok t ∧
      q = ⟨field, o, [.text (pattern openLeft openRight (Text.lower t))], true⟩ := by
  have h := onText_of_ofCriterion hk h
  rw [onText, hdemand] at h
  obtain ⟨s, hs, h⟩ := Outcome.bind_ok.mp h
  obtain ⟨t, ht, rfl⟩ := foldedText_display hs
  exact ⟨t, ht, (Except.ok.inj h).symm⟩

end Comparison

namespace Qdrant

open Comparison Outcome

/-! ## Patterns -/

section Pattern

variable {p s : List Char}

theorem innerText_eq_some : innerText p = some s ↔ p = '%' :: (s ++ ['%']) := by
  constructor
  · intro h
    unfold innerText at h
    split at h
    · split at h
      · next hlast =>
        obtain ⟨inner, rfl⟩ := List.getLast?_eq_some_iff.mp hlast
        rw [List.dropLast_concat, Option.some_inj] at h
        rw [h]
      · cases h
    · cases h
  · rintro rfl
    rw [innerText, List.getLast?_concat, if_pos rfl, List.dropLast_concat]

theorem innerText_eq_none : innerText p = none ↔ ∀ s, p ≠ '%' :: (s ++ ['%']) := by
  simp only [Option.eq_none_iff_forall_ne_some, ne_eq, innerText_eq_some]

theorem innerText_open (s : String) : innerText (pattern true true s).toList = some s.toList := by
  rw [innerText_eq_some]
  simp [pattern]

theorem innerText_openRight (s : String) :
    innerText (pattern false true s).toList =
      if s.toList.head? = some '%' then some s.toList.tail else none := by
  have hpattern : (pattern false true s).toList = s.toList ++ ['%'] := by simp [pattern]
  rw [hpattern]
  split
  · next hhead =>
    obtain ⟨rest, hrest⟩ := List.head?_eq_some_iff.mp hhead
    rw [innerText_eq_some, hrest, List.tail_cons, List.cons_append]
  · next hhead =>
    rw [innerText_eq_none]
    intro inner hinner
    rw [← List.cons_append] at hinner
    rw [List.append_cancel_right hinner] at hhead
    exact hhead rfl

theorem innerText_openLeft (s : String) :
    innerText (pattern true false s).toList =
      if s.toList.getLast? = some '%' then some s.toList.dropLast else none := by
  have hpattern : (pattern true false s).toList = '%' :: s.toList := by simp [pattern]
  rw [hpattern, innerText]

theorem head?_lower (t : String) :
    (Text.lower t).toList.head? = some '%' ↔ t.toList.head? = some '%' := by
  rw [Text.lower, String.toList_ofList]
  exact Text.head?_lowerChars_of_special (by decide) ⟨by decide, by decide, by decide +kernel⟩

theorem getLast?_lower (t : String) :
    (Text.lower t).toList.getLast? = some '%' ↔ t.toList.getLast? = some '%' := by
  rw [Text.lower, String.toList_ofList]
  exact Text.getLast?_lowerChars_of_special (by decide) ⟨by decide, by decide, by decide +kernel⟩

end Pattern

/-! ## Conditions -/

variable {l : Layout} {p : Predicate} {q : Comparison} {key : String}

def Condition.stated (asked : Bool) (c : Condition) : Condition :=
  if asked then c else .allOf [] [c]

def searchOperator (asked : Bool) : Operator := if asked then .like else .notLike

/-- A pattern is searched for by what stands inside it, and refused if nothing does. -/
theorem condition_of_pattern (asked : Bool) (field : Value) (s : String) (folds : Bool) :
    operatorCondition (.ok key) ⟨field, searchOperator asked, [.text s], folds⟩ =
      match innerText s.toList with
      | some inner => .ok (.stated asked (.test key (.hasText (String.ofList inner))))
      | none => .error (.operatorRefused (searchOperator asked) .qdrantAffixPatterns) := by
  cases hinner : innerText s.toList with
  | some inner =>
    have hsubstring : ∀ o, substring o (.text s) = .ok (String.ofList inner) := by
      intro o
      rw [substring, hinner]
    cases asked <;>
      simp [operatorCondition, searchOperator, operand, hsubstring, testUnder, Condition.stated,
        Except.map, bind, Except.bind]
  | none =>
    have hsubstring : ∀ o, substring o (.text s) =
        .error (.operatorRefused o .qdrantAffixPatterns) := by
      intro o
      rw [substring, hinner, affixRefused]
    cases asked <;> simp [operatorCondition, searchOperator, operand, hsubstring, bind, Except.bind]

theorem condition_of_textRange (hfolds : q.foldsCase = true)
    (hop : q.operator ∈ Operator.bounding) :
    operatorCondition (.ok key) q = .error (.operatorRefused q.operator .qdrantTextRanges) := by
  obtain ⟨field, o, operands, folds⟩ := q
  obtain rfl : folds = true := hfolds
  cases o <;> first
    | rfl
    | simp [Operator.bounding] at hop

/-! ## Searches in a predicate -/

/-- The conversion fails at a comparison, wherever it stands, if none of those before it has. -/
def FailsAt (l : Layout) (p : Predicate) (q : Comparison) (f : Fault) : Prop :=
  ∀ before after, p.atoms = before ++ q :: after →
    fault? (convert l (Node.ofPredicate p)) =
      (firstFault (before.map (comparisonCondition l))).or (some f)

/-- A comparison searches its field for a text. In a filter the search stands where it is asked for
or denied. -/
def Searches (l : Layout) (p : Predicate) (q : Comparison) (asked : Bool) (text : String) : Prop :=
  ∃ key, l.key q.field = .ok key ∧
    comparisonCondition l q = .ok (.stated asked (.test key (.hasText text))) ∧
    ∀ f, convert l (Node.ofPredicate p) = .ok (some f) →
      .test key (.hasText text) ∈ f.standing asked

theorem mem_standing_of_stated {asked : Bool} {t : Test} {f : Condition} (hq : q ∈ p.atoms)
    (hc : comparisonCondition l q = .ok (.stated asked (.test key t)))
    (h : convert l (Node.ofPredicate p) = .ok (some f)) : .test key t ∈ f.standing asked := by
  obtain ⟨c, hpositive, hsingle, hstated⟩ := comparisonCondition_ok hc
  have hstanding := mem_standing_of_convert hq hpositive h
  cases hdenies : q.denies with
  | true =>
    rw [hdenies] at hstated hstanding
    cases asked with
    | true =>
      have hstated : Condition.test key t = .allOf [] [c] := hstated
      cases hstated
    | false =>
      have hstated : Condition.allOf [] [.test key t] = .allOf [] [c] := hstated
      obtain rfl : Condition.test key t = c := by simpa using hstated
      exact hstanding
  | false =>
    rw [hdenies] at hstated hstanding
    cases asked with
    | true =>
      obtain rfl : Condition.test key t = c := hstated
      exact hstanding
    | false =>
      obtain rfl : Condition.allOf [] [.test key t] = c := hstated
      cases hsingle

/-- A pattern is searched for by what is inside it, or refused when it is open on one side only. -/
theorem searches_or_failsAt {asked openLeft openRight : Bool} {s name : String}
    (hl : l.refused = []) (hroot : ∃ s, l.root.display = .ok s) (hmem : q ∈ p.atoms)
    (hq : q = ⟨.text name, searchOperator asked, [.text (pattern openLeft openRight s)], true⟩) :
    (∀ inner, innerText (pattern openLeft openRight s).toList = some inner →
      Searches l p q asked (String.ofList inner)) ∧
    (innerText (pattern openLeft openRight s).toList = none →
      FailsAt l p q (.operatorRefused (searchOperator asked) .qdrantAffixPatterns)) := by
  have hname : q.field = .text name := by rw [hq]
  obtain ⟨key, hkey, hcondition⟩ := comparisonCondition_of_text hroot hname
  have hsearch := @condition_of_pattern key asked (.text name)
    (pattern openLeft openRight s) true
  rw [← hq] at hsearch
  rw [hsearch] at hcondition
  constructor
  · intro inner hinner
    rw [hinner] at hcondition
    exact ⟨key, hkey, hcondition, fun f hf => mem_standing_of_stated hmem hcondition hf⟩
  · intro hinner before after hsplit
    rw [hinner] at hcondition
    exact fault?_convert_of_split hl hsplit hcondition

end Qdrant

open Qdrant Comparison Predicate

section Request

variable {r : Resolver} {s : SearchSet} {request : Request} {l : Layout} {p : Predicate}
  {e : String × List Criterion} {c : Criterion} {field : Value}

/-- A criterion on a text field has its comparison in the predicate. What it contains, or does not,
is searched for in full, as the small letters of its value. What it starts or ends with is refused,
unless the value itself begins, or ends, with a wildcard: then the rest of it is searched for. A
range is refused. -/
theorem Qdrant.search_converted (hl : l.refused = []) (hroot : ∃ s, l.root.display = .ok s)
    (hsearched : ∀ v ∈ s.fields, ∃ t, v = .text t)
    (h : (ofRequestWith r (.ok s) request).outcome = .ok (some p)) (he : e ∈ request.criteria)
    (hc : c ∈ e.2) (hfield : field ∈ targets request.globalField s.fields e.1)
    (htext : r.require field = .ok .text) :
    ∃ q ∈ p.atoms, ofCriterion r field c = .ok q ∧
      (c.mode.getD .contains = .contains →
        ∃ t, c.value.display = .ok t ∧ Searches l p q true (Text.lower t)) ∧
      (c.mode.getD .contains = .notContains →
        ∃ t, c.value.display = .ok t ∧ Searches l p q false (Text.lower t)) ∧
      (c.mode.getD .contains = .startsWith → ∃ t, c.value.display = .ok t ∧
        if t.toList.head? = some '%' then
          Searches l p q true (String.ofList (Text.lower t).toList.tail)
        else FailsAt l p q (.operatorRefused .like .qdrantAffixPatterns)) ∧
      (c.mode.getD .contains = .endsWith → ∃ t, c.value.display = .ok t ∧
        if t.toList.getLast? = some '%' then
          Searches l p q true (String.ofList (Text.lower t).toList.dropLast)
        else FailsAt l p q (.operatorRefused .like .qdrantAffixPatterns)) ∧
      ((c.mode.getD .contains).demand.operator ∈ Operator.bounding →
        FailsAt l p q (.operatorRefused q.operator .qdrantTextRanges)) := by
  obtain ⟨q, hq, hbuilds⟩ := asked_of_outcome h he hc hfield
  have hmem : q ∈ p.atoms := hq
  obtain ⟨name, rfl⟩ := targets_text hsearched field hfield
  obtain ⟨k, hk, hbuilt⟩ := ofCriterion_ok hbuilds
  obtain rfl := Except.ok.inj (htext.symm.trans hk)
  -- every mode that searches asks for one pattern, which is searched for or refused
  have hpattern : ∀ asked openLeft openRight,
      (c.mode.getD .contains).demand = .pattern (searchOperator asked) openLeft openRight →
      ∃ t, c.value.display = .ok t ∧
        (∀ inner, innerText (pattern openLeft openRight (Text.lower t)).toList = some inner →
          Searches l p q asked (String.ofList inner)) ∧
        (innerText (pattern openLeft openRight (Text.lower t)).toList = none →
          FailsAt l p q (.operatorRefused (searchOperator asked) .qdrantAffixPatterns)) := by
    intro asked openLeft openRight hdemand
    obtain ⟨t, ht, hshape⟩ := pattern_of_ofCriterion htext hbuilds hdemand
    exact ⟨t, ht, searches_or_failsAt hl hroot hmem hshape⟩
  -- a pattern that is open on both sides has the whole text inside
  have hwhole : ∀ asked,
      (c.mode.getD .contains).demand = .pattern (searchOperator asked) true true →
      ∃ t, c.value.display = .ok t ∧ Searches l p q asked (Text.lower t) := by
    intro asked hdemand
    obtain ⟨t, ht, hfound, _⟩ := hpattern asked true true hdemand
    have hsearches := hfound _ (innerText_open _)
    rw [String.ofList_toList] at hsearches
    exact ⟨t, ht, hsearches⟩
  refine ⟨q, hmem, hbuilds, fun hmode => hwhole true (by rw [hmode]; rfl),
    fun hmode => hwhole false (by rw [hmode]; rfl), fun hmode => ?_, fun hmode => ?_,
    fun hbounding before after hsplit => ?_⟩
  · obtain ⟨t, ht, hfound, hrefused⟩ := hpattern true false true (by rw [hmode]; rfl)
    refine ⟨t, ht, ?_⟩
    have hlower := head?_lower t
    split
    · next hhead => exact hfound _ (by rw [innerText_openRight, if_pos (hlower.mpr hhead)])
    · next hhead => exact hrefused (by rw [innerText_openRight, if_neg (mt hlower.mp hhead)])
  · obtain ⟨t, ht, hfound, hrefused⟩ := hpattern true true false (by rw [hmode]; rfl)
    refine ⟨t, ht, ?_⟩
    have hlower := getLast?_lower t
    split
    · next hlast => exact hfound _ (by rw [innerText_openLeft, if_pos (hlower.mpr hlast)])
    · next hlast => exact hrefused (by rw [innerText_openLeft, if_neg (mt hlower.mp hlast)])
  · obtain ⟨key, _, hcondition⟩ := comparisonCondition_of_text hroot hbuilt.field
    rw [condition_of_textRange (hbuilt.folds.mpr rfl) (hbuilt.operator ▸ hbounding)] at hcondition
    exact fault?_convert_of_split hl hsplit hcondition

end Request

namespace Qdrant.Example

def percentFirst : Criterion := ⟨.text "%Bolt", some .startsWith, none⟩

def searches : Request :=
  { offset := 0
    pageSize := 0
    sortKeys := []
    criteria := [("name", [⟨.text "Ann", some .notContains, none⟩, percentFirst])]
    globalField := .null }

def boltLike : Comparison := ⟨.text "name", .like, [.text "%bolt%"], true⟩

def searching : Predicate :=
  .junction .any [.atom ⟨.text "name", .notLike, [.text "%ann%"], true⟩, .atom boltLike]

def searchFilter : Condition :=
  .anyOf [.allOf [] [.test "name" (.hasText "ann")], .test "name" (.hasText "bolt")]

theorem compiled_searches :
    (ofRequestWith TableQuery.Example.people (.ok .empty) searches).outcome =
      .ok (some searching) := by cbv

end Qdrant.Example

/-- What should be refused is searched for anywhere in a name. -/
theorem Qdrant.search_converted_percentFirst :
    (ofRequestWith Example.people (.ok .empty) Qdrant.Example.searches).outcome =
        .ok (some Qdrant.Example.searching) ∧
    Searches ⟨.null, []⟩ Qdrant.Example.searching Qdrant.Example.boltLike true "bolt" ∧
    convert ⟨.null, []⟩ (Node.ofPredicate Qdrant.Example.searching) =
      .ok (some Qdrant.Example.searchFilter) := by
  have hleaf : ofCriterion Example.people (.text "name") Qdrant.Example.percentFirst =
      .ok Qdrant.Example.boltLike := by
    rw [Qdrant.Example.percentFirst]
    cbv
  have htext : Example.people.require (.text "name") = .ok .text := by cbv
  have hname : Value.text "name" ∈ targets .null [] "name" := by simp [targets]
  obtain ⟨q, _, hq, _, _, hstarts, _⟩ :=
    @Qdrant.search_converted Example.people .empty Qdrant.Example.searches ⟨.null, []⟩ _ _ _ _
      rfl ⟨_, rfl⟩ (by simp [SearchSet.empty]) Qdrant.Example.compiled_searches List.mem_cons_self
      (List.mem_cons_of_mem _ List.mem_cons_self) hname htext
  obtain rfl := Except.ok.inj (hleaf.symm.trans hq)
  obtain ⟨t, ht, hsearches⟩ := hstarts rfl
  obtain rfl : "%Bolt" = t := Except.ok.inj ht
  refine ⟨Qdrant.Example.compiled_searches, ?_, by cbv⟩
  rw [if_pos (by decide)] at hsearches
  have hbolt : String.ofList (Text.lower "%Bolt").toList.tail = "bolt" := by cbv
  rwa [hbolt] at hsearches

end TableQuery
