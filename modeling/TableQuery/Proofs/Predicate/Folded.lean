import TableQuery.Proofs.Predicate.Criterion
import TableQuery.Proofs.Predicate.Rows
import TableQuery.Proofs.Text.Casing
import TableQuery.Sqlite.Store

/-!
# Operands in small letters

A comparison that folds case compares with texts in small letters: folding them once more changes
nothing, whatever the value of the criterion was and wherever the mode leaves the pattern open. So
values that differ in case only lead to the same comparison, and requests that differ in nothing but
the case of what they ask of text fields are compiled to the same predicate.
-/
namespace TableQuery

theorem Text.toList_lower (s : String) : (lower s).toList = lowerChars s.toList :=
  String.toList_ofList

theorem Text.lower_lower (s : String) : lower (lower s) = lower s := by
  rw [lower, toList_lower, lowerChars_lowerChars]
  rfl

namespace MatchMode

theorem mem_template {m : MatchMode} {s : String} {c : Char} (h : c ∈ (m.template s).toList) :
    c = '%' ∨ c ∈ s.toList := by
  cases m <;> simp [template] at h <;> grind

theorem lower_template (m : MatchMode) (s : String) :
    Text.lower (m.template (Text.lower s)) = m.template (Text.lower s) := by
  have hsmall : ∀ c ∈ (m.template (Text.lower s)).toList, Text.IsSmall c := by
    intro c hc
    rcases mem_template hc with rfl | hc
    · exact Text.isSmall_percent
    · rw [Text.toList_lower] at hc
      exact Text.isSmall_of_mem_lowerFrom hc
  rw [Text.lower, Text.lowerChars, Text.lowerFrom_of_isSmall hsmall, String.ofList_toList]

end MatchMode

namespace Value

inductive Respells : Value → Value → Prop
  | same (v : Value) : Respells v v
  | text (s t : String) (h : Text.lower s = Text.lower t) : Respells (.text s) (.text t)

/-- The same value but for the case of a text, or of the texts that a sequence holds. -/
inductive Respelled : Value → Value → Prop
  | part (v w : Value) (h : Respells v w) : Respelled v w
  | list (vs ws : List Value) (h : List.Forall₂ Respells vs ws) : Respelled (.list vs) (.list ws)
  | tuple (vs ws : List Value) (h : List.Forall₂ Respells vs ws) :
    Respelled (.tuple vs) (.tuple ws)
  | set (vs ws : List Value) (h : List.Forall₂ Respells vs ws) : Respelled (.set vs) (.set ws)
  | frozenset (vs ws : List Value) (h : List.Forall₂ Respells vs ws) :
    Respelled (.frozenset vs) (.frozenset ws)

theorem Respells.symm {v w : Value} (h : Respells v w) : Respells w v := by
  cases h with
  | same => exact .same v
  | text s t h => exact .text t s h.symm

theorem Respelled.symm {v w : Value} (h : Respelled v w) : Respelled w v := by
  have hparts : ∀ {vs ws : List Value}, List.Forall₂ Respells vs ws →
      List.Forall₂ Respells ws vs := fun h => h.flip.imp fun _ _ => Respells.symm
  cases h with
  | part _ _ h => exact .part w v h.symm
  | list _ _ h => exact .list _ _ (hparts h)
  | tuple _ _ h => exact .tuple _ _ (hparts h)
  | set _ _ h => exact .set _ _ (hparts h)
  | frozenset _ _ h => exact .frozenset _ _ (hparts h)

theorem Respelled.of_lower (s : String) : Respelled (.text s) (.text (Text.lower s)) :=
  .part _ _ (.text s _ (Text.lower_lower s).symm)

theorem Respelled.pair {v w low high : Value} (h : Respelled v w)
    (hv : v = .list [low, high] ∨ v = .tuple [low, high]) :
    ∃ low' high', (w = .list [low', high'] ∨ w = .tuple [low', high']) ∧
      List.Forall₂ Respells [low, high] [low', high'] := by
  have hself : List.Forall₂ Respells [low, high] [low, high] :=
    List.forall₂_same.mpr fun u _ => .same u
  rcases hv with rfl | rfl
  · cases h with
    | part _ _ h =>
      cases h
      exact ⟨low, high, .inl rfl, hself⟩
    | list _ ws h =>
      obtain ⟨low', high', rfl⟩ := List.length_eq_two.mp h.length_eq.symm
      exact ⟨low', high', .inl rfl, h⟩
  · cases h with
    | part _ _ h =>
      cases h
      exact ⟨low, high, .inr rfl, hself⟩
    | tuple _ ws h =>
      obtain ⟨low', high', rfl⟩ := List.length_eq_two.mp h.length_eq.symm
      exact ⟨low', high', .inr rfl, h⟩

theorem Respelled.members {v w : Value} {vs : List Value} (h : Respelled v w)
    (hv : v.members? = some vs) : ∃ ws, w.members? = some ws ∧ List.Forall₂ Respells vs ws := by
  cases h with
  | part _ _ h =>
    cases h with
    | same => exact ⟨vs, hv, List.forall₂_same.mpr fun u _ => .same u⟩
    | text => cases hv
  | list _ ws h | tuple _ ws h | set _ ws h | frozenset _ ws h =>
    obtain rfl := Option.some.inj hv
    exact ⟨ws, rfl, h⟩

theorem Respelled.single {v w : Value} (h : Respelled v w) (hv : v.isSequence = false) :
    w.isSequence = false ∧ Respells v w := by
  cases h with
  | part _ _ h =>
    cases h with
    | same => exact ⟨hv, .same v⟩
    | text s t h => exact ⟨rfl, .text s t h⟩
  | list | tuple | set | frozenset => cases hv

end Value

open Value

namespace MatchMode

theorem Parts.respelled {m : MatchMode} {v w : Value} {parts : List Value}
    (hparts : m.Parts v parts) (h : Respelled v w) :
    ∃ parts', m.Parts w parts' ∧ List.Forall₂ Respells parts parts' := by
  cases hparts with
  | bounds _ low high hv =>
    obtain ⟨low', high', hw, hsame⟩ := h.pair hv
    exact ⟨[low', high'], .bounds w low' high' hw, hsame⟩
  | members _ _ hitems =>
    obtain ⟨ws, hw, hsame⟩ := h.members hitems
    exact ⟨ws, .members w ws hw, hsame⟩
  | single _ _ hbetween hin hsingle =>
    obtain ⟨hw, hsame⟩ := h.single hsingle
    exact ⟨[w], .single m w hbetween hin hw, .cons hsame .nil⟩

end MatchMode

namespace Comparison

variable {field v w part : Value} {m : MatchMode} {q : Comparison} {r : Resolver}

theorem Operand.respelled {operand : Value} (h : Operand .text m part operand)
    {part' : Value} (hpart : Respells part part') : Operand .text m part' operand := by
  cases hpart with
  | same => exact h
  | text s s' hsame =>
    cases h with
    | folded t _ _ _ _ ht =>
      obtain rfl : s = t := Except.ok.inj ht
      rw [hsame]
      exact .folded s' rfl nofun rfl rfl rfl
    | plain hk => exact absurd rfl hk

theorem Made.respelled (h : Made field .text m v q) (hvalue : Respelled v w) :
    Made field .text m w q := by
  obtain ⟨parts, hparts, hoperands⟩ := h.operands
  obtain ⟨parts', hparts', hsame⟩ := hparts.respelled hvalue
  refine ⟨h.field, h.operator, h.folds, parts', hparts', ?_⟩
  refine Outcome.forall₂_trans ?_ hsame.flip hoperands
  exact fun _ _ _ hpart hoperand => Operand.respelled hoperand hpart

/-- Values that differ in case only lead to the same comparison on a text field. -/
theorem ofCriterion_respelled (hfield : r.require field = .ok .text) (hvalue : Respelled v w)
    {mode : Option MatchMode} {how how' : Option Connective} :
    ofCriterion r field ⟨v, mode, how⟩ = .ok q ↔ ofCriterion r field ⟨w, mode, how'⟩ = .ok q := by
  rw [ofCriterion_ok_iff, ofCriterion_ok_iff]
  refine exists_congr fun k => and_congr_right fun hk => ?_
  obtain rfl := Except.ok.inj (hfield.symm.trans hk)
  exact and_congr_right fun _ => ⟨fun h => h.respelled hvalue, fun h => h.respelled hvalue.symm⟩

theorem exists_ofCriterion_text (hfield : r.require field = .ok .text) {mode : Option MatchMode}
    (hbetween : mode ≠ some .between) (hin : mode ≠ some .isIn) (s : String)
    (how : Option Connective) : ∃ q, ofCriterion r field ⟨.text s, mode, how⟩ = .ok q := by
  have hsingle : mode.getD (Category.defaultMode .text) ≠ .between ∧
      mode.getD (Category.defaultMode .text) ≠ .isIn := by
    cases mode with
    | none => decide
    | some m => exact ⟨fun h => hbetween (congrArg some h), fun h => hin (congrArg some h)⟩
  generalize hm : mode.getD (Category.defaultMode .text) = m at hsingle
  refine ⟨⟨field, m.operator, [.text (m.template (Text.lower s))], true⟩, ?_⟩
  refine ofCriterion_ok_iff.mpr ⟨.text, hfield, rfl, ?_⟩
  rw [hm]
  refine ⟨rfl, rfl, iff_of_true rfl rfl, [.text s], ?_, ?_⟩
  · exact .single m (.text s) hsingle.1 hsingle.2 rfl
  · exact .cons (.folded s rfl nofun rfl rfl rfl) .nil

theorem Made.folded {k : Category} (h : Made field k m v q) (hfolds : q.foldsCase = true) :
    ∀ operand ∈ q.operands, (∃ s, operand = .text s) ∧ Sqlite.foldValue operand = operand := by
  obtain ⟨parts, _, hoperands⟩ := h.operands
  intro operand hoperand
  obtain ⟨_, _, hpart⟩ := Outcome.exists_of_forall₂ hoperands.flip operand hoperand
  cases hpart with
  | folded t =>
    refine ⟨⟨_, rfl⟩, ?_⟩
    rw [Sqlite.foldValue, MatchMode.lower_template]
  | plain hk => exact absurd (h.folds.mp hfolds) hk

end Comparison

structure Criterion.Respelled (r : Resolver) (fields : List Value) (c d : Criterion) : Prop where
  mode : c.mode = d.mode
  connective : c.connective = d.connective
  value : c.value = d.value ∨
    Value.Respelled c.value d.value ∧ ∀ field ∈ fields, r.require field = .ok .text

namespace Predicate

structure RespelledEntry (r : Resolver) (globalField : Value) (searched : List Value)
    (e f : String × List Criterion) : Prop where
  key : e.1 = f.1
  criteria : List.Forall₂ (Criterion.Respelled r (targets globalField searched e.1)) e.2 f.2

end Predicate

/-- The same request, but for the case of what it asks of text fields. -/
structure Request.Respelled (r : Resolver) (searched : List Value) (a b : Request) : Prop where
  globalField : a.globalField = b.globalField
  criteria : List.Forall₂ (Predicate.RespelledEntry r a.globalField searched) a.criteria b.criteria

namespace Predicate

variable {r : Resolver} {globalField : Value} {searched : List Value}

theorem comparisonsOn_respelled {fields : List Value} {c d : Criterion}
    {qs : List Comparison} (h : c.Respelled r fields d) (hqs : comparisonsOn r fields c = .ok qs) :
    comparisonsOn r fields d = .ok qs := by
  obtain ⟨hmode, _, hvalue⟩ := h
  have hfields : List.Forall₂ (fun field field' => field = field' ∧ field ∈ fields) fields fields :=
    List.forall₂_same.mpr fun field hfield => ⟨rfl, hfield⟩
  refine Outcome.mapM_of_partners hfields hqs ?_
  rintro field _ q ⟨rfl, hfield⟩ hq
  obtain ⟨v, mode, how⟩ := c
  obtain ⟨w, mode', how'⟩ := d
  obtain rfl : mode = mode' := hmode
  rcases hvalue with hsame | ⟨hspelled, htext⟩
  · obtain rfl : v = w := hsame
    exact hq
  · exact (Comparison.ofCriterion_respelled (htext field hfield) hspelled).mp hq

theorem rowOf_respelled {e f : String × List Criterion} {row : Row}
    (h : RespelledEntry r globalField searched e f)
    (hrow : rowOf r globalField searched e = .ok row) :
    rowOf r globalField searched f = .ok row := by
  obtain ⟨qss, hqss, rfl⟩ := Outcome.map_ok.mp hrow
  have hconnective : Criterion.connectiveOf e.2 = Criterion.connectiveOf f.2 :=
    connectiveOf_congr (Outcome.map_eq_of_forall₂ (h.criteria.imp fun _ _ hc => hc.connective))
  have hfound : f.2.mapM (comparisonsOn r (targets globalField searched e.1)) = .ok qss :=
    Outcome.mapM_of_partners h.criteria hqss fun _ _ _ => comparisonsOn_respelled
  rw [rowOf, ← h.key, hfound, hconnective]
  rfl

theorem outcome_respelled {s : SearchSet} {a b : Request} (h : a.Respelled r s.fields b)
    {p : Option Predicate} (ha : (ofRequestWith r (.ok s) a).outcome = .ok p) :
    (ofRequestWith r (.ok s) b).outcome = .ok p := by
  rw [outcome_eq_rows] at ha ⊢
  obtain ⟨rows, hrows, hnoted⟩ := Outcome.bind_ok.mp ha
  rw [← h.globalField, Outcome.mapM_of_partners h.criteria hrows fun _ _ _ => rowOf_respelled]
  exact hnoted

/-- The comparisons of a compiled request that fold case compare with texts which folding leaves
alone. A text and its small letters lead to the same comparison on a text field, in every mode that
takes a text, and so do any two values that differ in case only; requests that differ in nothing but
the case of what they ask of text fields are compiled to the same predicate. -/
theorem operands_folded {attributes : Except Fault SearchSet} {a : Request} {p : Option Predicate}
    (h : (ofRequestWith r attributes a).outcome = .ok p) :
    (∀ q ∈ leaves p, q.foldsCase = true → ∀ operand ∈ q.operands,
      (∃ s, operand = .text s) ∧ Sqlite.foldValue operand = operand) ∧
    (∀ field, r.require field = .ok .text → ∀ mode how,
      (mode ≠ some .between → mode ≠ some .isIn → ∀ s,
        ∃ q, Comparison.ofCriterion r field ⟨.text s, mode, how⟩ = .ok q ∧
          Comparison.ofCriterion r field ⟨.text (Text.lower s), mode, how⟩ = .ok q) ∧
      ∀ v w, Value.Respelled v w → ∀ q,
        Comparison.ofCriterion r field ⟨v, mode, how⟩ = .ok q ↔
          Comparison.ofCriterion r field ⟨w, mode, how⟩ = .ok q) ∧
    ∀ s, attributes = .ok s → ∀ b, a.Respelled r s.fields b →
      (ofRequestWith r attributes b).outcome = .ok p := by
  refine ⟨?_, fun field hfield mode how => ⟨?_, ?_⟩, ?_⟩
  · intro q hq
    cases p with
    | none => cases hq
    | some p =>
      obtain ⟨s, rows, _, hrows, hjoined, _⟩ := compiled_ok h
      rw [← hjoined] at hq
      obtain ⟨_, _, _, _, _, _, hok⟩ := mem_rows hrows hq
      obtain ⟨k, _, _, hmade⟩ := Comparison.ofCriterion_ok_iff.mp hok
      exact hmade.folded
  · intro hbetween hin s
    obtain ⟨q, hq⟩ := Comparison.exists_ofCriterion_text hfield hbetween hin s how
    exact ⟨q, hq, (Comparison.ofCriterion_respelled hfield (.of_lower s)).mp hq⟩
  · exact fun v w hspelled q => Comparison.ofCriterion_respelled hfield hspelled
  · rintro s rfl b hb
    exact outcome_respelled hb h

namespace Example

def nameEndsWith (name : String) : Request :=
  { offset := 0
    pageSize := 0
    sortKeys := []
    criteria := [("name", [⟨.text name, some .endsWith, none⟩])]
    globalField := .null }

end Example

theorem operands_folded_finalSigma :
    ∃ p, (ofRequestWith (.table [(.text "name", .text)]) (.ok .empty)
        (Example.nameEndsWith "ΑΣ")).outcome = .ok (some p) ∧
      p.atoms = [⟨.text "name", .like, [.text "%ας"], true⟩] ∧
      (ofRequestWith (.table [(.text "name", .text)]) (.ok .empty)
        (Example.nameEndsWith "ας")).outcome = .ok (some p) := by
  have hfield : Resolver.require (.table [(.text "name", .text)]) (.text "name") =
      .ok .text := by cbv
  have hspelled : Value.Respelled (.text "ΑΣ") (.text "ας") :=
    .part _ _ (.text _ _ (by cbv))
  have htargets : ∀ field ∈ targets .null SearchSet.empty.fields "name",
      Resolver.require (.table [(.text "name", .text)]) field = .ok .text := by
    rw [targets_of_not_global (by cbv)]
    simpa using hfield
  have hcapital : (ofRequestWith (.table [(.text "name", .text)]) (.ok .empty)
      (Example.nameEndsWith "ΑΣ")).outcome =
        .ok (some (.atom ⟨.text "name", .like, [.text "%ας"], true⟩)) := by cbv
  obtain ⟨_, _, hsame⟩ := operands_folded hcapital
  refine ⟨_, hcapital, rfl, hsame .empty rfl _ ⟨rfl, .cons ⟨rfl, .cons ?_ .nil⟩ .nil⟩⟩
  exact ⟨rfl, rfl, .inr ⟨hspelled, htargets⟩⟩

end Predicate
end TableQuery
