import TableQuery.Predicate.OfCriterion
import TableQuery.Proofs.Outcome

/-!
# What a criterion becomes

Everything there is to know about the comparison of a criterion: its field, its operator, whether it
folds, and what of the value it is asked with. It is there exactly when the field has a category
that the mode applies to and the value has the parts that the mode looks at, each of which can be
compared. Each later fact about compiled comparisons is read off this one.
-/
namespace TableQuery

namespace Value

def members? : Value → Option (List Value)
  | list items | tuple items | set items | frozenset items => some items
  | _ => none

theorem isSequence_eq (v : Value) : v.isSequence = v.members?.isSome := by
  cases v <;> rfl

end Value

namespace MatchMode

def Demand.operator : Demand → Operator
  | .pattern o _ _ | .single o => o
  | .bounds => .between
  | .members => .isIn

def operator : MatchMode → Operator
  | contains | startsWith | endsWith => .like
  | notContains => .notLike
  | equals => .eq
  | notEquals => .ne
  | lt => .lt
  | lte => .lte
  | gt => .gt
  | gte => .gte
  | between => .between
  | isIn => .isIn

theorem demand_operator (m : MatchMode) : m.demand.operator = m.operator := by
  cases m <;> rfl

/-- How a mode writes a text that it compares with, with `%` where any run of characters may
stand. -/
def template : MatchMode → String → String
  | contains, s | notContains, s => "%" ++ s ++ "%"
  | startsWith, s => s ++ "%"
  | endsWith, s => "%" ++ s
  | _, s => s

def ordering : List MatchMode := [lt, lte, gt, gte]

/-- The parts of a value that a mode looks at: two bounds, any number of members, or the value
itself. -/
inductive Parts : MatchMode → Value → List Value → Prop
  | bounds (v low high : Value) (h : v = .list [low, high] ∨ v = .tuple [low, high]) :
    Parts between v [low, high]
  | members (v : Value) (items : List Value) (h : v.members? = some items) : Parts isIn v items
  | single (m : MatchMode) (v : Value) (hbetween : m ≠ between) (hin : m ≠ isIn)
    (h : v.isSequence = false) : Parts m v [v]

variable {m : MatchMode} {o : Operator} {openLeft openRight : Bool}

theorem template_of_pattern (h : m.demand = .pattern o openLeft openRight) (s : String) :
    m.template s = Comparison.pattern openLeft openRight s := by
  cases m <;> cases h <;> simp [template, Comparison.pattern]

theorem template_of_single (h : m.demand = .single o) (s : String) : m.template s = s := by
  cases m <;> first | rfl | cases h

theorem takesNull_iff (h : m.demand = .single o) : m.takesNull = true ↔ m ∉ ordering := by
  cases m <;> first | decide | cases h

theorem not_applies (h : m.demand = .pattern o openLeft openRight) {k : Category}
    (hk : k ≠ .text) : m.appliesTo k = false := by
  cases m <;> cases h <;> cases k <;> first | rfl | exact absurd rfl hk

theorem eq_between (h : m.demand = .bounds) : m = between := by
  cases m <;> first | rfl | cases h

theorem eq_isIn (h : m.demand = .members) : m = isIn := by
  cases m <;> first | rfl | cases h

end MatchMode

/-- What a value is compared as: a text on a text field, where it must not be null, and itself on
any other. -/
def Category.Compares : Category → Value → Value → Prop
  | .text, v, operand => v ≠ .null ∧ ∃ s, operand = .text s
  | _, v, operand => operand = v

theorem Category.Compares.null_iff {k : Category} {v operand : Value} (h : k.Compares v operand) :
    operand = .null ↔ v = .null := by
  cases k with
  | text =>
    obtain ⟨hne, s, rfl⟩ := h
    simp [hne]
  | ordered | opaqueKind =>
    obtain rfl : operand = v := h
    rfl

namespace Comparison

/-- What a part of a value is compared as. On a text field it is the text of the part in small
letters, as the mode writes it; null and what has parts of its own have none. On any other field it
is the part, which is not missing where there is an order to ask about. -/
inductive Operand (k : Category) (m : MatchMode) (part : Value) : Value → Prop
  | folded (t : String) (hk : k = .text) (hnull : part ≠ .null) (hmap : part.isMap = false)
    (hseq : part.isSequence = false) (ht : part.display = .ok t) :
    Operand k m part (.text (m.template (Text.lower t)))
  | plain (hk : k ≠ .text) (hnull : part = .null → m ∉ MatchMode.ordering) : Operand k m part part

structure Made (field : Value) (k : Category) (m : MatchMode) (v : Value) (q : Comparison) :
    Prop where
  field : q.field = field
  operator : q.operator = m.operator
  folds : q.foldsCase = true ↔ k = .text
  operands : ∃ parts, m.Parts v parts ∧ List.Forall₂ (Operand k m) parts q.operands

variable {field v : Value} {m : MatchMode} {k : Category} {q : Comparison}

theorem foldedText_ok {s : String} : foldedText field m v = .ok s ↔
    v ≠ .null ∧ v.isMap = false ∧ v.isSequence = false ∧
      ∃ t, v.display = .ok t ∧ Text.lower t = s := by
  cases v <;> simp [foldedText, misshapen, Outcome.raise_ne_ok, Outcome.map_ok, Value.isMap,
    Value.isSequence]

theorem bounds_ok {low high : Value} : bounds field m v = .ok (low, high) ↔
    v = .list [low, high] ∨ v = .tuple [low, high] := by
  unfold bounds
  split
  · simp
  · simp
  · next hlist htuple =>
    refine iff_of_false Outcome.raise_ne_ok ?_
    rintro (rfl | rfl)
    · exact hlist low high rfl
    · exact htuple low high rfl

theorem members_ok {items : List Value} :
    members field m v = .ok items ↔ v.members? = some items := by
  cases v <;> simp [members, Value.members?, misshapen, Outcome.raise_ne_ok]

/-! ## Parts before operands -/

/-- The parts of a value, or how it fails to have them. A text field leaves it to the operand to
turn down a sequence. -/
def partsOf (field : Value) (k : Category) (m : MatchMode) (v : Value) :
    Except Fault (List Value) :=
  match m.demand with
  | .pattern _ _ _ | .single _ =>
    if k ≠ .text ∧ v.isSequence then misshapen field m (.notSingle v) else .ok [v]
  | .bounds => (bounds field m v).map fun pair => [pair.1, pair.2]
  | .members => members field m v

def operandOf (field : Value) (k : Category) (m : MatchMode) (part : Value) :
    Except Fault Value :=
  match k with
  | .text => (foldedText field m part).map fun s => .text (m.template s)
  | _ =>
    match part with
    | .null => if m ∈ MatchMode.ordering then misshapen field m .missing else .ok .null
    | part => .ok part

def ofParts (field : Value) (k : Category) (m : MatchMode) (v : Value) :
    Except Fault Comparison := do
  let parts ← partsOf field k m v
  let operands ← parts.mapM (operandOf field k m)
  .ok ⟨field, m.demand.operator, operands, k = .text⟩

theorem onText_eq : onText field m v = ofParts field .text m v := by
  unfold onText ofParts partsOf operandOf
  split
  · next o openLeft openRight hd =>
    cases hs : foldedText field m v <;>
      simp [hd, hs, MatchMode.template_of_pattern hd, bind, Except.bind, Except.map, pure,
        Except.pure, MatchMode.Demand.operator]
  · next o hd =>
    cases hs : foldedText field m v <;>
      simp [hd, hs, MatchMode.template_of_single hd, bind, Except.bind, Except.map, pure,
        Except.pure, MatchMode.Demand.operator]
  · next hd =>
    obtain rfl := MatchMode.eq_between hd
    cases bounds field .between v with
    | error f => rfl
    | ok pair =>
      obtain ⟨low, high⟩ := pair
      cases hlow : foldedText field .between low with
      | error f =>
        simp only [hd, Outcome.ok_bind, Except.map, List.mapM_cons, hlow]
        rfl
      | ok a =>
        cases hhigh : foldedText field .between high <;>
          simp [hd, hlow, hhigh, bind, Except.bind, Except.map, pure, Except.pure,
            MatchMode.template, MatchMode.Demand.operator]
  · next hd =>
    obtain rfl := MatchMode.eq_isIn hd
    cases members field .isIn v with
    | error f => rfl
    | ok items =>
      simp only [hd, Outcome.mapM_map]
      cases hitems : items.mapM (foldedText field .isIn) <;>
        simp [hitems, bind, Except.bind, Except.map, MatchMode.template,
          MatchMode.Demand.operator]

theorem operandOf_plain (hk : k ≠ .text) {part : Value}
    (h : part = .null → m ∉ MatchMode.ordering) : operandOf field k m part = .ok part := by
  cases k with
  | text => exact absurd rfl hk
  | ordered | opaqueKind => cases part <;> simp [operandOf, h]

theorem operandOf_missing (hk : k ≠ .text) (hm : m ∈ MatchMode.ordering) :
    operandOf field k m .null = misshapen field m .missing := by
  cases k with
  | text => exact absurd rfl hk
  | ordered | opaqueKind => simp [operandOf, hm]

theorem mapM_operandOf (hk : k ≠ .text) {parts : List Value}
    (h : ∀ part ∈ parts, part = .null → m ∉ MatchMode.ordering) :
    parts.mapM (operandOf field k m) = .ok parts := by
  rw [Outcome.mapM_ok, List.forall₂_same]
  exact fun part hpart => operandOf_plain hk (h part hpart)

theorem onPlain_eq (hk : k ≠ .text) (happlies : m.appliesTo k = true) :
    onPlain field k m v = ofParts field k m v := by
  have hfolds : decide (k = .text) = false := decide_eq_false hk
  have hone : (v = .null → m ∉ MatchMode.ordering) →
      [v].mapM (operandOf field k m) = .ok [v] := fun h => mapM_operandOf hk (by simpa using h)
  have hall : m ∉ MatchMode.ordering → ∀ parts : List Value,
      parts.mapM (operandOf field k m) = .ok parts :=
    fun hm parts => mapM_operandOf hk fun _ _ _ => hm
  unfold onPlain ofParts partsOf
  simp only [hfolds]
  split
  · next o openLeft openRight hd =>
    rw [MatchMode.not_applies hd hk] at happlies
    cases happlies
  · next o hd =>
    simp only [hd, ne_eq, hk, not_false_eq_true, true_and]
    split
    · exact (Outcome.raise_bind _ _).symm
    · split
      · split
        · next hnull =>
          rw [Outcome.ok_bind, hone fun _ => (MatchMode.takesNull_iff hd).mp hnull]
          rfl
        · next hnull =>
          have hm : m ∈ MatchMode.ordering := by
            by_contra hnot
            exact hnull ((MatchMode.takesNull_iff hd).mpr hnot)
          rw [Outcome.ok_bind, List.mapM_cons, operandOf_missing hk hm]
          simp only [misshapen, Outcome.raise_bind]
      · next hne =>
        rw [Outcome.ok_bind, hone fun h => absurd h hne]
        rfl
  · next hd =>
    obtain rfl := MatchMode.eq_between hd
    cases bounds field .between v with
    | error f => rfl
    | ok pair =>
      simp [hd, hall (by decide), bind, Except.bind, Except.map, MatchMode.Demand.operator]
  · next hd =>
    obtain rfl := MatchMode.eq_isIn hd
    cases members field .isIn v with
    | error f => rfl
    | ok items =>
      simp [hd, hall (by decide), bind, Except.bind, MatchMode.Demand.operator]

/-! ## What is made -/

theorem operandOf_ok {part operand : Value} :
    operandOf field k m part = .ok operand ↔ Operand k m part operand := by
  by_cases hk : k = .text
  · subst hk
    simp only [operandOf, Outcome.map_ok, foldedText_ok]
    constructor
    · rintro ⟨_, ⟨hnull, hmap, hseq, t, ht, rfl⟩, rfl⟩
      exact .folded t rfl hnull hmap hseq ht
    · rintro (⟨t, -, hnull, hmap, hseq, ht⟩ | ⟨hk, -⟩)
      · exact ⟨_, ⟨hnull, hmap, hseq, t, ht, rfl⟩, rfl⟩
      · exact absurd rfl hk
  · constructor
    · intro h
      have hnull : part = .null → m ∉ MatchMode.ordering := by
        rintro rfl hm
        rw [operandOf_missing hk hm] at h
        exact Outcome.raise_ne_ok h
      rw [operandOf_plain hk hnull] at h
      obtain rfl := Except.ok.inj h
      exact .plain hk hnull
    · rintro (⟨t, htext, -⟩ | ⟨-, hnull⟩)
      · exact absurd htext hk
      · exact operandOf_plain hk hnull

/-- A text field turns down a sequence when it comes to the operand, any other before that. -/
theorem partsOf_single (hbetween : m ≠ .between) (hin : m ≠ .isIn) {parts operands : List Value} :
    (partsOf field k m v = .ok parts ∧ List.Forall₂ (Operand k m) parts operands) ↔
      m.Parts v parts ∧ List.Forall₂ (Operand k m) parts operands := by
  have hparts : partsOf field k m v =
      if k ≠ .text ∧ v.isSequence then misshapen field m (.notSingle v) else .ok [v] := by
    cases m <;> first | rfl | contradiction
  rw [hparts]
  constructor
  · rintro ⟨h, hall⟩
    split at h
    · exact absurd h Outcome.raise_ne_ok
    · next hseq =>
      obtain rfl := Except.ok.inj h
      refine ⟨.single m v hbetween hin ?_, hall⟩
      rcases hall with _ | ⟨⟨_, _, _, _, hnone, _⟩ | ⟨hk, _⟩, _⟩
      · exact hnone
      · simpa [hk] using hseq
  · rintro ⟨h, hall⟩
    cases h with
    | bounds => exact absurd rfl hbetween
    | members => exact absurd rfl hin
    | single _ _ _ _ hseq => exact ⟨if_neg fun h => by simp [hseq] at h, hall⟩

theorem partsOf_ok {parts operands : List Value} :
    (partsOf field k m v = .ok parts ∧ List.Forall₂ (Operand k m) parts operands) ↔
      m.Parts v parts ∧ List.Forall₂ (Operand k m) parts operands := by
  by_cases hbetween : m = .between
  · subst hbetween
    refine and_congr_left' ?_
    constructor
    · intro h
      obtain ⟨⟨low, high⟩, hpair, rfl⟩ := Outcome.map_ok.mp h
      exact .bounds v low high (bounds_ok.mp hpair)
    · rintro (⟨_, low, high, h⟩ | _ | ⟨_, _, hne, _⟩)
      · exact Outcome.map_ok.mpr ⟨(low, high), bounds_ok.mpr h, rfl⟩
      · exact absurd rfl hne
  · by_cases hin : m = .isIn
    · subst hin
      refine and_congr_left' ?_
      constructor
      · exact fun h => .members v parts (members_ok.mp h)
      · rintro (_ | ⟨_, _, h⟩ | ⟨_, _, _, hne⟩)
        · exact members_ok.mpr h
        · exact absurd rfl hne
    · exact partsOf_single hbetween hin

theorem ofParts_ok : ofParts field k m v = .ok q ↔ Made field k m v q := by
  constructor
  · intro h
    obtain ⟨parts, hparts, h⟩ := Outcome.bind_ok.mp h
    obtain ⟨operands, hoperands, h⟩ := Outcome.bind_ok.mp h
    obtain rfl := Except.ok.inj h
    have hall := (Outcome.mapM_ok.mp hoperands).imp fun _ _ => operandOf_ok.mp
    exact ⟨rfl, m.demand_operator, decide_eq_true_iff, parts, partsOf_ok.mp ⟨hparts, hall⟩⟩
  · rintro ⟨rfl, hoperator, hfolds, parts, hboth⟩
    obtain ⟨field, o, operands, folds⟩ := q
    obtain ⟨hfound, hall⟩ := partsOf_ok.mpr hboth
    obtain rfl : o = m.demand.operator := hoperator.trans m.demand_operator.symm
    obtain rfl : folds = decide (k = .text) :=
      Bool.eq_iff_iff.mpr (hfolds.trans decide_eq_true_iff.symm)
    have hoperands : parts.mapM (operandOf field k m) = .ok operands :=
      Outcome.mapM_ok.mpr (hall.imp fun _ _ => operandOf_ok.mpr)
    exact Outcome.bind_ok.mpr ⟨parts, hfound, Outcome.bind_ok.mpr ⟨operands, hoperands, rfl⟩⟩

def onField (field v : Value) (k : Category) (m : MatchMode) : Except Fault Comparison :=
  if m.appliesTo k then ofParts field k m v else (Fault.modeRefused field m k).raise

theorem ofCriterion_eq (r : Resolver) (field : Value) (c : Criterion) :
    ofCriterion r field c =
      (r.require field >>= fun k => onField field c.value k (c.mode.getD k.defaultMode)) := by
  unfold ofCriterion
  cases r.require field with
  | error f => rfl
  | ok k =>
    simp only [Outcome.ok_bind, onField]
    split
    · next happlies =>
      cases k with
      | text => exact onText_eq
      | ordered | opaqueKind => exact onPlain_eq (by decide) happlies
    · rfl

/-- A criterion becomes a comparison exactly when its field has a category that its mode applies
to and its value can be compared. -/
theorem ofCriterion_ok_iff {r : Resolver} {c : Criterion} :
    ofCriterion r field c = .ok q ↔ ∃ k, r.require field = .ok k ∧
      (c.mode.getD k.defaultMode).appliesTo k = true ∧
        Made field k (c.mode.getD k.defaultMode) c.value q := by
  rw [ofCriterion_eq, Outcome.bind_ok]
  refine exists_congr fun k => and_congr_right fun _ => ?_
  unfold onField
  split
  · next h => rw [ofParts_ok, and_iff_right h]
  · next h => exact iff_of_false Outcome.raise_ne_ok fun hmade => h hmade.1

/-! ## What follows from it -/

inductive Takes (v : Value) : MatchMode.Demand → List Value → Prop
  | pattern (o openLeft openRight) (h : v.members? = none) :
    Takes v (.pattern o openLeft openRight) [v]
  | single (o) (h : v.members? = none) : Takes v (.single o) [v]
  | bounds (low high) (h : v.members? = some [low, high]) : Takes v .bounds [low, high]
  | members (items) (h : v.members? = some items) : Takes v .members items

structure Built (field : Value) (k : Category) (m : MatchMode) (v : Value) (q : Comparison) :
    Prop where
  applies : m.appliesTo k = true
  field : q.field = field
  operator : q.operator = m.demand.operator
  folds : q.foldsCase = true ↔ k = .text
  operands : ∃ taken, Takes v m.demand taken ∧ List.Forall₂ k.Compares taken q.operands

theorem takes_of_parts {parts : List Value} (h : m.Parts v parts) : Takes v m.demand parts := by
  cases h with
  | bounds _ low high h => exact .bounds low high (by rcases h with rfl | rfl <;> rfl)
  | members _ items h => exact .members parts h
  | single _ _ hbetween hin h =>
    have hnone : v.members? = none := by simpa [Value.isSequence_eq] using h
    cases m <;> first
      | exact .pattern _ _ _ hnone
      | exact .single _ hnone
      | contradiction

theorem Operand.compares {part operand : Value} (h : Operand k m part operand) :
    k.Compares part operand := by
  cases h with
  | folded t hk hnull =>
    subst hk
    exact ⟨hnull, _, rfl⟩
  | plain hk => cases k <;> first | rfl | exact absurd rfl hk

theorem Made.built (happlies : m.appliesTo k = true) (h : Made field k m v q) :
    Built field k m v q := by
  obtain ⟨parts, hparts, hall⟩ := h.operands
  have hoperator : q.operator = m.demand.operator := h.operator.trans m.demand_operator.symm
  exact ⟨happlies, h.field, hoperator, h.folds, parts, takes_of_parts hparts,
    hall.imp fun _ _ => Operand.compares⟩

theorem Built.texts (h : Built field .text m v q) : ∀ w ∈ q.operands, ∃ s, w = .text s := by
  obtain ⟨taken, _, hoperands⟩ := h.operands
  intro w hw
  obtain ⟨_, _, _, hs⟩ := Outcome.exists_of_forall₂ hoperands.flip w hw
  exact hs

theorem ofCriterion_ok {r : Resolver} {c : Criterion} (h : ofCriterion r field c = .ok q) :
    ∃ k, r.require field = .ok k ∧ Built field k (c.mode.getD k.defaultMode) c.value q := by
  obtain ⟨k, hk, happlies, hmade⟩ := ofCriterion_ok_iff.mp h
  exact ⟨k, hk, hmade.built happlies⟩

end Comparison
end TableQuery
