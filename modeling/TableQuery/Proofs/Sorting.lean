import Mathlib
import TableQuery.Plan

/-!
# Which field a request is sorted on

The sort keys of a request come first. Without them there are two default fields, one of the call
and one of the service, and what is wanted is the first that can be sorted by, which a blank one
cannot. A call passes its field on unless that is empty, so a field of blanks is passed on too, and
then nothing is left to sort by although the service may have a field.
-/
namespace TableQuery

namespace Text

/-- Whether nothing is left of a text without the blanks around it. -/
def IsBlank (s : String) : Prop := strip s.toList = []

instance (s : String) : Decidable (IsBlank s) := inferInstanceAs (Decidable (_ = _))

theorem isBlank_iff {s : String} : IsBlank s ↔ allBlank s.toList = true := by
  rw [IsBlank, strip, stripWhile, List.reverse_eq_nil_iff, List.dropWhile_eq_nil_iff, allBlank,
    List.all_eq_true]
  constructor
  · intro h c hc
    rw [← List.takeWhile_append_dropWhile (p := isBlank) (l := s.toList), List.mem_append] at hc
    rcases hc with hc | hc
    · exact List.mem_takeWhile_imp hc
    · exact h c (List.mem_reverse.mpr hc)
  · intro h c hc
    exact h c ((List.dropWhile_sublist isBlank).subset (List.mem_reverse.mp hc))

end Text

structure SortKey.Orders (k : SortKey) (o : SortOrder) : Prop where
  field : o.field = .text k.field
  ascending : o.ascending = true ↔ k.direction = none ∨ ∃ n > 0, k.direction = some n

namespace SortSpec

def given : Option String → Value
  | none => .null
  | some name => .text name

def usable? (field : Option String) : Option String := field.filter fun name => ¬ Text.IsBlank name

def firstUsable (fields : List (Option String)) : Option String := fields.findSome? usable?

def upwards (field : Option String) : SortSpec := field.toList.map fun name => ⟨.text name, true⟩

/-- The default field that a call passes on, before that of the service. -/
def passedOn (override default : Option String) : Option String :=
  if override = none ∨ override = some "" then default else override

def OfBlanks (field : Option String) : Prop :=
  ∃ name, field = some name ∧ name ≠ "" ∧ Text.IsBlank name

variable {override default : Option String} {name : String}

theorem usable?_of_blank (h : Text.IsBlank name) : usable? (some name) = none := by
  apply Option.filter_some_neg
  simpa using h

theorem usable?_of_not_blank (h : ¬ Text.IsBlank name) : usable? (some name) = some name := by
  apply Option.filter_some_pos
  simpa using h

theorem byDefault_given (field : Option String) :
    byDefault (given field) = .ok (upwards (usable? field)) := by
  cases field with
  | none => rfl
  | some name =>
    have hdefault : byDefault (given (some name)) =
        .ok (if Text.allBlank name.toList then [] else [⟨.text name, true⟩]) := rfl
    rw [hdefault]
    by_cases hblank : Text.IsBlank name
    · rw [if_pos (Text.isBlank_iff.mp hblank), usable?_of_blank hblank]
      rfl
    · rw [if_neg (mt Text.isBlank_iff.mpr hblank), usable?_of_not_blank hblank]
      rfl

theorem upwards_injective : Function.Injective upwards := by
  intro a b h
  cases a <;> cases b <;> simp_all [upwards]

theorem usable?_passedOn_iff :
    usable? (passedOn override default) = firstUsable [override, default] ↔
      ¬ (OfBlanks override ∧ usable? default ≠ none) := by
  have hfirst : firstUsable [override, default] = (usable? override).or (usable? default) := by
    rw [firstUsable, List.findSome?_cons, List.findSome?_singleton]
    cases usable? override <;> rfl
  rw [hfirst]
  by_cases hleft : override = none ∨ override = some ""
  · have hnone : usable? override = none := by
      rcases hleft with rfl | rfl
      · rfl
      · exact usable?_of_blank rfl
    have hblanks : ¬ OfBlanks override := by
      rintro ⟨name, rfl, hname, _⟩
      simp [hname] at hleft
    rw [passedOn, if_pos hleft, hnone]
    simp [hblanks]
  · rw [passedOn, if_neg hleft]
    obtain ⟨hgiven, hempty⟩ := not_or.mp hleft
    obtain ⟨name, rfl⟩ := Option.ne_none_iff_exists'.mp hgiven
    by_cases hblank : Text.IsBlank name
    · have hblanks : OfBlanks (some name) := ⟨name, rfl, fun h => hempty (congrArg some h), hblank⟩
      rw [usable?_of_blank hblank]
      simp [hblanks, eq_comm]
    · have hblanks : ¬ OfBlanks (some name) := by
        rintro ⟨other, hother, _, h⟩
        obtain rfl := Option.some.inj hother
        exact hblank h
      rw [usable?_of_not_blank hblank]
      simp [hblanks]

theorem ofRequest_keys {request : Request} (hkeys : request.sortKeys ≠ []) (default : Value) :
    ∃ sort, ofRequest request default = .ok sort ∧
      List.Forall₂ SortKey.Orders request.sortKeys sort := by
  refine ⟨request.sortKeys.map fun k => ⟨.text k.field, k.ascending⟩, ?_, ?_⟩
  · rw [ofRequest, if_neg (by simpa using hkeys)]
  · rw [List.forall₂_map_right_iff, List.forall₂_same]
    intro k _
    constructor
    · rfl
    · cases hdirection : k.direction <;> simp [SortKey.ascending, hdirection]

end SortSpec

namespace Planner

open SortSpec

theorem defaultField_given (p : Planner) (override default : Option String) :
    ({ p with defaultSort := given default } : Planner).defaultField (given override) =
      given (passedOn override default) := by
  rw [defaultField, passedOn]
  by_cases hleft : override = none ∨ override = some ""
  · rw [if_pos hleft, if_neg]
    rcases hleft with rfl | rfl <;> simp [given, Value.truthy]
  · rw [if_neg hleft, if_pos]
    cases override <;> simp_all [given, Value.truthy]

/-- The sort keys of a request are all kept, in their order and with their directions. Without them
the field of the call is sorted on if it can be, or that of the service if the call leaves its own
out or empty. So it is the first field that can be sorted by, unless the call names a field of
blanks and the service one that can be sorted by. -/
theorem sorts_on_first_usable_iff (p : Planner) (request : Request)
    (override default : Option String) :
    ∃ sort, ({ p with defaultSort := given default } : Planner).sort request (given override) =
        .ok sort ∧
      (request.sortKeys ≠ [] → List.Forall₂ SortKey.Orders request.sortKeys sort) ∧
      (request.sortKeys = [] → sort = upwards (usable? (passedOn override default)) ∧
        (sort = upwards (firstUsable [override, default]) ↔
          ¬ (OfBlanks override ∧ usable? default ≠ none))) := by
  rw [Planner.sort, defaultField_given]
  by_cases hkeys : request.sortKeys = []
  · refine ⟨upwards (usable? (passedOn override default)), ?_, fun h => absurd hkeys h, ?_⟩
    · rw [ofRequest, hkeys, ← byDefault_given]
      rfl
    · intro _
      exact ⟨rfl, upwards_injective.eq_iff.trans usable?_passedOn_iff⟩
  · obtain ⟨sort, hsort, horders⟩ := ofRequest_keys hkeys (given (passedOn override default))
    exact ⟨sort, hsort, fun _ => horders, fun h => absurd h hkeys⟩

/-- A field of blanks hides the field of the service, and an empty one does not. -/
example : let p : Planner := ⟨.table [], SearchSet.empty, .text "id"⟩
    (p.sort ⟨0, 0, [], [], .null⟩ (.text " ")).toOption.map List.length = some 0 ∧
    (p.sort ⟨0, 0, [], [], .null⟩ (.text "")).toOption.map List.length = some 1 := by
  decide

end Planner
end TableQuery
