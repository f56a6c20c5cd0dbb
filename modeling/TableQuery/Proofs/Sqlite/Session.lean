import Mathlib
import TableQuery.Sqlite.Session

/-!
# Sessions without their values

Whether a call fails is decided by its kind and by the calls before it. So two bodies that differ
only in the values they bind lead to the same calls, apart from these values, and to the same fault.
-/
namespace TableQuery.Sqlite

/-- A call with a null in place of each value it binds. -/
def Event.withoutValues : Event → Event
  | execute sql params => execute sql (params.map fun vs => vs.map fun _ => .null)
  | e => e

def Action.withoutValues : Action → Action
  | perform e => perform e.withoutValues
  | stop f => stop f

def Outcome.withoutValues (o : Outcome) : Outcome := ⟨o.session.map Event.withoutValues, o.fault⟩

theorem Event.call_withoutValues (e : Event) : e.withoutValues.call = e.call := by
  cases e <;> rfl

theorem Event.place_withoutValues (session : List Event) (e : Event) :
    e.withoutValues.place (session.map Event.withoutValues) = e.place session := by
  have hcalls : Event.call ∘ Event.withoutValues = Event.call :=
    funext Event.call_withoutValues
  rw [Event.place, Event.place, List.map_map, hcalls, Event.call_withoutValues]

variable (s : Refusals)

theorem refuses_withoutValues (session : List Event) (e : Event) :
    s.refuses (session.map Event.withoutValues) e.withoutValues = s.refuses session e := by
  rw [Refusals.refuses, Refusals.refuses, Event.place_withoutValues, Event.call_withoutValues]

theorem run_withoutValues (session : List Event) (actions : List Action) :
    run s (session.map Event.withoutValues) (actions.map Action.withoutValues) =
      (run s session actions).withoutValues := by
  induction actions generalizing session with
  | nil => rfl
  | cons action rest ih =>
    cases action with
    | stop f => rfl
    | perform e =>
      have hnext : session.map Event.withoutValues ++ [e.withoutValues] =
          (session ++ [e]).map Event.withoutValues := by simp
      rw [List.map_cons, Action.withoutValues, run, run, refuses_withoutValues, hnext, ih,
        Event.place_withoutValues, Event.call_withoutValues]
      split <;> rfl

theorem thenRun_withoutValues (o : Outcome) (actions : List Action) :
    thenRun s o.withoutValues (actions.map Action.withoutValues) =
      (thenRun s o actions).withoutValues := by
  rw [thenRun, Outcome.withoutValues, run_withoutValues]
  rfl

theorem inside_withoutValues (writer : Bool) (opened : Outcome) (body : List Action) :
    inside s writer opened.withoutValues (body.map Action.withoutValues) =
      (inside s writer opened body).withoutValues := by
  have hactions : preparation ++ body.map Action.withoutValues ++
      (if writer then [Action.perform .commit] else []) =
        (preparation ++ body ++ (if writer then [Action.perform .commit] else [])).map
          Action.withoutValues := by
    cases writer <;> simp [preparation, Action.withoutValues, Event.withoutValues]
  rw [inside, inside, hactions, Outcome.withoutValues, run_withoutValues]
  -- without values or with them, the calls that were made fail or do not fail together
  generalize run s opened.session _ = done
  by_cases hfailed : (done.fault.isSome && writer) = true
  · exact (if_pos hfailed).trans ((thenRun_withoutValues s done [.perform .rollback]).trans
      (congrArg Outcome.withoutValues (if_pos hfailed)).symm)
  · exact (if_neg hfailed).trans (congrArg Outcome.withoutValues (if_neg hfailed)).symm

/-- What a body binds does not change which calls are made on a connection. -/
theorem withConnection_withoutValues (path : Value) (writer : Bool) (body : List Action) :
    withConnection s path writer (body.map Action.withoutValues) =
      (withConnection s path writer body).withoutValues := by
  have hopened : (run s [] [.perform (.connect path)]).withoutValues =
      run s [] [.perform (.connect path)] :=
    (run_withoutValues s [] [.perform (.connect path)]).symm
  rw [withConnection, withConnection]
  generalize run s [] [.perform (.connect path)] = opened at hopened
  have hinside := inside_withoutValues s writer opened body
  rw [hopened] at hinside
  simp only [hinside]
  by_cases hfailed : opened.fault.isSome = true
  · rw [if_pos hfailed, if_pos hfailed, hopened]
  · rw [if_neg hfailed, if_neg hfailed]
    exact thenRun_withoutValues s (inside s writer opened body) [.perform .close]

end TableQuery.Sqlite
