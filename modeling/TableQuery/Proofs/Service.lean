import TableQuery.Predicate.Compiler
import TableQuery.Proofs.Sqlite.Statement
import TableQuery.Service

/-!
# One query for one request

A service asks its source nothing before the whole plan is made, and only for what that plan says.
Whichever way a request comes in, to be found, counted or both, its source gets the same predicate;
where the rows begin, how many there are on a page and how they are sorted make no difference to it.
No step changes the service, so one that fails leaves nothing behind for the next one.
-/
namespace TableQuery

def SourceCall.predicate : SourceCall → Option Predicate
  | find plan => plan.predicate
  | count predicate => predicate

def Served.map {α β : Type} (f : α → β) (s : Served α) : Served β := ⟨s.calls, s.result.map f⟩

structure Request.SameCriteria (a b : Request) : Prop where
  criteria : a.criteria = b.criteria
  globalField : a.globalField = b.globalField

namespace Planner

inductive Step where
  | findByFilter (request : Request) (default : Value)
  | countByFilter (request : Request)
  | findPage (request : Request) (default : Value)
  | buildSort (request : Request) (default : Value)

def Step.request : Step → Request
  | findByFilter request _ | countByFilter request | findPage request _ | buildSort request _ =>
    request

inductive Answer where
  | records (found : Value)
  | total (counted : Value)
  | page (found : PageOfRecords)
  | sort (order : SortSpec)

structure Turn where
  step : Step
  source : RowSource

def replyTo (p : Planner) (s : RowSource) : Step → Served Answer
  | .findByFilter request default => (p.findByFilter s request default).map .records
  | .countByFilter request => (p.countByFilter s request).map .total
  | .findPage request default => (p.findPage s request default).map .page
  | .buildSort request default => ⟨[], (p.sort request default).map .sort⟩

/-- A service after a step: what it compiled with is kept by its compiler. -/
def after (p : Planner) : Step → Planner
  | .buildSort _ _ => p
  | step =>
    let compiled := Compiler.compile ⟨p.attributes⟩ p.resolver step.request .null
    { p with attributes := compiled.1.searched }

def take (p : Planner) (turn : Turn) : Planner × Served Answer :=
  (p.after turn.step, p.replyTo turn.source turn.step)

def takeAll (p : Planner) : List Turn → List (Served Answer)
  | [] => []
  | turn :: rest => (p.take turn).2 :: (p.take turn).1.takeAll rest

/-- What a source is asked in a step: nothing without a plan, and otherwise what the plan says. The
rows of a page are counted only if they were found. -/
inductive Hands (p : Planner) (s : RowSource) : Step → List SourceCall → Prop
  | unplanned {request default f} (h : p.plan request default = .error f) :
    Hands p s (.findByFilter request default) []
  | found {request default plan} (h : p.plan request default = .ok plan) :
    Hands p s (.findByFilter request default) [.find plan]
  | uncompiled {request f} (h : (p.compile request).outcome = .error f) :
    Hands p s (.countByFilter request) []
  | counted {request predicate} (h : (p.compile request).outcome = .ok predicate) :
    Hands p s (.countByFilter request) [.count predicate]
  | unplannedPage {request default f} (h : p.plan request default = .error f) :
    Hands p s (.findPage request default) []
  | lostPage {request default plan f} (h : p.plan request default = .ok plan)
    (hfind : s.find plan = .error f) : Hands p s (.findPage request default) [.find plan]
  | page {request default plan records} (h : p.plan request default = .ok plan)
    (hfind : s.find plan = .ok records) :
    Hands p s (.findPage request default) [.find plan, .count plan.predicate]
  | sorted {request default} : Hands p s (.buildSort request default) []

/-- What is served in a step is what a service of its own would serve, by the calls that its plan
allows, all of them with the predicate of its request. -/
structure Serves (p : Planner) (turn : Turn) (served : Served Answer) : Prop where
  fresh : served = (p.take turn).2
  hands : p.Hands turn.source turn.step served.calls
  predicate : ∀ call ∈ served.calls, (p.compile turn.step.request).outcome = .ok call.predicate

variable {p : Planner} {s : RowSource} {step : Step} {calls : List SourceCall}

theorem hands_replyTo (p : Planner) (s : RowSource) (step : Step) :
    p.Hands s step (p.replyTo s step).calls := by
  cases step with
  | findByFilter request default =>
    rw [replyTo, findByFilter]
    cases hplan : p.plan request default with
    | error f => exact .unplanned hplan
    | ok plan => exact .found hplan
  | countByFilter request =>
    rw [replyTo, countByFilter]
    cases houtcome : (p.compile request).outcome with
    | error f => exact .uncompiled houtcome
    | ok predicate => exact .counted houtcome
  | findPage request default =>
    rw [replyTo, findPage]
    cases hplan : p.plan request default with
    | error f => exact .unplannedPage hplan
    | ok plan =>
      rw [pagePlanned]
      cases hfind : s.find plan with
      | error f => exact .lostPage hplan hfind
      | ok records => exact .page hplan hfind
  | buildSort request default => exact .sorted

theorem predicate_of_hands (h : p.Hands s step calls) :
    ∀ call ∈ calls, (p.compile step.request).outcome = .ok call.predicate := by
  have hplanned : ∀ {request default plan}, p.plan request default = .ok plan →
      (p.compile request).outcome = .ok plan.predicate := fun hplan => (plan_ok.mp hplan).1
  intro call hcall
  cases h with
  | unplanned | uncompiled | unplannedPage | sorted => cases hcall
  | found hplan | lostPage hplan _ =>
    obtain rfl := List.mem_singleton.mp hcall
    exact hplanned hplan
  | counted houtcome =>
    obtain rfl := List.mem_singleton.mp hcall
    exact houtcome
  | page hplan _ =>
    rcases List.mem_cons.mp hcall with rfl | hcall
    · exact hplanned hplan
    · obtain rfl := List.mem_singleton.mp hcall
      exact hplanned hplan

theorem after_eq (p : Planner) (step : Step) : p.after step = p := by
  cases step <;> rfl

theorem takeAll_serves (p : Planner) (turns : List Turn) :
    List.Forall₂ p.Serves turns (p.takeAll turns) := by
  induction turns with
  | nil => exact .nil
  | cons turn rest ih =>
    have hhands := hands_replyTo p turn.source turn.step
    rw [takeAll, take, after_eq]
    exact .cons ⟨by rw [take, after_eq], hhands, predicate_of_hands hhands⟩ ih

theorem compile_of_sameCriteria {a b : Request} (h : a.SameCriteria b) :
    p.compile a = p.compile b := by
  unfold compile Predicate.ofRequestWith Predicate.ofRequest
  rw [h.criteria, h.globalField]

/-- Whatever a service is asked, in whichever order, and whichever calls fail, it asks its source
for what the plan of the request says and for nothing before there is a plan; and wherever two
requests with the same criteria get as far as the source, it is asked with the same predicate. -/
theorem takeAll_consistent (p : Planner) (turns : List Turn) :
    List.Forall₂ p.Serves turns (p.takeAll turns) ∧
    ∀ a ∈ turns.zip (p.takeAll turns), ∀ b ∈ turns.zip (p.takeAll turns),
      a.1.step.request.SameCriteria b.1.step.request →
        ∀ x ∈ a.2.calls, ∀ y ∈ b.2.calls, x.predicate = y.predicate := by
  have hserves := takeAll_serves p turns
  refine ⟨hserves, ?_⟩
  rintro a ha b hb hsame x hx y hy
  have hx := (List.forall₂_zip hserves ha).predicate x hx
  have hy := (List.forall₂_zip hserves hb).predicate y hy
  rw [compile_of_sameCriteria hsame, hy] at hx
  exact (Except.ok.inj hx).symm

end Planner
end TableQuery
