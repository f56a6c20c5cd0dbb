import TableQuery.Plan

/-!
# Serving requests

A service plans a request and hands the plan to a source of rows. Nothing is handed over before the
whole plan is made. A source may fail on either of its two calls, after the call was made.
-/
namespace TableQuery

inductive SourceCall where
  | find (plan : QueryPlan)
  | count (predicate : Option Predicate)

/-- Where rows come from: what is found for a plan and counted for a predicate, or the fault that
either comes to. -/
structure RowSource where
  find : QueryPlan → Except Fault Value
  count : Option Predicate → Except Fault Value

/-- A source that answers everything alike, or refuses a kind of call. -/
structure Source where
  rows : Value
  total : Value
  failsFind : Bool
  failsCount : Bool

instance : Coe Source RowSource where
  coe s :=
    { find _ := if s.failsFind then .error (.refused .find) else .ok s.rows
      count _ := if s.failsCount then .error (.refused .count) else .ok s.total }

structure PageOfRecords where
  records : Value
  total : Value

structure Served (α : Type) where
  calls : List SourceCall
  result : Except Fault α

namespace Planner

def findPlanned (s : RowSource) : Except Fault QueryPlan → Served Value
  | .error f => ⟨[], .error f⟩
  | .ok plan => ⟨[.find plan], s.find plan⟩

def countPlanned (s : RowSource) : Except Fault (Option Predicate) → Served Value
  | .error f => ⟨[], .error f⟩
  | .ok predicate => ⟨[.count predicate], s.count predicate⟩

def pagePlanned (s : RowSource) : Except Fault QueryPlan → Served PageOfRecords
  | .error f => ⟨[], .error f⟩
  | .ok plan =>
    match s.find plan with
    | .error f => ⟨[.find plan], .error f⟩
    | .ok records =>
      ⟨[.find plan, .count plan.predicate],
        (s.count plan.predicate).map fun total => ⟨records, total⟩⟩

def findByFilter (p : Planner) (s : RowSource) (request : Request) (default : Value) :
    Served Value :=
  findPlanned s (p.plan request default)

def countByFilter (p : Planner) (s : RowSource) (request : Request) : Served Value :=
  countPlanned s (p.compile request).outcome

def findPage (p : Planner) (s : RowSource) (request : Request) (default : Value) :
    Served PageOfRecords :=
  pagePlanned s (p.plan request default)

end Planner
end TableQuery
