import TableQuery.Predicate.OfRequest
import TableQuery.Sorting
import TableQuery.Page

/-!
# Query plans

What a request comes to once it is compiled: a predicate, a sort order and a page. A planner holds
what all requests for one kind of record share. The predicate is compiled before the sort order. A
plan that has no text stops everything, as a predicate does.
-/
namespace TableQuery

/-- A compiled request; without predicate it takes every row, without page all that match. -/
structure QueryPlan where
  predicate : Option Predicate
  sort : SortSpec
  page : Option PageWindow

/-- A plan once it is noted, for which its sort fields and the numbers of its page need texts; its
predicate has one since it was compiled. -/
def QueryPlan.noted (p : QueryPlan) : Except Fault QueryPlan := do
  let _ ← Value.literals (p.sort.map SortOrder.field)
  let _ ← Value.literals (p.page.elim [] fun w => [w.index, w.size])
  .ok p

structure Planner where
  resolver : Resolver
  attributes : SearchSet
  defaultSort : Value

namespace Planner

def defaultField (p : Planner) (given : Value) : Value :=
  if given.truthy then given else p.defaultSort

def sort (p : Planner) (request : Request) (default : Value) : Except Fault SortSpec :=
  SortSpec.ofRequest request (p.defaultField default)

def compile (p : Planner) (request : Request) : Predicate.Compiled :=
  Predicate.ofRequestWith p.resolver (.ok p.attributes) request

def planOf (p : Planner) (request : Request) (default : Value) (compiled : Predicate.Compiled) :
    Except Fault QueryPlan := do
  let predicate ← compiled.outcome
  let sort ← p.sort request default
  QueryPlan.noted ⟨predicate, sort, PageWindow.ofRequest request⟩

def plan (p : Planner) (request : Request) (default : Value) : Except Fault QueryPlan :=
  p.planOf request default (p.compile request)

end Planner
end TableQuery
