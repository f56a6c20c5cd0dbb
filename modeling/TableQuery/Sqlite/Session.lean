import TableQuery.Fault

/-!
# Sessions with a database

A session is the list of calls made on one connection. Any of them may fail, after it was made. A
connection is prepared before anything else runs on it, commits at the end and rolls back
after a fault when it is used for writing, and is closed whatever happened.
-/
namespace TableQuery.Sqlite

/-- Which calls fail: of every kind, whether the `n`-th one does. -/
structure Refusals where
  refused : Call → Nat → Bool

/-- The place of a call among those of its kind, when it comes after the calls of a session. -/
def Event.place (session : List Event) (e : Event) : Nat :=
  (session.map Event.call).count e.call + 1

def Refusals.refuses (r : Refusals) (session : List Event) (e : Event) : Bool :=
  r.refused e.call (e.place session)

/-- At most one call that fails: the `n`-th of its kind. -/
structure Script where
  failing : Option (Call × Nat)

instance : Coe Script Refusals where
  coe s := ⟨fun c n => s.failing = some (c, n)⟩

inductive Action where
  | perform (e : Event)
  | stop (f : Fault)

structure Outcome where
  session : List Event
  fault : Option Fault

def run (r : Refusals) (session : List Event) : List Action → Outcome
  | [] => ⟨session, none⟩
  | .stop f :: _ => ⟨session, some f⟩
  | .perform e :: rest =>
    if r.refuses session e then
      ⟨session ++ [e], some (.refused (.onConnection e.call (e.place session)))⟩
    else run r (session ++ [e]) rest

/-- Acts after something else came to an end; a fault of its own takes the place of an earlier. -/
def thenRun (r : Refusals) (o : Outcome) (actions : List Action) : Outcome :=
  let next := run r o.session actions
  ⟨next.session, next.fault.orElse fun _ => o.fault⟩

def preparation : List Action :=
  [.perform (.execute "PRAGMA busy_timeout=5000" none), .perform .cursorClose,
    .perform .registerLower]

def inside (r : Refusals) (writer : Bool) (opened : Outcome) (body : List Action) : Outcome :=
  let done := run r opened.session
    (preparation ++ body ++ (if writer then [.perform .commit] else []))
  if done.fault.isSome && writer then thenRun r done [.perform .rollback] else done

def withConnection (r : Refusals) (path : Value) (writer : Bool) (body : List Action) : Outcome :=
  let opened := run r [] [.perform (.connect path)]
  if opened.fault.isSome then opened
  else thenRun r (inside r writer opened body) [.perform .close]

/-- Statements as actions; a missing statement stops the body. -/
def statements (body : List (Option String)) : List Action :=
  body.map fun
    | some sql => .perform (.execute sql none)
    | none => .stop .keyMissing

end TableQuery.Sqlite
