import TableQuery.Value.Basic

/-!
# Calls on a connection

What a connection is asked, by kind, and with what it is asked. The kinds carry the names under
which they are reported.
-/
namespace TableQuery.Sqlite

inductive Call where
  | connect | execute | createFunction | rowFactory | fetchAll | fetchOne | cursorClose
  | commit | rollback | close
  deriving DecidableEq

inductive Event where
  | connect (path : Value)
  | execute (sql : String) (params : Option (List Value))
  /-- Registers the folding of texts under the name `lower`, with one argument. -/
  | registerLower
  | rowFactory
  | fetchAll
  | fetchOne
  | cursorClose
  | commit
  | rollback
  | close

def Event.call : Event → Call
  | connect _ => .connect
  | execute _ _ => .execute
  | registerLower => .createFunction
  | rowFactory => .rowFactory
  | fetchAll => .fetchAll
  | fetchOne => .fetchOne
  | cursorClose => .cursorClose
  | commit => .commit
  | rollback => .rollback
  | close => .close

def Call.name : Call → String
  | connect => "connect"
  | execute => "execute"
  | createFunction => "create_function"
  | rowFactory => "row_factory"
  | fetchAll => "fetchall"
  | fetchOne => "fetchone"
  | cursorClose => "cursor_close"
  | commit => "commit"
  | rollback => "rollback"
  | close => "close"

def Call.every : List Call :=
  [connect, execute, createFunction, rowFactory, fetchAll, fetchOne, cursorClose, commit, rollback,
    close]

def Call.ofName? (name : String) : Option Call := every.find? fun c => c.name = name

end TableQuery.Sqlite
