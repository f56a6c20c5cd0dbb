import TableQuery.Sqlite.Lowering
import TableQuery.Sqlite.Session
import TableQuery.Field.Declared
import TableQuery.Field.Resolver
import TableQuery.Plan

/-!
# Tables in a database

A store answers plans from one table. Sort keys are resolved, if there is a resolver, and everything
is lowered before the database is touched; rows are read before the connection is closed and shaped
after that.
-/
namespace TableQuery.Sqlite

/-- A value as the column function `lower` folds it: texts of every script, nothing else. -/
def foldValue : Value → Value
  | .text s => .text (Text.lower s)
  | v => v

structure Store where
  path : Value
  table : Value
  resolver : Resolver
  layout : Layout

structure Statement where
  sql : String
  params : List Value

namespace Store

def quotedTable (t : Store) : Except Fault String := (nameOf t.table).map quoteIdentifier

def selectSql (table : String) (clause : Clause) (order page : String) : String :=
  let parts := ["SELECT * FROM " ++ table ++ " WHERE " ++ clause.text, order, page]
  " ".intercalate (parts.filter (· ≠ ""))

def countSql (table : String) (clause : Clause) : String :=
  "SELECT COUNT(*) FROM " ++ table ++ " WHERE " ++ clause.text

def columnsSql (table : String) : String := "PRAGMA table_info(" ++ table ++ ")"

def checkSort (r : Resolver) : SortSpec → Except Fault Unit
  | [] => .ok ()
  | o :: rest =>
    if r.isAbsent then .ok ()
    else match r.require o.field with
      | .ok _ => checkSort r rest
      | .error f => .error f

def clauseOf (t : Store) (n : Node) : Except Fault Clause :=
  match convert t.layout n with
  | .ok c => .ok c
  | .error s => .error s.fault

/-- A statement that is noted before it is run, for which its values need texts. -/
def noted (q : Statement) : Except Fault Statement := (Value.literals q.params).map fun _ => q

def findStatement (t : Store) (n : Node) (sort : SortSpec) (page : Option PageWindow) :
    Except Fault Statement := do
  checkSort t.resolver sort
  let clause ← t.clauseOf n
  let order ← orderBy t.layout sort
  let (part, skip) ← limit page
  let table ← t.quotedTable
  noted ⟨selectSql table clause order part, clause.bound ++ skip⟩

def countStatement (t : Store) (n : Node) : Except Fault Statement := do
  let clause ← t.clauseOf n
  let table ← t.quotedTable
  noted ⟨countSql table clause, clause.bound⟩

def columnsActions (t : Store) : List Action :=
  match t.quotedTable with
  | .ok table => [.perform (.execute (columnsSql table) none), .perform .fetchAll]
  | .error f => [.stop f]

def pairOf (v : Value) : Except Fault (Value × Value) := do
  let parts ← v.items
  match parts with
  | [k, x] => if k.isKey then .ok (k, x) else .error .wrongKind
  | _ => .error .badValue

def rowMap : Value → Except Fault Value
  | .map es => .ok (.map es)
  | v => do
    let parts ← v.items
    let es ← parts.mapM pairOf
    .ok (.map (Table.ofEntries es))

def columnEntry (v : Value) : Except Fault (Value × Category) := do
  let name ← v.place 1
  let declared ← v.place 2
  let c ← Declared.category declared
  if name.isKey then .ok (name, c) else .error .wrongKind

structure Reply (α : Type) where
  session : List Event
  result : Except Fault α

def answer {α : Type} (t : Store) (r : Refusals) (body : List Action) (shaped : Except Fault α) :
    Reply α :=
  let o := withConnection r t.path false body
  match o.fault with
  | some f => ⟨o.session, .error f⟩
  | none => ⟨o.session, shaped⟩

def find (t : Store) (r : Refusals) (rows : List Value) (n : Node) (sort : SortSpec)
    (page : Option PageWindow) : Reply (List Value) :=
  match t.findStatement n sort page with
  | .error f => ⟨[], .error f⟩
  | .ok q =>
    t.answer r [.perform .rowFactory, .perform (.execute q.sql (some q.params)),
      .perform .fetchAll] (rows.mapM rowMap)

/-- Counts rows; the count is the first column of the first row the database has. -/
def count (t : Store) (r : Refusals) (rows : List Value) (n : Node) : Reply Value :=
  match t.countStatement n with
  | .error f => ⟨[], .error f⟩
  | .ok q =>
    t.answer r [.perform (.execute q.sql (some q.params)), .perform .fetchOne]
      ((rows.head?.getD .null).place 0)

def loadColumns (t : Store) (r : Refusals) (rows : List Value) : Reply (Table Category) :=
  t.answer r t.columnsActions ((rows.mapM columnEntry).map Table.ofEntries)

end Store
end TableQuery.Sqlite
