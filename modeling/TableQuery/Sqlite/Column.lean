import TableQuery.Value.Access
import TableQuery.Value.Literal

/-!
# Columns

How a statement refers to the value of a field: a column by its quoted name, or a path into a column
that holds objects. A quote inside a quoted name or text is written twice, so that nothing in a name
can end it.
-/
namespace TableQuery.Sqlite

def doubled (mark : Char) (text : List Char) : List Char :=
  text.flatMap fun c => if c = mark then [c, c] else [c]

def quotedName (name : List Char) : List Char := '"' :: doubled '"' name ++ ['"']

def quotedText (text : List Char) : List Char := '\'' :: doubled '\'' text ++ ['\'']

def quoteIdentifier (name : String) : String := String.ofList (quotedName name.toList)

def nameOf : Value → Except Fault String
  | .text s => .ok s
  | .bytes _ | .date _ | .datetime _ => .error .wrongKind
  | _ => .error .partMissing

inductive ColumnRef where
  | column (table : Option String) (name : String)
  | path (table : Option String) (objects : String) (field : String)
  deriving DecidableEq

namespace ColumnRef

def qualified (table : Option String) (name : String) : List Char :=
  match table with
  | none => quotedName name.toList
  | some t => t.toList ++ '.' :: quotedName name.toList

def chars : ColumnRef → List Char
  | column table name => qualified table name
  | path table objects field =>
    "json_extract(".toList ++ qualified table objects ++ ", ".toList ++
      quotedText ("$.".toList ++ field.toList) ++ [')']

end ColumnRef

/-- Where fields live: in columns of their own, or, apart from the direct ones, inside a column of
objects. Operators may be switched off. Names that do not count as given are left out. -/
structure Layout where
  table : Value
  objects : Value
  direct : List Value
  refused : List Operator

namespace Layout

def ofParts (table objects direct : Value) (refused : List Operator) : Except Fault Layout := do
  let fields ← direct.itemsIfGiven
  if fields.all Value.isKey then .ok ⟨table, objects, fields, refused⟩ else .error .wrongKind

def tableName (l : Layout) : Except Fault (Option String) :=
  if l.table.truthy then l.table.display.map some else .ok none

def canAsk : Value → Bool
  | .set _ => true
  | v => v.isKey

def isDirect (l : Layout) (field : Value) : Except Fault Bool :=
  if l.objects.truthy then
    if canAsk field then .ok (l.direct.any (·.same field)) else .error .wrongKind
  else .ok true

def reference (l : Layout) (field : Value) : Except Fault ColumnRef := do
  let direct ← l.isDirect field
  let name ← nameOf field
  if direct then
    let table ← l.tableName
    .ok (.column table name)
  else
    let objects ← nameOf l.objects
    let table ← l.tableName
    .ok (.path table objects name)

end Layout
end TableQuery.Sqlite
