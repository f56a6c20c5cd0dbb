import TableQuery.Field.Resolver

/-!
# Categories of value types

A value type is known by the families it belongs to; a type may belong to several. Text comes first,
then truth values and enumerations, which can only be equal, then everything that has an order.
-/
namespace TableQuery

inductive Family where
  | text | truth | enumeration
  | whole | real | decimal
  | date | datetime | timeOfDay | duration
  deriving DecidableEq

def Family.ordered : List Family :=
  [.whole, .real, .decimal, .date, .datetime, .timeOfDay, .duration]

structure FieldType where
  families : List Family
  deriving DecidableEq

namespace FieldType

def isOneOf (t : FieldType) (fs : List Family) : Bool := t.families.any fun f => fs.contains f

def category (t : FieldType) : Category :=
  if t.isOneOf [.text] then .text
  else if t.isOneOf [.truth, .enumeration] then .opaqueKind
  else if t.isOneOf Family.ordered then .ordered
  else .opaqueKind

def named : List (String × FieldType) :=
  [("str", ⟨[.text]⟩), ("str_subclass", ⟨[.text]⟩), ("str_enum", ⟨[.text, .enumeration]⟩),
   ("bool", ⟨[.truth, .whole]⟩), ("enum", ⟨[.enumeration]⟩),
   ("int_enum", ⟨[.whole, .enumeration]⟩), ("flag", ⟨[.enumeration]⟩),
   ("int", ⟨[.whole]⟩), ("int_subclass", ⟨[.whole]⟩), ("float", ⟨[.real]⟩),
   ("decimal", ⟨[.decimal]⟩), ("date", ⟨[.date]⟩), ("date_subclass", ⟨[.date]⟩),
   ("datetime", ⟨[.datetime, .date]⟩), ("time", ⟨[.timeOfDay]⟩),
   ("timedelta", ⟨[.duration]⟩), ("timezone", ⟨[]⟩), ("uuid", ⟨[]⟩), ("dict", ⟨[]⟩),
   ("list", ⟨[]⟩), ("tuple", ⟨[]⟩), ("set", ⟨[]⟩), ("bytes", ⟨[]⟩), ("none", ⟨[]⟩),
   ("complex", ⟨[]⟩), ("object", ⟨[]⟩), ("fraction", ⟨[]⟩), ("type", ⟨[]⟩)]

def valueName : String := "not_a_type"

def ofName (name : String) : Except Fault FieldType :=
  match named.lookup name with
  | some t => .ok t
  | none => .error (if name = valueName then .wrongKind else .keyMissing)

def categoryNamed (name : String) : Except Fault Category := (ofName name).map category

end FieldType

def Resolver.ofFieldTypes (types : Table FieldType) : Resolver :=
  .table (types.map fun e => (e.1, e.2.category))

/-- A table of fields with named types. Of two types for one field the later one counts. -/
def Resolver.ofTypes (fields : List (Value × String)) : Except Fault Resolver := do
  let types ← (Table.ofEntries fields).mapM fun e => do
    let t ← FieldType.ofName e.2
    .ok (e.1, t)
  .ok (.ofFieldTypes types)

end TableQuery
