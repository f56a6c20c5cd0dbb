import TableQuery.Request.Basic
import TableQuery.Text.Blank

/-!
# Sort order

The order of the rows, first key first; no key means no order. A request that names no sort key is
sorted upwards on a default field, if there is one that is not blank. Fields may repeat.
-/
namespace TableQuery

structure SortOrder where
  field : Value
  ascending : Bool

abbrev SortSpec := List SortOrder

namespace SortSpec

def isBlankField : Value → Except Fault Bool
  | .text name => .ok (Text.allBlank name.toList)
  | .bytes octets => .ok (octets.all fun b => Text.isBlankOctet b.toNat)
  | _ => .error .partMissing

def byDefault : Value → Except Fault SortSpec
  | .null => .ok []
  | field => (isBlankField field).map fun blank => if blank then [] else [⟨field, true⟩]

def ofRequest (request : Request) (default : Value) : Except Fault SortSpec :=
  if request.sortKeys.isEmpty then byDefault default
  else .ok (request.sortKeys.map fun k => ⟨.text k.field, k.ascending⟩)

end SortSpec
end TableQuery
