import TableQuery.Value.Access
import TableQuery.Text.Casing

/-!
# Categories of declared column types

The type declared for a column decides its category by the words it contains, in capital letters,
the way the affinity of a column is found: `INT` before everything else, then the words for text,
then a missing type and the words for blobs and truth values; any other type is ordered.
-/
namespace TableQuery.Declared

def occurs (word : List Char) : List Char → Bool
  | [] => word.isEmpty
  | c :: rest => word.isPrefixOf (c :: rest) || occurs word rest

def mentions (words : List String) (text : List Char) : Bool :=
  words.any fun w => occurs w.toList text

def ofCapitals (declared : List Char) : Category :=
  if mentions ["INT"] declared then .ordered
  else if mentions ["CHAR", "CLOB", "TEXT"] declared then .text
  else if declared.isEmpty || mentions ["BLOB", "BOOL"] declared then .opaqueKind
  else .ordered

def category (declared : Value) : Except Fault Category :=
  if declared.truthy then
    match declared with
    | .text s => .ok (ofCapitals (Text.upperLatin s.toList))
    | .bytes _ => .error .wrongKind
    | _ => .error .partMissing
  else .ok (ofCapitals [])

end TableQuery.Declared
