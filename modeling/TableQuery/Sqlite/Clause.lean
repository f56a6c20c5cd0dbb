import TableQuery.Sqlite.Column

/-!
# Clauses

The condition of a statement, with the values it binds. Its text has a `?` in place of every value,
and `bound` lists the values in the order of those marks, so the text never depends on them.
-/
namespace TableQuery.Sqlite

structure Term where
  ref : ColumnRef
  folded : Bool
  deriving DecidableEq

def Term.chars (t : Term) : List Char :=
  if t.folded then "lower(".toList ++ t.ref.chars ++ [')'] else t.ref.chars

inductive Comparator where
  | eq | ne | gt | gte | lt | lte
  deriving DecidableEq

def Comparator.sign : Comparator → String
  | .eq => "="
  | .ne => "!="
  | .gt => ">"
  | .gte => ">="
  | .lt => "<"
  | .lte => "<="

/-- A condition. A junction has one part at least, and so has a membership. -/
inductive Clause where
  | constant (truth : Bool)
  | isNull (term : Term) (negated : Bool)
  | compare (term : Term) (comparator : Comparator) (value : Value)
  | member (term : Term) (values : List Value)
  | between (term : Term) (low high : Value)
  | like (term : Term) (negated : Bool) (pattern : Value)
  | junction (how : Connective) (parts : List Clause)

def joint : Connective → String
  | .all => " AND "
  | .any => " OR "

def separated {α : Type} (separator : List α) : List (List α) → List α
  | [] => []
  | [piece] => piece
  | piece :: rest => piece ++ separator ++ separated separator rest

namespace Clause

mutual

def chars : Clause → List Char
  | constant truth => if truth then "1=1".toList else "0=1".toList
  | isNull t negated => t.chars ++ (if negated then " IS NOT NULL" else " IS NULL").toList
  | compare t o _ => t.chars ++ ' ' :: o.sign.toList ++ " ?".toList
  | member t values =>
    t.chars ++ " IN (".toList ++ separated [','] (values.map fun _ => ['?']) ++ [')']
  | between t _ _ => t.chars ++ " BETWEEN ? AND ?".toList
  | like t negated _ => t.chars ++ (if negated then " NOT LIKE ?" else " LIKE ?").toList
  | junction how parts => '(' :: separated (joint how).toList (charsAll parts) ++ [')']

def charsAll : List Clause → List (List Char)
  | [] => []
  | c :: rest => chars c :: charsAll rest

end

mutual

def bound : Clause → List Value
  | constant _ | isNull _ _ => []
  | compare _ _ v => [v]
  | member _ values => values
  | between _ low high => [low, high]
  | like _ _ pattern => [pattern]
  | junction _ parts => boundAll parts

def boundAll : List Clause → List Value
  | [] => []
  | c :: rest => bound c ++ boundAll rest

end

def text (c : Clause) : String := String.ofList c.chars

end Clause
end TableQuery.Sqlite
