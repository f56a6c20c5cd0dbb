import TableQuery.Vocabulary

/-!
# Formulas

Conditions joined by "all of" and "at least one of", to any depth. What an atom is stays open.
-/
namespace TableQuery

inductive Formula (α : Type) where
  | atom (a : α)
  | junction (how : Connective) (parts : List (Formula α))

namespace Formula

variable {α β ε : Type}

/-- Joins formulas. One formula alone stands for itself, none gives none. -/
def join? (how : Connective) : List (Formula α) → Option (Formula α)
  | [] => none
  | [f] => some f
  | fs => some (junction how fs)

mutual

def atoms : Formula α → List α
  | atom a => [a]
  | junction _ parts => atomsAll parts

def atomsAll : List (Formula α) → List α
  | [] => []
  | f :: rest => atoms f ++ atomsAll rest

end

mutual

def map (g : α → β) : Formula α → Formula β
  | atom a => atom (g a)
  | junction how parts => junction how (mapAll g parts)

def mapAll (g : α → β) : List (Formula α) → List (Formula β)
  | [] => []
  | f :: rest => map g f :: mapAll g rest

end

mutual

def holds (v : α → Bool) : Formula α → Bool
  | atom a => v a
  | junction .all parts => holdsAll v parts
  | junction .any parts => holdsAny v parts

def holdsAll (v : α → Bool) : List (Formula α) → Bool
  | [] => true
  | f :: rest => holds v f && holdsAll v rest

def holdsAny (v : α → Bool) : List (Formula α) → Bool
  | [] => false
  | f :: rest => holds v f || holdsAny v rest

end

mutual

/-- Visits a formula before its parts, from left to right, until a visit fails. -/
def visit (atFormula : α → Except ε Unit) (atJunction : Connective → Except ε Unit) :
    Formula α → Except ε Unit
  | atom a => atFormula a
  | junction how parts =>
    match atJunction how with
    | .ok _ => visitAll atFormula atJunction parts
    | .error e => .error e

def visitAll (atFormula : α → Except ε Unit) (atJunction : Connective → Except ε Unit) :
    List (Formula α) → Except ε Unit
  | [] => .ok ()
  | f :: rest =>
    match visit atFormula atJunction f with
    | .ok _ => visitAll atFormula atJunction rest
    | .error e => .error e

end

end Formula
end TableQuery
