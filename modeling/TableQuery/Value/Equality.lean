import TableQuery.Fault

/-!
# Equality of values

Numbers are compared by their exact value, whatever their kind. A list is never a tuple, a set may
equal a frozen set, and maps are equal when they hold the same entries in any order. The number that
is no number equals nothing, itself included. A signalling one cannot even be compared with a
number; parts are compared from left to right, so a difference found before it settles the
comparison.
-/
namespace TableQuery
namespace Value

def Magnitude.equal : Magnitude → Magnitude → Except Fault Bool
  | .signal, _ | _, .signal => .error .noDecimal
  | .finite c e, .finite d f => .ok (c = d && e = f)
  | .infinite a, .infinite b => .ok (a = b)
  | _, _ => .ok false

mutual

def equal : Value → Value → Except Fault Bool
  | null, null => .ok true
  | text a, text b => .ok (a = b)
  | bytes a, bytes b => .ok (a = b)
  | date a, date b => .ok (a = b)
  | datetime a, datetime b => .ok (a.same b)
  | list a, list b => if a.length = b.length then equalItems a b else .ok false
  | tuple a, tuple b => equalItems a b
  | set a, set b | set a, frozenset b | frozenset a, set b | frozenset a, frozenset b =>
    .ok (itemsPaired a b)
  | map a, map b => if a.length = b.length then equalEntries a b else .ok false
  | mode a, mode b => .ok (a = b)
  | connective a, connective b => .ok (a = b)
  | category a, category b => .ok (a = b)
  | sortKey f a, sortKey g b => .ok (f = g && a = b)
  | criterion v m c, criterion w n d => (equal v w).map (· && m = n && c = d)
  | comparison f o as i, comparison g p bs j =>
    match equal f g with
    | .ok true => if o = p then (equalItems as bs).map (· && i = j) else .ok false
    | r => r
  | junction h as, junction k bs => if h = k then equalItems as bs else .ok false
  | a, b =>
    match a.magnitude?, b.magnitude? with
    | some p, some q => p.equal q
    | _, _ => .ok false

def equalItems : List Value → List Value → Except Fault Bool
  | [], [] => .ok true
  | a :: as, b :: bs =>
    match equal a b with
    | .ok true => equalItems as bs
    | r => r
  | _, _ => .ok false

def itemsPaired : List Value → List Value → Bool
  | [], others => others.isEmpty
  | a :: as, others =>
    let equals b := match equal a b with | .ok r => r | .error _ => false
    others.any equals && itemsPaired as (others.eraseP equals)

def equalEntries : List (Value × Value) → List (Value × Value) → Except Fault Bool
  | [], _ => .ok true
  | (k, v) :: rest, others =>
    match others.find? fun e => match equal k e.1 with | .ok r => r | .error _ => false with
    | none => .ok false
    | some e =>
      match equal v e.2 with
      | .ok true => equalEntries rest others
      | r => r

end

def same (a b : Value) : Bool :=
  match equal a b with
  | .ok r => r
  | .error _ => false

end Value
end TableQuery
