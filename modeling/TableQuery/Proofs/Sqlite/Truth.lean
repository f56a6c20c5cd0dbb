import Mathlib
import TableQuery.Sqlite.Store

/-!
# What a clause is true of

A condition on a row is true, false or unknown, and a statement keeps a row when its condition is
true. Patterns are read here: `%` stands for any run of characters, `_` for any one, and every other
character for itself. What else a database answers about a value that is not null stays open.
-/
namespace TableQuery

def Connective.verdict : Connective → List (Option Bool) → Option Bool
  | .all, parts =>
    if some false ∈ parts then some false else if none ∈ parts then none else some true
  | .any, parts =>
    if some true ∈ parts then some true else if none ∈ parts then none else some false

namespace Sqlite

def isWildcard (c : Char) : Bool := c = '%' || c = '_'

def like : List Char → List Char → Bool
  | [], s => s.isEmpty
  | c :: p, s =>
    if c = '%' then s.tails.any (like p)
    else match s with
      | [] => false
      | d :: s => (c = '_' || c = d) && like p s

section Like

variable {p q s : List Char}

theorem like_eq (c : Char) (p s : List Char) :
    like (c :: p) s = if c = '%' then s.tails.any (like p)
      else match s with
        | [] => false
        | d :: s => (c = '_' || c = d) && like p s := by
  cases s <;> rfl

theorem like_percent : like ('%' :: p) s = true ↔ ∃ a b, s = a ++ b ∧ like p b = true := by
  rw [like_eq, if_pos rfl, List.any_eq_true]
  constructor
  · rintro ⟨b, hb, hp⟩
    obtain ⟨a, rfl⟩ := (List.mem_tails _ _).mp hb
    exact ⟨a, b, rfl, hp⟩
  · rintro ⟨a, b, rfl, hp⟩
    exact ⟨b, (List.mem_tails _ _).mpr (List.suffix_append a b), hp⟩

theorem like_cons {c : Char} (hc : c ≠ '%') :
    like (c :: p) s = true ↔ ∃ d b, s = d :: b ∧ (c = '_' ∨ c = d) ∧ like p b = true := by
  rw [like_eq, if_neg hc]
  cases s <;> simp

theorem like_append :
    like (p ++ q) s = true ↔ ∃ a b, s = a ++ b ∧ like p a = true ∧ like q b = true := by
  induction p generalizing s with
  | nil => simp [like]
  | cons c p ih =>
    rw [List.cons_append]
    by_cases hc : c = '%'
    · subst hc
      constructor
      · intro h
        obtain ⟨a, b, rfl, hb⟩ := like_percent.mp h
        obtain ⟨b, d, rfl, hp, hq⟩ := ih.mp hb
        exact ⟨a ++ b, d, (List.append_assoc a b d).symm, like_percent.mpr ⟨a, b, rfl, hp⟩, hq⟩
      · rintro ⟨_, d, rfl, hrun, hq⟩
        obtain ⟨a, b, rfl, hp⟩ := like_percent.mp hrun
        exact like_percent.mpr ⟨a, b ++ d, List.append_assoc a b d, ih.mpr ⟨b, d, rfl, hp, hq⟩⟩
    · constructor
      · intro h
        obtain ⟨e, b, rfl, he, hb⟩ := (like_cons hc).mp h
        obtain ⟨b, d, rfl, hp, hq⟩ := ih.mp hb
        exact ⟨e :: b, d, rfl, (like_cons hc).mpr ⟨e, b, rfl, he, hp⟩, hq⟩
      · rintro ⟨_, d, rfl, hone, hq⟩
        obtain ⟨e, b, rfl, he, hp⟩ := (like_cons hc).mp hone
        exact (like_cons hc).mpr ⟨e, b ++ d, rfl, he, ih.mpr ⟨b, d, rfl, hp, hq⟩⟩

theorem like_run : like ['%'] s = true :=
  like_percent.mpr ⟨s, [], (List.append_nil s).symm, rfl⟩

theorem like_open_left : like ('%' :: p) s = true ↔ ∃ part, part <:+ s ∧ like p part = true := by
  rw [like_percent]
  constructor
  · rintro ⟨a, b, rfl, hp⟩
    exact ⟨b, List.suffix_append a b, hp⟩
  · rintro ⟨b, ⟨a, rfl⟩, hp⟩
    exact ⟨a, b, rfl, hp⟩

theorem like_open_right :
    like (p ++ ['%']) s = true ↔ ∃ part, part <+: s ∧ like p part = true := by
  rw [like_append]
  constructor
  · rintro ⟨a, b, rfl, hp, _⟩
    exact ⟨a, List.prefix_append a b, hp⟩
  · rintro ⟨a, ⟨b, rfl⟩, hp⟩
    exact ⟨a, b, rfl, hp, like_run⟩

theorem like_open :
    like ('%' :: (p ++ ['%'])) s = true ↔ ∃ part, part <:+: s ∧ like p part = true := by
  rw [like_open_left]
  constructor
  · rintro ⟨b, hb, hp⟩
    obtain ⟨part, hpart, hp⟩ := like_open_right.mp hp
    exact ⟨part, List.infix_iff_prefix_suffix.mpr ⟨b, hpart, hb⟩, hp⟩
  · rintro ⟨part, hpart, hp⟩
    obtain ⟨b, hpre, hb⟩ := List.infix_iff_prefix_suffix.mp hpart
    exact ⟨b, hb, like_open_right.mpr ⟨part, hpre, hp⟩⟩

theorem like_plain (h : p.any isWildcard = false) : like p s = true ↔ s = p := by
  induction p generalizing s with
  | nil => simp [like]
  | cons c p ih =>
    rw [List.any_cons, Bool.or_eq_false_iff] at h
    have hc : c ≠ '%' ∧ c ≠ '_' := by simpa [isWildcard] using h.1
    rw [like_cons hc.1]
    constructor
    · rintro ⟨d, b, rfl, he, hb⟩
      rw [(ih h.2).mp hb, he.resolve_left hc.2]
    · rintro rfl
      exact ⟨c, p, rfl, .inr rfl, (ih h.2).mpr rfl⟩

/-- A text without wildcards that fits a pattern: nothing for a run, and a letter for any one. -/
def filled (p : List Char) : List Char :=
  p.filterMap fun c => if c = '%' then none else if c = '_' then some 'x' else some c

theorem like_filled (p : List Char) : like p (filled p) = true := by
  induction p with
  | nil => rfl
  | cons c p ih =>
    by_cases hc : c = '%'
    · subst hc
      exact like_percent.mpr ⟨[], filled p, rfl, ih⟩
    · by_cases hone : c = '_'
      · subst hone
        exact (like_cons hc).mpr ⟨'x', filled p, rfl, .inl rfl, ih⟩
      · have hcons : filled (c :: p) = c :: filled p := by simp [filled, hc, hone]
        exact (like_cons hc).mpr ⟨c, filled p, hcons, .inr rfl, ih⟩

theorem mem_filled {c : Char} (h : c ∈ filled p) : c = 'x' ∨ c ∈ p ∧ isWildcard c = false := by
  obtain ⟨d, hd, hc⟩ := List.mem_filterMap.mp h
  split at hc
  · cases hc
  · split at hc
    · exact .inl (Option.some.inj hc).symm
    · next hrun hone =>
      obtain rfl := Option.some.inj hc
      exact .inr ⟨hd, by simp [isWildcard, hrun, hone]⟩

end Like

variable (row : ColumnRef → Value) (other : Clause → Value → Bool)

def Term.valueIn (t : Term) : Value :=
  if t.folded then foldValue (row t.ref) else row t.ref

namespace Clause

def answer (c : Clause) (v : Value) : Bool :=
  match c, v with
  | .like _ negated (.text p), .text s => Sqlite.like p.toList s.toList != negated
  | c, v => other c v

/-- Nothing is known about null. -/
def ask (t : Term) (c : Clause) : Option Bool :=
  match t.valueIn row with
  | .null => none
  | v => some (c.answer other v)

def isNullIn (t : Term) : Bool :=
  match t.valueIn row with
  | .null => true
  | _ => false

mutual

def truth : Clause → Option Bool
  | constant b => some b
  | isNull t negated => some (isNullIn row t != negated)
  | compare t o v => ask row other t (compare t o v)
  | member t values => ask row other t (member t values)
  | between t low high => ask row other t (between t low high)
  | like t negated pattern => ask row other t (like t negated pattern)
  | junction how parts => how.verdict (truths parts)

def truths : List Clause → List (Option Bool)
  | [] => []
  | c :: rest => truth c :: truths rest

end

def keeps (c : Clause) : Bool := c.truth row other = some true

end Clause
end Sqlite
end TableQuery
