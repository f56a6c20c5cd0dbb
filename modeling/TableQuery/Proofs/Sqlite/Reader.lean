import TableQuery.Predicate.Basic
import TableQuery.Proofs.Sqlite.Token

/-!
# Conditions, read back

A reader of conditions with the precedence they have in a statement: comparisons bind tighter than
`AND`, and that tighter than `OR`. The `AND` of a `BETWEEN` is part of the comparison. A number
bounds how deep parentheses may nest; the number of tokens is always enough.
-/
namespace TableQuery.Sqlite

inductive Fact where
  | constant (truth : Bool)
  | isNull (term : Term) (negated : Bool)
  | asks (term : Term) (operator : Operator) (operands : List Value)

abbrev Reading := Formula Fact

/-- Parts that are read together. One alone stands for itself, and none is a constant. -/
def joined (how : Connective) (parts : List Reading) : Reading :=
  (Formula.join? how parts).getD (.atom (.constant (how = .all)))

abbrev Tokens := List (Token Value)

def Comparator.operator : Comparator → Operator
  | eq => .eq
  | ne => .ne
  | gt => .gt
  | gte => .gte
  | lt => .lt
  | lte => .lte

namespace Reader

def column : Tokens → Option ((Option String × String) × Tokens)
  | .name n :: rest => some ((none, n), rest)
  | .word t :: .dot :: .name n :: rest => if isReserved t then none else some ((some t, n), rest)
  | _ => none

def fieldAt (path : String) : Option String :=
  match path.toList with
  | '$' :: '.' :: field => some (String.ofList field)
  | _ => none

def pathEnd : Tokens → Option (String × Tokens)
  | .comma :: .text path :: .closing :: rest => (fieldAt path).map (·, rest)
  | _ => none

def ref : Tokens → Option (ColumnRef × Tokens)
  | .word f :: .opening :: rest =>
    if f = "json_extract" then
      (column rest).bind fun ((table, objects), rest) =>
        (pathEnd rest).map fun (field, rest) => (.path table objects field, rest)
    else none
  | ts => (column ts).map fun ((table, name), rest) => (.column table name, rest)

def closing : Tokens → Option Tokens
  | .closing :: rest => some rest
  | _ => none

def term : Tokens → Option (Term × Tokens)
  | .word f :: .opening :: rest =>
    if f = "lower" then
      (ref rest).bind fun (r, rest) => (closing rest).map fun rest => (⟨r, true⟩, rest)
    else (ref (.word f :: .opening :: rest)).map fun (r, rest) => (⟨r, false⟩, rest)
  | ts => (ref ts).map fun (r, rest) => (⟨r, false⟩, rest)

def members : Tokens → Option (List Value × Tokens)
  | .mark v :: .closing :: rest => some ([v], rest)
  | .mark v :: .comma :: rest => (members rest).map fun (vs, rest) => (v :: vs, rest)
  | _ => none

def question (t : Term) : Tokens → Option (Fact × Tokens)
  | .sign c :: .mark v :: rest => some (.asks t c.operator [v], rest)
  | .word "IS" :: .word "NULL" :: rest => some (.isNull t false, rest)
  | .word "IS" :: .word "NOT" :: .word "NULL" :: rest => some (.isNull t true, rest)
  | .word "LIKE" :: .mark v :: rest => some (.asks t .like [v], rest)
  | .word "NOT" :: .word "LIKE" :: .mark v :: rest => some (.asks t .notLike [v], rest)
  | .word "BETWEEN" :: .mark v :: .word "AND" :: .mark w :: rest =>
    some (.asks t .between [v, w], rest)
  | .word "IN" :: .opening :: rest =>
    (members rest).map fun (vs, rest) => (.asks t .isIn vs, rest)
  | _ => none

def comparison : Tokens → Option (Fact × Tokens)
  | .number m :: .sign .eq :: .number n :: rest => some (.constant (m = n), rest)
  | ts => (term ts).bind fun (t, rest) => question t rest

def behind (word : String) : Tokens → Option Tokens
  | .word w :: rest => if w = word then some rest else none
  | _ => none

def chain (joint : String) (part : Tokens → Option (Reading × Tokens)) :
    Nat → Tokens → Option (List Reading × Tokens)
  | 0, _ => none
  | fuel + 1, ts =>
    (part ts).bind fun (r, rest) =>
      match behind joint rest with
      | some more => (chain joint part fuel more).map fun (rs, rest) => (r :: rs, rest)
      | none => some ([r], rest)

def junction (how : Connective) (part : Tokens → Option (Reading × Tokens)) (ts : Tokens) :
    Option (Reading × Tokens) :=
  (chain how.label part (ts.length + 1) ts).map fun (rs, rest) => (joined how rs, rest)

/-- Parts joined by `OR`, each of them parts joined by `AND`. -/
def condition (part : Tokens → Option (Reading × Tokens)) : Tokens → Option (Reading × Tokens) :=
  junction .any (junction .all part)

def part : Nat → Tokens → Option (Reading × Tokens)
  | 0, _ => none
  | fuel + 1, .opening :: rest =>
    (condition (part fuel) rest).bind fun (r, rest) => (closing rest).map (r, ·)
  | _ + 1, ts => (comparison ts).map fun (f, rest) => (.atom f, rest)

end Reader

/-- Reads a condition with the values it binds; nothing may be left over. -/
def read (text : String) (values : List Value) : Option Reading := do
  let shapes ← tokens text.toList
  let ts ← Token.supply shapes values
  let (r, rest) ← Reader.condition (Reader.part (ts.length + 1)) ts
  if rest.isEmpty then some r else none

namespace Reader

def Ends (rest : Tokens) : Prop := ∀ word, behind word rest = none

theorem ends_nil : Ends [] := fun _ => rfl

theorem ends_closing (rest : Tokens) : Ends (.closing :: rest) := fun _ => rfl

section Chain

variable {joint : String} {part : Tokens → Option (Reading × Tokens)} {fuel : Nat}
  {ts rest more : Tokens} {r : Reading} {rs : List Reading}

theorem chain_last (h : part ts = some (r, rest)) (hend : behind joint rest = none) :
    chain joint part (fuel + 1) ts = some ([r], rest) := by
  simp only [chain, h, Option.bind_some, hend]

theorem chain_more (h : part ts = some (r, .word joint :: more))
    (hmore : chain joint part fuel more = some (rs, rest)) :
    chain joint part (fuel + 1) ts = some (r :: rs, rest) := by
  simp only [chain, h, Option.bind_some, behind, if_true, hmore, Option.map_some]

/-- A chain is read part by part; the parts only have to be readable in front of the word that joins
them and of what follows the chain. -/
theorem chain_parts {Before : Tokens → Prop} (hjoint : ∀ more, Before (.word joint :: more))
    {pieces : List Tokens} (hrest : Before rest) (hend : behind joint rest = none)
    (h : List.Forall₂ (fun ts r => ∀ rest, Before rest → part (ts ++ rest) = some (r, rest))
      pieces rs)
    (hne : pieces ≠ []) (hfuel : pieces.length ≤ fuel) :
    chain joint part fuel (separated [.word joint] pieces ++ rest) = some (rs, rest) := by
  induction h generalizing fuel with
  | nil => exact absurd rfl hne
  | @cons ts r pieces rs hpart hparts ih =>
    obtain ⟨fuel, rfl⟩ := Nat.exists_eq_add_one_of_ne_zero (Nat.ne_of_gt (Nat.lt_of_lt_of_le
      (Nat.zero_lt_succ _) hfuel))
    cases hparts with
    | nil => exact chain_last (hpart rest hrest) hend
    | cons hnext hmore =>
      rw [separated_cons_cons, List.append_assoc, List.append_assoc]
      exact chain_more (hpart _ (hjoint _))
        (ih (List.cons_ne_nil _ _) (Nat.le_of_succ_le_succ hfuel))

end Chain

theorem junction_parts {how : Connective} {part : Tokens → Option (Reading × Tokens)}
    {Before : Tokens → Prop} (hjoint : ∀ more, Before (.word how.label :: more))
    {pieces : List Tokens} {rs : List Reading} {rest : Tokens} (hrest : Before rest)
    (hend : behind how.label rest = none)
    (h : List.Forall₂ (fun ts r => ∀ rest, Before rest → part (ts ++ rest) = some (r, rest))
      pieces rs)
    (hne : pieces ≠ []) :
    junction how part (separated [.word how.label] pieces ++ rest) =
      some (joined how rs, rest) := by
  have hlength := length_le_separated (.word how.label : Token Value) pieces
  have hfuel : pieces.length ≤ (separated [.word how.label] pieces ++ rest).length + 1 := by
    rw [List.length_append]
    omega
  rw [junction, chain_parts hjoint hrest hend h hne hfuel, Option.map_some]

theorem junction_one {how : Connective} {part : Tokens → Option (Reading × Tokens)} {ts : Tokens}
    {r : Reading} {rest : Tokens} (h : part (ts ++ rest) = some (r, rest))
    (hend : behind how.label rest = none) :
    junction how part (ts ++ rest) = some (r, rest) := by
  rw [junction, chain_last h hend]
  rfl

theorem condition_parts {how : Connective} {part : Tokens → Option (Reading × Tokens)}
    {pieces : List Tokens} {rs : List Reading} {rest : Tokens} (hend : Ends rest)
    (h : List.Forall₂ (fun ts r => ∀ rest, part (ts ++ rest) = some (r, rest)) pieces rs)
    (hne : pieces ≠ []) :
    condition part (separated [.word how.label] pieces ++ rest) = some (joined how rs, rest) := by
  cases how with
  | all =>
    have hparts := h.imp fun ts r hpart rest (_ : True) => hpart rest
    exact junction_one (junction_parts (fun _ => trivial) trivial (hend _) hparts hne) (hend _)
  | any =>
    -- a part of an "or" is read as a chain of "and" with one part, in front of anything but "and"
    have hparts := h.imp fun ts r hpart rest (hrest : behind Connective.all.label rest = none) =>
      junction_one (hpart rest) hrest
    exact junction_parts (fun _ => rfl) (hend _) (hend _) hparts hne

end Reader
end TableQuery.Sqlite
