import TableQuery.Proofs.Outcome
import TableQuery.Proofs.Predicate.Formula
import TableQuery.Proofs.Sqlite.Reader

/-!
# Clauses spelled and read

The text of a clause and the values it binds give back what the clause asks, whatever the names in
it are: a term is read as itself, a question behind a term as that question, and a junction part by
part, since each part is read in front of anything.
-/
namespace TableQuery.Sqlite

def ColumnRef.table : ColumnRef → Option String
  | column table _ => table
  | path table _ _ => table

def qualifiedTokens (table : Option String) (name : String) : Tokens :=
  match table with
  | none => [.name name]
  | some t => [.word t, .dot, .name name]

def pathTo (field : String) : String := String.ofList ("$.".toList ++ field.toList)

def ColumnRef.tokens : ColumnRef → Tokens
  | column table name => qualifiedTokens table name
  | path table objects field =>
    [.word "json_extract", .opening] ++ (qualifiedTokens table objects ++
      [.comma, .text (pathTo field), .closing])

def Term.tokens (t : Term) : Tokens :=
  if t.folded then [.word "lower", .opening] ++ (t.ref.tokens ++ [.closing]) else t.ref.tokens

def Term.Plain (t : Term) : Prop := ∀ table ∈ t.ref.table, isBare table = true

section Terms

variable {table : Option String} {name : String} {t : Term} {r : ColumnRef}

theorem tokens_qualified (h : ∀ t ∈ table, isBare t = true) :
    tokens (ColumnRef.qualified table name) =
      some ((qualifiedTokens table name).map Token.shape) := by
  cases table with
  | none => exact tokens_quotedName name
  | some t =>
    have hdot : Closed ['.'] [.dot] := rfl
    exact tokens_append (tokens_bare (h t rfl)) rfl
      (hdot.tokens_append (tokens_quotedName name))

theorem column_qualified (h : ∀ t ∈ table, isBare t = true) (rest : Tokens) :
    Reader.column (qualifiedTokens table name ++ rest) = some ((table, name), rest) := by
  cases table with
  | none => rfl
  | some t =>
    have ht : isReserved t = false := by
      have := h t rfl
      simp only [isBare, Bool.and_eq_true, Bool.not_eq_true'] at this
      exact this.2
    simp [qualifiedTokens, Reader.column, ht]

theorem ColumnRef.chars_path {objects field : String} :
    (ColumnRef.path table objects field).chars =
      "json_extract(".toList ++ (ColumnRef.qualified table objects ++
        (", ".toList ++ (quotedText ("$.".toList ++ field.toList) ++ [')']))) := by
  change _ ++ _ ++ _ ++ _ ++ _ = _
  rw [List.append_assoc, List.append_assoc, List.append_assoc]

theorem tokens_ref (h : ∀ t ∈ r.table, isBare t = true) :
    tokens r.chars = some (r.tokens.map Token.shape) := by
  cases r with
  | column table name =>
    have hname : tokens (ColumnRef.qualified table name) = _ := tokens_qualified h
    exact hname
  | path table objects field =>
    have hopen : Closed "json_extract(".toList [.word "json_extract", .opening] := by rfl
    have hcomma : Closed ", ".toList [.comma] := by rfl
    have hclose : tokens [')'] = some [.closing] := rfl
    have hpath := tokens_append (tokens_quotedText ("$.".toList ++ field.toList)) rfl hclose
    have hname : tokens (ColumnRef.qualified table objects) = _ := tokens_qualified h
    rw [ColumnRef.chars_path, ColumnRef.tokens, List.map_append, List.map_append]
    exact hopen.tokens_append (tokens_append hname rfl (hcomma.tokens_append hpath))

theorem tokens_term (h : t.Plain) : tokens t.chars = some (t.tokens.map Token.shape) := by
  have href := tokens_ref h
  rw [Term.chars, Term.tokens]
  split
  · have hopen : Closed "lower(".toList [.word "lower", .opening] := by rfl
    have hclose : tokens [')'] = some [.closing] := rfl
    rw [List.append_assoc, List.map_append, List.map_append]
    exact hopen.tokens_append (tokens_append href rfl hclose)
  · exact href

theorem fieldAt_pathTo (field : String) : Reader.fieldAt (pathTo field) = some field := by
  simp [Reader.fieldAt, pathTo]

theorem ref_tokens (h : ∀ t ∈ r.table, isBare t = true) (rest : Tokens) :
    Reader.ref (r.tokens ++ rest) = some (r, rest) := by
  cases r with
  | column table name =>
    have hname := @column_qualified table name h rest
    cases table with
    | none => rfl
    | some t =>
      simp only [ColumnRef.tokens, qualifiedTokens, List.cons_append, Reader.ref] at hname ⊢
      rw [hname, Option.map_some]
  | path table objects field =>
    have hname := @column_qualified table objects h
    simp [ColumnRef.tokens, Reader.ref, hname, Reader.pathEnd, fieldAt_pathTo]

theorem term_unfolded {ts : Tokens} (h : ∀ rest, ts ≠ .word "lower" :: .opening :: rest) :
    Reader.term ts = (Reader.ref ts).map fun (r, rest) => (⟨r, false⟩, rest) := by
  unfold Reader.term
  split
  · next f rest =>
    have hf : f ≠ "lower" := by
      rintro rfl
      exact h rest rfl
    rw [if_neg hf]
  · rfl

theorem term_tokens (h : t.Plain) (rest : Tokens) :
    Reader.term (t.tokens ++ rest) = some (t, rest) := by
  obtain ⟨r, folded⟩ := t
  have href := ref_tokens h
  cases folded with
  | true => simp [Term.tokens, Reader.term, href, Reader.closing]
  | false =>
    have hne : ∀ more, r.tokens ++ rest ≠ .word "lower" :: .opening :: more := by
      intro more
      cases r with
      | column table name => cases table <;> simp [ColumnRef.tokens, qualifiedTokens]
      | path table objects field => simp [ColumnRef.tokens]
    have hr : Reader.ref (r.tokens ++ rest) = some (r, rest) := href rest
    rw [Term.tokens, if_neg Bool.false_ne_true, term_unfolded hne, hr, Option.map_some]

theorem values_ref (r : ColumnRef) : r.tokens.filterMap Token.value? = [] := by
  cases r with
  | column table name => cases table <;> rfl
  | path table objects field => cases table <;> rfl

/-- A term begins with a name or a word, so that it is no number and no parenthesis. -/
theorem part_term (h : t.Plain) (fuel : Nat) (rest : Tokens) :
    Reader.part (fuel + 1) (t.tokens ++ rest) =
      (Reader.question t rest).map fun (f, rest) => (.atom f, rest) := by
  have hterm := term_tokens h rest
  obtain ⟨r, folded⟩ := t
  have hcomparison : Reader.part (fuel + 1) (Term.tokens ⟨r, folded⟩ ++ rest) =
      ((Reader.term (Term.tokens ⟨r, folded⟩ ++ rest)).bind fun read =>
        Reader.question read.1 read.2).map fun (f, rest) => (.atom f, rest) := by
    cases folded <;> cases r with
    | column table name => cases table <;> rfl
    | path table objects field => rfl
  rw [hcomparison, hterm, Option.bind_some]

end Terms

/-- Characters that are read, with the values for their places, as one part of a condition. -/
structure Says (cs : List Char) (vs : List Value) (r : Reading) (ts : Tokens) : Prop where
  spelled : tokens cs = some (ts.map Token.shape)
  bound : ts.filterMap Token.value? = vs
  parsed : ∀ n rest, ts.length ≤ n → Reader.part (n + 1) (ts ++ rest) = some (r, rest)

theorem says_question {t : Term} (ht : t.Plain) {chars cs : List Char} {vs : List Value} {f : Fact}
    (ts : Tokens) (hchars : chars = t.chars ++ cs)
    (hspelled : tokens cs = some (ts.map Token.shape))
    (hbreak : cs.head?.any Mode.isBreak = true) (hbound : ts.filterMap Token.value? = vs)
    (hparsed : ∀ rest, Reader.question t (ts ++ rest) = some (f, rest)) :
    Says chars vs (.atom f) (t.tokens ++ ts) where
  spelled := by
    rw [hchars, List.map_append]
    exact tokens_append (tokens_term ht) hbreak hspelled
  bound := by
    have hnone : t.tokens.filterMap Token.value? = [] := by
      rw [Term.tokens]
      split <;> simp [values_ref, List.filterMap_cons, Token.value?]
    rw [List.filterMap_append, hnone, List.nil_append, hbound]
  parsed := by
    intro n rest _
    rw [List.append_assoc, part_term ht, hparsed, Option.map_some]

mutual

def Clause.reading : Clause → Reading
  | .constant truth => .atom (.constant truth)
  | .isNull t negated => .atom (.isNull t negated)
  | .compare t o v => .atom (.asks t o.operator [v])
  | .member t values => .atom (.asks t .isIn values)
  | .between t low high => .atom (.asks t .between [low, high])
  | .like t negated pattern => .atom (.asks t (if negated then .notLike else .like) [pattern])
  | .junction how parts => joined how (readings parts)

def Clause.readings : List Clause → List Reading
  | [] => []
  | c :: rest => reading c :: readings rest

end

/-- A clause that can be read: nothing but table names stands unquoted in it, and no junction or
membership is empty. -/
inductive Clause.Plain : Clause → Prop
  | constant (truth) : Plain (.constant truth)
  | isNull {t} (ht : t.Plain) (negated) : Plain (.isNull t negated)
  | compare {t} (ht : t.Plain) (o v) : Plain (.compare t o v)
  | member {t} (ht : t.Plain) {values} (hne : values ≠ []) : Plain (.member t values)
  | between {t} (ht : t.Plain) (low high) : Plain (.between t low high)
  | like {t} (ht : t.Plain) (negated pattern) : Plain (.like t negated pattern)
  | junction (how) {parts} (hne : parts ≠ []) (h : ∀ c ∈ parts, Plain c) :
    Plain (.junction how parts)

namespace Clause

@[simp]
theorem charsAll_eq (cs : List Clause) : charsAll cs = cs.map chars := by
  induction cs with
  | nil => rfl
  | cons c cs ih => rw [charsAll, ih, List.map_cons]

@[simp]
theorem boundAll_eq (cs : List Clause) : boundAll cs = cs.flatMap bound := by
  induction cs with
  | nil => rfl
  | cons c cs ih => rw [boundAll, ih, List.flatMap_cons]

@[simp]
theorem readings_eq (cs : List Clause) : readings cs = cs.map reading := by
  induction cs with
  | nil => rfl
  | cons c cs ih => rw [readings, ih, List.map_cons]

theorem says_constant (truth : Bool) :
    Says (constant truth).chars [] (.atom (.constant truth))
      [.number (if truth then 1 else 0), .sign .eq, .number 1] where
  spelled := by cases truth <;> rfl
  bound := by cases truth <;> rfl
  parsed := by
    intro n rest _
    cases truth <;> rfl

theorem members_values {values : List Value} (hne : values ≠ []) (rest : Tokens) :
    Reader.members (separated [.comma] (values.map fun v => [.mark v]) ++ (.closing :: rest)) =
      some (values, rest) := by
  induction values with
  | nil => exact absurd rfl hne
  | cons v values ih =>
    cases values with
    | nil => rfl
    | cons w values =>
      have hrest := ih (List.cons_ne_nil _ _)
      rw [List.map_cons] at hrest
      rw [List.map_cons, List.map_cons, separated_cons_cons, List.append_assoc, List.append_assoc]
      simp only [List.singleton_append, Reader.members, hrest, Option.map_some]

theorem tokens_marks (values : List Value) :
    tokens (separated [','] (values.map fun _ => ['?'])) =
      some ((separated [.comma] (values.map fun v => [.mark v])).map Token.shape) := by
  have hcomma : Closed [','] [.comma] := rfl
  have hmarks : List.Forall₂ (fun cs ts => tokens cs = some ts) (values.map fun _ => ['?'])
      (values.map fun _ => [.mark ()]) := by
    rw [List.forall₂_map_left_iff, List.forall₂_map_right_iff, List.forall₂_same]
    exact fun _ _ => rfl
  rw [map_separated, List.map_map]
  exact tokens_separated hcomma rfl hmarks

theorem closed_joint (how : Connective) :
    Closed (joint how).toList [.word how.label] := by
  cases how <;> rfl

section Parts

variable {how : Connective} {parts : List Clause} {tss : List Tokens}

theorem parts_bound (h : List.Forall₂ (fun c ts => Says c.chars c.bound c.reading ts) parts tss) :
    tss.flatMap (List.filterMap Token.value?) = parts.flatMap bound := by
  induction h with
  | nil => rfl
  | cons hsays _ ih => rw [List.flatMap_cons, List.flatMap_cons, hsays.bound, ih]

theorem parts_parsed {n : Nat} (hlength : ∀ ts ∈ tss, ts.length ≤ n)
    (h : List.Forall₂ (fun c ts => Says c.chars c.bound c.reading ts) parts tss) :
    List.Forall₂ (fun ts r => ∀ rest, Reader.part (n + 1) (ts ++ rest) = some (r, rest))
      tss (parts.map reading) := by
  induction h with
  | nil => exact .nil
  | cons hsays _ ih =>
    refine .cons (fun rest => hsays.parsed n rest (hlength _ List.mem_cons_self)) (ih ?_)
    exact fun ts hts => hlength ts (List.mem_cons_of_mem _ hts)

theorem says_junction (hne : parts ≠ [])
    (h : List.Forall₂ (fun c ts => Says c.chars c.bound c.reading ts) parts tss) :
    Says (junction how parts).chars (junction how parts).bound (junction how parts).reading
      (.opening :: (separated [.word how.label] tss ++ [.closing])) where
  spelled := by
    have hopen : Closed ['('] [.opening] := rfl
    have hclose : tokens [')'] = some [.closing] := rfl
    have hpieces : List.Forall₂ (fun cs ts => tokens cs = some ts) (parts.map chars)
        (tss.map (List.map Token.shape)) := by
      rw [List.forall₂_map_left_iff, List.forall₂_map_right_iff]
      exact h.imp fun _ _ hsays => hsays.spelled
    have hbreak : (joint how).toList.head?.any Mode.isBreak = true := by cases how <;> rfl
    have hparts := tokens_separated (closed_joint how) hbreak hpieces
    have hchars : (junction how parts).chars =
        ['('] ++ (separated (joint how).toList (parts.map chars) ++ [')']) := by simp [chars]
    rw [hchars, List.map_cons, List.map_append, map_separated]
    exact hopen.tokens_append (tokens_append hparts rfl hclose)
  bound := by
    have hword : Token.value? (.word how.label : Token Value) = none := rfl
    rw [List.filterMap_cons_none rfl, List.filterMap_append, filterMap_separated _ hword,
      parts_bound h]
    simp [bound, Token.value?]
  parsed := by
    intro n rest hn
    obtain ⟨n, rfl⟩ := Nat.exists_eq_add_one_of_ne_zero (Nat.ne_of_gt (Nat.zero_lt_of_lt hn))
    have hlength : ∀ ts ∈ tss, ts.length ≤ n := by
      intro ts hts
      have := length_piece_le (.word how.label) hts
      simp only [List.length_cons, List.length_append, List.length_nil] at hn
      omega
    have hne : tss ≠ [] := by
      rintro rfl
      cases h
      exact hne rfl
    have hparts := @Reader.condition_parts how _ _ _ (.closing :: rest) (Reader.ends_closing rest)
      (parts_parsed hlength h) hne
    rw [List.cons_append, List.append_assoc, Reader.part, List.singleton_append, hparts]
    simp [reading, Reader.closing]

end Parts

theorem tokens_sign (o : Comparator) :
    tokens (' ' :: o.sign.toList ++ " ?".toList) = some [.sign o, .mark ()] := by
  cases o <;> rfl

def memberTokens (values : List Value) : Tokens :=
  [.word "IN", .opening] ++ (separated [.comma] (values.map fun v => [.mark v]) ++ [.closing])

theorem tokens_member (values : List Value) :
    tokens (" IN (".toList ++ (separated [','] (values.map fun _ => ['?']) ++ [')'])) =
      some ((memberTokens values).map Token.shape) := by
  have hopen : Closed " IN (".toList [.word "IN", .opening] := by rfl
  have hclose : tokens [')'] = some [.closing] := rfl
  rw [memberTokens, List.map_append, List.map_append]
  exact hopen.tokens_append (tokens_append (tokens_marks values) rfl hclose)

theorem says_member {t : Term} (ht : t.Plain) {values : List Value} (hne : values ≠ []) :
    Says (member t values).chars values (.atom (.asks t .isIn values))
      (t.tokens ++ memberTokens values) := by
  have hchars : (member t values).chars =
      t.chars ++ (" IN (".toList ++ (separated [','] (values.map fun _ => ['?']) ++ [')'])) := by
    simp [chars]
  have hbound : (memberTokens values).filterMap Token.value? = values := by
    have hcomma : Token.value? (.comma : Token Value) = none := rfl
    rw [memberTokens, List.filterMap_append, List.filterMap_append, filterMap_separated _ hcomma]
    simp [List.flatMap_map, List.filterMap_cons, Token.value?]
  refine says_question ht _ hchars (tokens_member values) (by rfl) hbound fun rest => ?_
  rw [memberTokens, List.append_assoc, List.append_assoc, List.singleton_append]
  simp only [List.cons_append, List.nil_append, Reader.question, members_values hne,
    Option.map_some]

theorem Plain.says {c : Clause} (h : c.Plain) : ∃ ts, Says c.chars c.bound c.reading ts := by
  induction h with
  | constant truth => exact ⟨_, says_constant truth⟩
  | @isNull t ht negated =>
    cases negated with
    | false =>
      exact ⟨_, says_question ht [.word "IS", .word "NULL"] rfl rfl rfl rfl fun _ => rfl⟩
    | true =>
      exact ⟨_, says_question ht [.word "IS", .word "NOT", .word "NULL"] rfl rfl rfl rfl
        fun _ => rfl⟩
  | compare ht o v =>
    exact ⟨_, says_question ht [.sign o, .mark v] (List.append_assoc _ _ _) (tokens_sign o) rfl rfl
      fun _ => rfl⟩
  | member ht hne => exact ⟨_, says_member ht hne⟩
  | between ht low high =>
    exact ⟨_, says_question ht [.word "BETWEEN", .mark low, .word "AND", .mark high] rfl rfl rfl rfl
      fun _ => rfl⟩
  | like ht negated pattern =>
    cases negated with
    | false =>
      exact ⟨_, says_question ht [.word "LIKE", .mark pattern] rfl rfl rfl rfl fun _ => rfl⟩
    | true =>
      exact ⟨_, says_question ht [.word "NOT", .word "LIKE", .mark pattern] rfl rfl rfl rfl
        fun _ => rfl⟩
  | junction how hne _ ih =>
    obtain ⟨tss, htss⟩ := Outcome.forall₂_of_exists ih
    exact ⟨_, says_junction hne htss⟩

theorem Plain.read_text {c : Clause} (h : c.Plain) : read c.text c.bound = some c.reading := by
  obtain ⟨ts, hspelled, hbound, hparsed⟩ := h.says
  have hsupply : Token.supply (ts.map Token.shape) c.bound = some ts := by
    rw [← hbound]
    exact Token.supply_shape ts
  have hpart : Reader.condition (Reader.part (ts.length + 1)) ts = some (c.reading, []) := by
    have := @Reader.condition_parts .all (Reader.part (ts.length + 1)) [ts] [c.reading] []
      Reader.ends_nil (.cons (fun rest => hparsed _ rest (Nat.le_refl _)) .nil)
      (List.cons_ne_nil _ _)
    rwa [List.append_nil] at this
  simp [read, Clause.text, hspelled, hsupply, hpart]

end Clause
end TableQuery.Sqlite
