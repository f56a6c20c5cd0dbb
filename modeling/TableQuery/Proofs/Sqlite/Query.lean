import TableQuery.Proofs.Sqlite.Release

/-!
# Queries, read back

What a store executes is one statement, and that is read back as a whole: what is wanted of which
table, under which condition, in which order and on which page. Finding and counting differ in what
is wanted, and counting has neither order nor page; the condition is the same text with the same
values.
-/
namespace TableQuery.Sqlite

open Value

inductive Wanted where
  | rows
  | number

def Wanted.text : Wanted → String
  | rows => "SELECT * FROM "
  | number => "SELECT COUNT(*) FROM "

def Wanted.tokens : Wanted → Tokens
  | rows => [.word "SELECT", .star, .word "FROM"]
  | number => [.word "SELECT", .word "COUNT", .opening, .star, .closing, .word "FROM"]

/-- A key of an order, and whether it ascends. -/
abbrev Key := ColumnRef × Bool

def Key.tokens (key : Key) : Tokens :=
  key.1.tokens ++ [.word (if key.2 then "ASC" else "DESC")]

/-- A key whose table, if it has one, needs no quotation. -/
def Key.Plain (key : Key) : Prop := ∀ t ∈ key.1.table, isBare t = true

structure Key.Names (l : Layout) (o : SortOrder) (key : Key) : Prop where
  field : l.reference o.field = .ok key.1
  direction : key.2 = o.ascending

/-- A statement taken apart. A page is its size and the rows before it. -/
structure Query where
  wanted : Wanted
  table : String
  condition : Reading
  order : List Key
  page : Option (Value × Value)

namespace Query

def orderTokens : List Key → Tokens
  | [] => []
  | keys => [.word "ORDER", .word "BY"] ++ separated [.comma] (keys.map Key.tokens)

def pageTokens : Option (Value × Value) → Tokens
  | none => []
  | some (size, skip) => [.word "LIMIT", .mark size, .word "OFFSET", .mark skip]

def tokens (q : Query) (condition : Tokens) : Tokens :=
  q.wanted.tokens ++ (.name q.table :: .word "WHERE" ::
    (condition ++ (orderTokens q.order ++ pageTokens q.page)))

def pageValues (q : Query) : List Value := q.page.elim [] fun (size, skip) => [size, skip]

end Query

namespace Reader

def wanted : Tokens → Option (Wanted × Tokens)
  | .word "SELECT" :: .star :: .word "FROM" :: rest => some (.rows, rest)
  | .word "SELECT" :: .word "COUNT" :: .opening :: .star :: .closing :: .word "FROM" :: rest =>
    some (.number, rest)
  | _ => none

def source : Tokens → Option (String × Tokens)
  | .name table :: .word "WHERE" :: rest => some (table, rest)
  | _ => none

def direction : Tokens → Option (Bool × Tokens)
  | .word "ASC" :: rest => some (true, rest)
  | .word "DESC" :: rest => some (false, rest)
  | _ => none

def key (ts : Tokens) : Option (Key × Tokens) :=
  (ref ts).bind fun (r, rest) =>
    (direction rest).map fun (ascending, rest) => ((r, ascending), rest)

def keys : Nat → Tokens → Option (List Key × Tokens)
  | 0, _ => none
  | fuel + 1, ts =>
    (key ts).bind fun (k, rest) =>
      match rest with
      | .comma :: more => (keys fuel more).map fun (ks, rest) => (k :: ks, rest)
      | rest => some ([k], rest)

def order : Tokens → Option (List Key × Tokens)
  | .word "ORDER" :: .word "BY" :: rest => keys (rest.length + 1) rest
  | ts => some ([], ts)

def page : Tokens → Option (Option (Value × Value) × Tokens)
  | .word "LIMIT" :: .mark size :: .word "OFFSET" :: .mark skip :: rest =>
    some (some (size, skip), rest)
  | ts => some (none, ts)

/-- The parts of a statement one after the other; nothing may be left over. -/
def query (ts : Tokens) : Option Query := do
  let (w, rest) ← wanted ts
  let (table, rest) ← source rest
  let (asked, rest) ← condition (part (ts.length + 1)) rest
  let (keys, rest) ← order rest
  let (window, rest) ← page rest
  if rest.isEmpty then some ⟨w, table, asked, keys, window⟩ else none

end Reader

def Query.read (s : Statement) : Option Query := do
  let shapes ← Sqlite.tokens s.sql.toList
  let ts ← Token.supply shapes s.params
  Reader.query ts

section Order

variable {keys : List Key} {rest : Tokens}

theorem tokens_direction (ascending : Bool) :
    tokens (if ascending then " ASC" else " DESC").toList =
        some [.word (if ascending then "ASC" else "DESC")] ∧
      (if ascending then " ASC" else " DESC").toList.head?.any Mode.isBreak = true := by
  cases ascending with
  | true =>
    rw [if_pos rfl, if_pos rfl]
    exact ⟨rfl, rfl⟩
  | false =>
    rw [if_neg Bool.false_ne_true, if_neg Bool.false_ne_true]
    exact ⟨rfl, rfl⟩

theorem tokens_key {key : Key} (h : key.Plain) :
    tokens (key.1.chars ++ (if key.2 then " ASC" else " DESC").toList) =
      some (key.tokens.map Token.shape) := by
  obtain ⟨hdirection, hbreak⟩ := tokens_direction key.2
  rw [Key.tokens, List.map_append]
  exact tokens_append (tokens_ref h) hbreak hdirection

theorem key_tokens {key : Key} (h : key.Plain) (rest : Tokens) :
    Reader.key (key.tokens ++ rest) = some (key, rest) := by
  obtain ⟨r, ascending⟩ := key
  rw [Reader.key, Key.tokens, List.append_assoc, ref_tokens h]
  cases ascending <;> rfl

theorem keys_tokens {fuel : Nat} (hne : keys ≠ []) (hfuel : keys.length ≤ fuel)
    (hplain : ∀ key ∈ keys, key.Plain)
    (hrest : ∀ more, rest ≠ .comma :: more) :
    Reader.keys fuel (separated [.comma] (keys.map Key.tokens) ++ rest) = some (keys, rest) := by
  induction keys generalizing fuel with
  | nil => exact absurd rfl hne
  | cons key keys ih =>
    obtain ⟨hkey, hkeys⟩ := List.forall_mem_cons.mp hplain
    obtain ⟨fuel, rfl⟩ := Nat.exists_eq_add_one_of_ne_zero (Nat.ne_of_gt (Nat.lt_of_lt_of_le
      (Nat.zero_lt_succ _) hfuel))
    cases keys with
    | nil =>
      have hread := key_tokens hkey rest
      simp only [List.map_cons, List.map_nil, separated, Reader.keys, hread, Option.bind_some]
    | cons next keys =>
      have hmore := ih (List.cons_ne_nil _ _) (Nat.le_of_succ_le_succ hfuel) hkeys
      rw [List.map_cons, List.map_cons, separated_cons_cons, List.append_assoc, List.append_assoc,
        ← List.map_cons]
      simp only [Reader.keys, key_tokens hkey, Option.bind_some, List.singleton_append, hmore,
        Option.map_some]

end Order

section Whole

variable {keys : List Key} {window : Option (Value × Value)}

theorem page_tokens (window : Option (Value × Value)) :
    Reader.page (Query.pageTokens window) = some (window, []) := by
  cases window <;> rfl

theorem order_tokens (hplain : ∀ key ∈ keys, key.Plain) :
    Reader.order (Query.orderTokens keys ++ Query.pageTokens window) =
      some (keys, Query.pageTokens window) := by
  cases keys with
  | nil => cases window <;> rfl
  | cons key keys =>
    have hlength := length_le_separated (.comma : Token Value) ((key :: keys).map Key.tokens)
    have hrest : ∀ more, Query.pageTokens window ≠ .comma :: more := by
      intro more
      cases window <;> simp [Query.pageTokens]
    rw [Query.orderTokens, List.append_assoc, List.cons_append, List.singleton_append, Reader.order]
    · apply keys_tokens (List.cons_ne_nil key keys) _ hplain hrest
      rw [List.length_map] at hlength
      rw [List.length_append]
      omega
    · exact List.cons_ne_nil key keys

theorem behind_condition (how : Connective) (keys : List Key) (window : Option (Value × Value)) :
    Reader.behind how.label (Query.orderTokens keys ++ Query.pageTokens window) = none := by
  cases keys <;> cases window <;> cases how <;> rfl

theorem wanted_tokens (w : Wanted) (rest : Tokens) :
    Reader.wanted (w.tokens ++ rest) = some (w, rest) := by
  cases w <;> rfl

theorem source_tokens (table : String) (rest : Tokens) :
    Reader.source (.name table :: .word "WHERE" :: rest) = some (table, rest) := rfl

theorem query_tokens {q : Query} {ws : Tokens}
    (hcondition : ∀ n rest, ws.length ≤ n →
      Reader.part (n + 1) (ws ++ rest) = some (q.condition, rest))
    (hplain : ∀ key ∈ q.order, key.Plain) :
    Reader.query (q.tokens ws) = some q := by
  have hlength : ws.length ≤ (q.tokens ws).length := by
    simp only [Query.tokens, List.length_append, List.length_cons]
    omega
  rw [Reader.query]
  generalize (q.tokens ws).length = n at hlength ⊢
  have hpart := hcondition n (Query.orderTokens q.order ++ Query.pageTokens q.page) hlength
  have hread := Reader.junction_one
    (Reader.junction_one hpart (behind_condition .all q.order q.page))
    (behind_condition .any q.order q.page)
  simp only [Query.tokens, wanted_tokens, source_tokens, Reader.condition, hread,
    order_tokens hplain, page_tokens, Option.bind_eq_bind, Option.bind_some, List.isEmpty_nil,
    if_true]

end Whole

section Text

def spaced (s : String) : String := if s = "" then "" else " " ++ s

theorem selectSql_eq (table : String) (clause : Clause) (order part : String) :
    Store.selectSql table clause order part =
      Wanted.rows.text ++ table ++ " WHERE " ++ clause.text ++ (spaced order ++ spaced part) := by
  unfold Store.selectSql spaced
  by_cases horder : order = "" <;> by_cases hpart : part = "" <;>
    simp [horder, hpart, Wanted.text, String.append_assoc]

theorem countSql_eq (table : String) (clause : Clause) :
    Store.countSql table clause =
      Wanted.number.text ++ table ++ " WHERE " ++ clause.text ++ (spaced "" ++ spaced "") := by
  have hnothing : spaced "" = "" := if_pos rfl
  rw [hnothing, String.append_empty, String.append_empty]
  rfl

theorem tokens_spaced {cs : List Char} {ts us : List (Token Unit)} {s : String}
    (h : tokens cs = some ts) (hs : tokens s.toList = some us) :
    tokens (cs ++ (spaced s).toList) = some (ts ++ us) := by
  rw [spaced]
  by_cases hempty : s = ""
  · subst hempty
    obtain rfl : us = [] := (Option.some.inj hs).symm
    rw [if_pos rfl]
    simpa using h
  · have hspace : Closed " ".toList [] := rfl
    rw [if_neg hempty, String.toList_append]
    exact tokens_append h rfl (hspace.tokens_append hs)

theorem tokens_statement {q : Query} {w order part : String} {ws : Tokens}
    (hw : tokens w.toList = some (ws.map Token.shape))
    (horder : tokens order.toList = some ((Query.orderTokens q.order).map Token.shape))
    (hpart : tokens part.toList = some ((Query.pageTokens q.page).map Token.shape)) :
    tokens (q.wanted.text ++ quoteIdentifier q.table ++ " WHERE " ++ w ++
      (spaced order ++ spaced part)).toList = some ((q.tokens ws).map Token.shape) := by
  have hwanted : Closed q.wanted.text.toList (q.wanted.tokens.map Token.shape) := by
    cases q.wanted <;> rfl
  have hwhere : Closed " WHERE ".toList [.word "WHERE"] := by rfl
  have htail := tokens_spaced (tokens_spaced hw horder) hpart
  have hrest := hwanted.tokens_append
    (tokens_append (tokens_quotedName q.table) (by rfl) (hwhere.tokens_append htail))
  simpa [quoteIdentifier, Query.tokens, Token.shape, Token.map] using hrest

end Text

section Values

theorem values_order (keys : List Key) :
    (Query.orderTokens keys).filterMap Token.value? = [] := by
  cases keys with
  | nil => rfl
  | cons key keys =>
    have hcomma : Token.value? (.comma : Token Value) = none := rfl
    have hkey : ∀ key : Key, key.tokens.filterMap Token.value? = [] := by
      intro key
      rw [Key.tokens, List.filterMap_append, values_ref]
      rfl
    rw [Query.orderTokens, List.filterMap_append, filterMap_separated _ hcomma]
    · simp [hkey, List.flatMap_map, Token.value?]
    · exact List.cons_ne_nil key keys

theorem values_tokens (q : Query) (ws : Tokens) :
    (q.tokens ws).filterMap Token.value? = ws.filterMap Token.value? ++ q.pageValues := by
  have hwanted : q.wanted.tokens.filterMap Token.value? = [] := by cases q.wanted <;> rfl
  have hpage : (Query.pageTokens q.page).filterMap Token.value? = q.pageValues := by
    unfold Query.pageValues
    cases q.page <;> rfl
  rw [Query.tokens, List.filterMap_append, hwanted, List.nil_append, List.filterMap_cons_none rfl,
    List.filterMap_cons_none rfl, List.filterMap_append, List.filterMap_append, values_order, hpage,
    List.nil_append]

end Values

structure Query.Bounds (w : PageWindow) (bounds : Value × Value) : Prop where
  size : bounds.1 = w.size
  skip : w.index.times w.size = .ok bounds.2

structure Query.Follows (q : Query) (l : Layout) (sort : SortSpec) (page : Option PageWindow) :
    Prop where
  order : List.Forall₂ (Key.Names l) sort q.order
  page : Option.Rel Bounds page q.page

structure Statement.Writes (s : Statement) (q : Query) (c : Clause) (order part : String) :
    Prop where
  text : s.sql = q.wanted.text ++ quoteIdentifier q.table ++ " WHERE " ++ c.text ++
    (spaced order ++ spaced part)
  spelled : ∃ ws, tokens c.text.toList = some (ws.map Token.shape) ∧
    tokens s.sql.toList = some ((q.tokens ws).map Token.shape)
  read : Query.read s = some q
  params : s.params = c.bound ++ q.pageValues
  marks : ∃ ts, tokens s.sql.toList = some ts ∧ ts.count (.mark ()) = s.params.length

theorem writes_of_parts {s : Statement} {q : Query} {c : Clause} {order part : String}
    (hc : c.Plain) (hcondition : q.condition = c.reading)
    (hplain : ∀ key ∈ q.order, key.Plain)
    (horder : tokens order.toList = some ((Query.orderTokens q.order).map Token.shape))
    (hpart : tokens part.toList = some ((Query.pageTokens q.page).map Token.shape))
    (htext : s.sql = q.wanted.text ++ quoteIdentifier q.table ++ " WHERE " ++ c.text ++
      (spaced order ++ spaced part))
    (hparams : s.params = c.bound ++ q.pageValues) : s.Writes q c order part := by
  obtain ⟨ws, hspelled, hbound, hparsed⟩ := hc.says
  have hclause : tokens c.text.toList = some (ws.map Token.shape) := by
    rw [Clause.text, String.toList_ofList, hspelled]
  have hsql := tokens_statement hclause horder hpart
  rw [← htext] at hsql
  have hvalues : (q.tokens ws).filterMap Token.value? = s.params := by
    rw [values_tokens, hbound, hparams]
  constructor
  · exact htext
  · exact ⟨ws, hclause, hsql⟩
  · have hquery := query_tokens (hcondition ▸ hparsed) hplain
    rw [Query.read, hsql, ← hvalues]
    simp only [Option.bind_eq_bind, Option.bind_some, Token.supply_shape, hquery]
  · exact hparams
  · exact ⟨_, hsql, by rw [count_mark, hvalues]⟩

section Parts

variable {l : Layout}

theorem orderKey_ok (hl : l.HasBareTable) {o : SortOrder} {cs : List Char}
    (h : orderKey l o = .ok cs) : ∃ key, Key.Names l o key ∧ key.Plain ∧
      tokens cs = some (key.tokens.map Token.shape) := by
  obtain ⟨r, hr, rfl⟩ := Outcome.map_ok.mp h
  have hplain : Key.Plain (r, o.ascending) := (reference_ok hl hr).2
  exact ⟨(r, o.ascending), ⟨hr, rfl⟩, hplain, tokens_key hplain⟩

theorem orderBy_keys (hl : l.HasBareTable) {sort : SortSpec} {order : String}
    (h : orderBy l sort = .ok order) :
    ∃ keys : List Key, List.Forall₂ (Key.Names l) sort keys ∧ (∀ key ∈ keys, key.Plain) ∧
      tokens order.toList = some ((Query.orderTokens keys).map Token.shape) := by
  cases sort with
  | nil =>
    obtain rfl := Except.ok.inj h
    exact ⟨[], .nil, by simp, rfl⟩
  | cons o sort =>
    obtain ⟨pieces, hpieces, rfl⟩ := Outcome.map_ok.mp h
    obtain ⟨keys, hkeys, hwritten⟩ := Outcome.forall₂_comp
      ((Outcome.mapM_ok.mp hpieces).imp fun o cs hcs => orderKey_ok hl hcs)
    refine ⟨keys, hkeys, fun key hkey => ?_, ?_⟩
    · obtain ⟨_, _, hplain, _⟩ := Outcome.exists_of_forall₂ hwritten key hkey
      exact hplain
    · have hopen : Closed "ORDER BY ".toList [.word "ORDER", .word "BY"] := by rfl
      have hcomma : Closed ", ".toList [.comma] := by rfl
      have hspelled : List.Forall₂ (fun cs ts => tokens cs = some ts) pieces
          (keys.map fun key => key.tokens.map Token.shape) := by
        rw [List.forall₂_map_right_iff]
        exact hwritten.flip.imp fun _ _ hkey => hkey.2
      have hne : keys ≠ [] := by
        rintro rfl
        cases hkeys
      rw [String.toList_ofList, Query.orderTokens, List.map_append, map_separated, List.map_map]
      · exact hopen.tokens_append (tokens_separated hcomma (by rfl) hspelled)
      · exact hne

theorem limit_window {page : Option PageWindow} {part : String} {skip : List Value}
    (h : limit page = .ok (part, skip)) :
    ∃ window : Option (Value × Value), Option.Rel Query.Bounds page window ∧
      tokens part.toList = some ((Query.pageTokens window).map Token.shape) ∧
      skip = window.elim [] fun (size, rows) => [size, rows] := by
  cases page with
  | none =>
    obtain ⟨rfl, rfl⟩ := Prod.mk.inj (Except.ok.inj h)
    exact ⟨none, .none, rfl, rfl⟩
  | some w =>
    obtain ⟨rows, hrows, hfound⟩ := Outcome.map_ok.mp h
    obtain ⟨rfl, rfl⟩ := Prod.mk.inj hfound
    exact ⟨some (w.size, rows), .some ⟨rfl, hrows⟩, by rfl, rfl⟩

end Parts

def queries (session : List Event) : List Statement :=
  session.filterMap fun
    | .execute sql (some params) => some ⟨sql, params⟩
    | _ => none

/-- Sessions that execute one statement and no other: not if a call before it is refused, and not if
what it binds cannot be noted, but otherwise they do. -/
structure Runs (q : Statement) (session : Refusals → List Event) : Prop where
  only : ∀ r, queries (session r) <+: [q]
  all : (∀ v ∈ q.params, HasText v) → ∀ r : Refusals, r.Never → queries (session r) = [q]

theorem runs_of_body {q : Statement} {path : Value} {body : List Action}
    (hbody : queries (performed body) = [q]) :
    Runs q fun r => (withConnection r path false body).session := by
  have hperformed : queries (performed (preparation ++ body)) = [q] := hbody
  have hends : ∀ made, queries (.connect path :: (made ++ [.close])) = queries made := by
    intro made
    simp [queries]
  constructor
  · intro r
    rcases withConnection_session r path body with ⟨_, h⟩ | ⟨_, made, hmade, _, h⟩
    · rw [h]
      exact List.nil_prefix
    · rw [h, hends, ← hperformed]
      exact hmade.filterMap _
  · intro _ r hnever
    rcases withConnection_session r path body with ⟨hrefused, _⟩ | ⟨_, made, _, hall, h⟩
    · rw [hnever] at hrefused
      cases hrefused
    · rw [h, hends, hall hnever, hperformed]

theorem runs_of_made {q : Statement} (made : Except Fault Statement) {path : Value}
    {body : List Action} {session : Refusals → List Event}
    (hmade : ∀ made', made = .ok made' ↔ made' = q ∧ ∀ v ∈ made'.params, HasText v)
    (hok : made = .ok q → ∀ r, session r = (withConnection r path false body).session)
    (herror : ∀ f, made = .error f → ∀ r, session r = [])
    (hbody : queries (performed body) = [q]) : Runs q session := by
  by_cases htexts : ∀ v ∈ q.params, HasText v
  · have hsession := hok ((hmade q).mpr ⟨rfl, htexts⟩)
    rw [funext hsession]
    exact runs_of_body hbody
  · cases made with
    | ok made' =>
      obtain ⟨rfl, h⟩ := (hmade made').mp rfl
      exact absurd h htexts
    | error f =>
      have hsession := herror f rfl
      constructor
      · intro r
        rw [hsession]
        exact List.nil_prefix
      · exact fun h => absurd h htexts

namespace Store

variable {t : Store} {table : String} {n : Node} {sort : SortSpec} {page : Option PageWindow}
  {clause : Clause} {order part : String} {skip : List Value}

theorem plain_of_clauseOf (hl : t.layout.HasBareTable) (h : t.clauseOf n = .ok clause) :
    clause.Plain := by
  unfold clauseOf at h
  split at h
  · next c hc =>
    obtain rfl := Except.ok.inj h
    unfold convert at hc
    split at hc
    · obtain rfl := Except.ok.inj hc
      exact .constant true
    · split at hc
      · cases hc
      · exact plain_of_lower hl hc
  · cases h

theorem runs_find (htable : t.table = .text table) (hclause : t.clauseOf n = .ok clause)
    (horder : t.order sort = .ok order) (hlimit : limit page = .ok (part, skip))
    (rows : List Value) :
    Runs ⟨selectSql (quoteIdentifier table) clause order part, clause.bound ++ skip⟩
      fun r => (t.find r rows n sort page).session := by
  refine runs_of_made (t.findStatement n sort page) (fun made => ?_)
    (fun hmade r => session_find hmade) (fun f hf r => ?_) rfl
  · rw [findStatement_made htable]
    constructor
    · rintro ⟨c, written, p, s, hc, hwritten, hp, rfl, htexts⟩
      obtain rfl := Except.ok.inj (hclause.symm.trans hc)
      obtain rfl := Except.ok.inj (horder.symm.trans hwritten)
      obtain ⟨rfl, rfl⟩ := Prod.mk.inj (Except.ok.inj (hlimit.symm.trans hp))
      exact ⟨rfl, htexts⟩
    · rintro ⟨rfl, htexts⟩
      exact ⟨clause, order, part, skip, hclause, horder, hlimit, rfl, htexts⟩
  · rw [find, hf]

theorem runs_count (htable : t.table = .text table) (hclause : t.clauseOf n = .ok clause)
    (rows : List Value) :
    Runs ⟨countSql (quoteIdentifier table) clause, clause.bound⟩
      fun r => (t.count r rows n).session := by
  refine runs_of_made (t.countStatement n) (fun made => ?_)
    (fun hmade r => session_count hmade) (fun f hf r => ?_) rfl
  · rw [countStatement_made htable]
    constructor
    · rintro ⟨c, hc, rfl, htexts⟩
      obtain rfl := Except.ok.inj (hclause.symm.trans hc)
      exact ⟨rfl, htexts⟩
    · rintro ⟨rfl, htexts⟩
      exact ⟨clause, hclause, rfl, htexts⟩
  · rw [count, hf]

/-- A store that finds rows executes what its plan stands for, and nothing else. Counting the rows
of the same condition executes the same text behind another head, without order and page, and binds
the same values up to those of the page. -/
theorem find_matches_count (hl : t.layout.HasBareTable) (htable : t.table = .text table)
    (hclause : t.clauseOf n = .ok clause) (horder : t.order sort = .ok order)
    (hlimit : limit page = .ok (part, skip)) :
    ∃ (found counted : Statement) (asked : Query),
      asked.Follows t.layout sort page ∧
      asked.table = table ∧ asked.wanted = .rows ∧ asked.condition = clause.reading ∧
      found.Writes asked clause order part ∧
      counted.Writes { asked with wanted := .number, order := [], page := none } clause "" "" ∧
      found.params = counted.params ++ asked.pageValues ∧
      ∀ rows, Runs found (fun r => (t.find r rows n sort page).session) ∧
        Runs counted fun r => (t.count r rows n).session := by
  have hc := plain_of_clauseOf hl hclause
  obtain ⟨_, _, hwritten⟩ := Outcome.bind_ok.mp horder
  obtain ⟨keys, hkeys, hplain, hspelled⟩ := orderBy_keys hl hwritten
  obtain ⟨window, hwindow, hpart, hskip⟩ := limit_window hlimit
  refine ⟨⟨selectSql (quoteIdentifier table) clause order part, clause.bound ++ skip⟩,
    ⟨countSql (quoteIdentifier table) clause, clause.bound⟩,
    ⟨.rows, table, clause.reading, keys, window⟩, ⟨hkeys, hwindow⟩, rfl, rfl, rfl, ?_, ?_, ?_, ?_⟩
  · apply writes_of_parts hc rfl hplain hspelled hpart (selectSql_eq _ _ _ _)
    rw [hskip]
    rfl
  · apply writes_of_parts hc rfl
    · simp
    · rfl
    · rfl
    · exact countSql_eq _ _
    · simp [Query.pageValues]
  · rw [hskip]
    rfl
  · intro rows
    exact ⟨runs_find htable hclause horder hlimit rows, runs_count htable hclause rows⟩

end Store

namespace Example

/-- A table whose name looks like the end of a statement. -/
def crowd : Store := { people with table := .text "people\" WHERE 1=1 --" }

def crowdPredicate : Predicate :=
  .junction .all [.atom ⟨.text "na\"me?", .like, [.text "%?%"], true⟩, leaf "born" .ne [.null]]

def crowdClause : Clause :=
  .junction .all [.like ⟨.path none "o?" "na\"me?", true⟩ false (.text "%?%"),
    .isNull ⟨.column none "born", false⟩ true]

def crowdSort : SortSpec := [⟨.text "na\"me?", false⟩, ⟨.text "born", true⟩]

def crowdPage : PageWindow := ⟨.int 2, .int 20⟩

end Example

theorem Store.find_matches_count_crowd :
    Example.crowd.layout.HasBareTable ∧
    Example.crowd.clauseOf (Node.ofPredicate? (some Example.crowdPredicate)) =
      .ok Example.crowdClause ∧
    limit (some Example.crowdPage) = .ok ("LIMIT ? OFFSET ?", [.int 20, .int 40]) ∧
    ∃ order, Example.crowd.order Example.crowdSort = .ok order ∧
    ∃ (found counted : Statement) (asked : Query),
      asked.Follows Example.crowd.layout Example.crowdSort (some Example.crowdPage) ∧
      asked.table = "people\" WHERE 1=1 --" ∧
      found.Writes asked Example.crowdClause order "LIMIT ? OFFSET ?" ∧
      counted.Writes { asked with wanted := .number, order := [], page := none }
        Example.crowdClause "" "" := by
  have hl : Example.crowd.layout.HasBareTable := .inl rfl
  have hclause : Example.crowd.clauseOf (Node.ofPredicate? (some Example.crowdPredicate)) =
      .ok Example.crowdClause := by cbv
  have hlimit : limit (some Example.crowdPage) =
      .ok ("LIMIT ? OFFSET ?", [.int 20, .int 40]) := rfl
  have hsorted : Store.checkSort Example.crowd.resolver Example.crowdSort = .ok () := by cbv
  have hnamed : Example.crowd.layout.Named := ⟨⟨none, rfl⟩, fun _ => ⟨"o?", rfl⟩⟩
  have hfields : ∀ o ∈ Example.crowdSort, ∃ name, o.field = .text name := by
    simp [Example.crowdSort]
  obtain ⟨order, hwritten⟩ := orderBy_text hnamed hfields
  have horder : Example.crowd.order Example.crowdSort = .ok order :=
    Outcome.bind_ok.mpr ⟨(), hsorted, hwritten⟩
  obtain ⟨found, counted, asked, hfollows, htable, _, _, hfound, hcounted, _⟩ :=
    Store.find_matches_count hl rfl hclause horder hlimit
  exact ⟨hl, hclause, hlimit, order, horder, found, counted, asked, hfollows, htable, hfound,
    hcounted⟩

end TableQuery.Sqlite
