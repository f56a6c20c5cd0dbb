import TableQuery.Proofs.Sqlite.Statement

/-!
# Connections are let go of

A connection that was made is closed at the end, whichever calls are refused on the way and even if
the last one is. What a store is asked is looked at before that, so a step that cannot be carried
out leaves the database alone, and no step leaves anything behind for the next one.
-/
namespace TableQuery.Sqlite

open Value

/-- The calls of some actions if none of them is refused. -/
def performed : List Action → List Event
  | [] => []
  | .stop _ :: _ => []
  | .perform e :: rest => e :: performed rest

/-- A call that neither opens nor ends a connection, nor makes anything on it last. -/
def Event.Passing (e : Event) : Prop := e.call ∉ [.connect, .commit, .rollback, .close]

instance (e : Event) : Decidable e.Passing :=
  inferInstanceAs (Decidable (e.call ∉ [.connect, .commit, .rollback, .close]))

def Refusals.Never (r : Refusals) : Prop := ∀ c n, r.refused c n = false

def busyTimeout : Event := .execute "PRAGMA busy_timeout=5000" none

structure Released (r : Refusals) (path : Value) (session : List Event) : Prop where
  connects : session.head? = some (.connect path) ∧ (session.map Event.call).count .connect = 1
  stops : r.refused .connect 1 = true → session = [.connect path]
  closes : r.refused .connect 1 = false →
    session.getLast? = some .close ∧ (session.map Event.call).count .close = 1
  folds : ∀ before e after, session = before ++ e :: after → e.call = .execute →
    before = [.connect path] ∧ e = busyTimeout ∨ .registerLower ∈ before
  reads : ∀ e ∈ session, e.call ≠ .commit ∧ e.call ≠ .rollback

section Connection

variable {r : Refusals} {path : Value} {body : List Action}

theorem run_single (session : List Event) (e : Event) :
    (run r session [.perform e]).session = session ++ [e] := by
  rw [run]
  split <;> rfl

theorem run_connect (r : Refusals) (path : Value) : run r [] [.perform (.connect path)] =
    ⟨[.connect path],
      if r.refused .connect 1 then some (.refused (.onConnection .connect 1)) else none⟩ := by
  have hfirst : r.refuses [] (.connect path) = r.refused .connect 1 := rfl
  rw [run, hfirst]
  split <;> rfl

theorem run_performed (session : List Event) (actions : List Action) :
    ∃ made, made <+: performed actions ∧ (r.Never → made = performed actions) ∧
      (run r session actions).session = session ++ made := by
  induction actions generalizing session with
  | nil => exact ⟨[], List.nil_prefix, fun _ => rfl, (List.append_nil _).symm⟩
  | cons action rest ih =>
    cases action with
    | stop f => exact ⟨[], List.nil_prefix, fun _ => rfl, (List.append_nil _).symm⟩
    | perform e =>
      rw [run, performed]
      by_cases hrefused : r.refuses session e = true
      · rw [if_pos hrefused]
        refine ⟨[e], by simp, fun hnever => ?_, rfl⟩
        exact absurd hrefused (by simp [Refusals.refuses, hnever _ _])
      · rw [if_neg hrefused]
        obtain ⟨made, hmade, hall, hrun⟩ := ih (session ++ [e])
        refine ⟨e :: made, List.cons_prefix_cons.mpr ⟨rfl, hmade⟩, fun hnever => ?_, ?_⟩
        · rw [hall hnever]
        · rw [hrun, List.append_assoc, List.singleton_append]

theorem performed_preparation (body : List Action) :
    performed (preparation ++ body) = busyTimeout :: .cursorClose :: .registerLower ::
      performed body := rfl

theorem withConnection_session (r : Refusals) (path : Value) (body : List Action) :
    r.refused .connect 1 = true ∧
      (withConnection r path false body).session = [.connect path] ∨
    r.refused .connect 1 = false ∧ ∃ made, made <+: performed (preparation ++ body) ∧
      (r.Never → made = performed (preparation ++ body)) ∧
      (withConnection r path false body).session = .connect path :: (made ++ [.close]) := by
  rw [withConnection, run_connect]
  cases hconnect : r.refused .connect 1 with
  | true => exact .inl ⟨rfl, rfl⟩
  | false =>
    obtain ⟨made, hmade, hall, hrun⟩ := run_performed (r := r) [.connect path] (preparation ++ body)
    have hused : (inside r false ⟨[.connect path], none⟩ body).session = .connect path :: made := by
      simp [inside, hrun]
    refine .inr ⟨rfl, made, hmade, hall, ?_⟩
    change (run r (inside r false ⟨_, none⟩ body).session [.perform .close]).session = _
    rw [run_single, hused, List.cons_append]

/-- The first statement on a connection is the one that prepares it; nothing else is executed before
texts are folded. -/
theorem folds_of_prefix {before after : List Event} {e : Event}
    (h : before ++ e :: after <+: performed (preparation ++ body)) (he : e.call = .execute) :
    before = [] ∧ e = busyTimeout ∨ .registerLower ∈ before := by
  rw [performed_preparation] at h
  match before with
  | [] =>
    obtain ⟨rfl, _⟩ := List.cons_prefix_cons.mp h
    exact .inl ⟨rfl, rfl⟩
  | [_] =>
    obtain ⟨_, h⟩ := List.cons_prefix_cons.mp h
    obtain ⟨rfl, _⟩ := List.cons_prefix_cons.mp h
    cases he
  | [_, _] =>
    obtain ⟨_, h⟩ := List.cons_prefix_cons.mp h
    obtain ⟨_, h⟩ := List.cons_prefix_cons.mp h
    obtain ⟨rfl, _⟩ := List.cons_prefix_cons.mp h
    cases he
  | _ :: _ :: third :: _ =>
    obtain ⟨_, h⟩ := List.cons_prefix_cons.mp h
    obtain ⟨_, h⟩ := List.cons_prefix_cons.mp h
    obtain ⟨rfl, _⟩ := List.cons_prefix_cons.mp h
    exact .inr (by simp)

theorem folds_of_session {made tail : List Event} (hmade : made <+: performed (preparation ++ body))
    (htail : ∀ e ∈ tail, e.call ≠ .execute) {before after : List Event} {e : Event}
    (h : .connect path :: (made ++ tail) = before ++ e :: after) (he : e.call = .execute) :
    before = [.connect path] ∧ e = busyTimeout ∨ .registerLower ∈ before := by
  cases before with
  | nil =>
    obtain ⟨rfl, _⟩ := List.cons.inj h
    cases he
  | cons first before =>
    rw [List.cons_append] at h
    obtain ⟨rfl, hparts⟩ := List.cons.inj h
    rcases List.append_eq_append_iff.mp hparts with ⟨more, _, hsplit⟩ | ⟨more, hsplit, hrest⟩
    · have hmem : e ∈ tail := by simp [hsplit]
      exact absurd he (htail e hmem)
    · cases more with
      | nil =>
        rw [List.nil_append] at hrest
        have hmem : e ∈ tail := by simp [← hrest]
        exact absurd he (htail e hmem)
      | cons _ more =>
        obtain ⟨rfl, _⟩ := List.cons.inj hrest
        rw [hsplit] at hmade
        rcases folds_of_prefix hmade he with ⟨rfl, hbusy⟩ | hfolds
        · exact .inl ⟨rfl, hbusy⟩
        · exact .inr (List.mem_cons_of_mem _ hfolds)

theorem passing_of_prefix {made : List Event} (hbody : ∀ e ∈ performed body, e.Passing)
    (hmade : made <+: performed (preparation ++ body)) : ∀ e ∈ made, e.Passing := by
  intro e he
  have hmem := hmade.subset he
  rw [performed_preparation, List.mem_cons, List.mem_cons, List.mem_cons] at hmem
  rcases hmem with rfl | rfl | rfl | hmem
  · decide
  · decide
  · decide
  · exact hbody e hmem

theorem count_of_passing {made : List Event} (hpassing : ∀ e ∈ made, e.Passing) {c : Call}
    (hc : c ∈ [Call.connect, .commit, .rollback, .close]) :
    (made.map Event.call).count c = 0 := by
  rw [List.count_eq_zero, List.mem_map]
  rintro ⟨e, he, rfl⟩
  exact hpassing e he hc

theorem released_of_body (hbody : ∀ e ∈ performed body, e.Passing) :
    Released r path (withConnection r path false body).session := by
  rcases withConnection_session r path body with
    ⟨hrefused, hsession⟩ | ⟨hopened, made, hmade, _, hsession⟩
  · rw [hsession]
    constructor
    · exact ⟨rfl, rfl⟩
    · exact fun _ => rfl
    · intro hopened
      rw [hrefused] at hopened
      cases hopened
    · intro before e after hsplit he
      have hnone : ([] : List Event) <+: performed (preparation ++ body) := List.nil_prefix
      exact folds_of_session hnone (by simp) hsplit he
    · simp [Event.call]
  · have hpassing := passing_of_prefix hbody hmade
    rw [hsession]
    constructor
    · refine ⟨rfl, ?_⟩
      simp [List.count_append, count_of_passing hpassing, Event.call]
    · intro hrefused
      rw [hopened] at hrefused
      cases hrefused
    · intro _
      refine ⟨by rw [← List.cons_append, List.getLast?_concat], ?_⟩
      simp [List.count_append, count_of_passing hpassing, Event.call]
    · intro before e after hsplit he
      exact folds_of_session hmade (by simp [Event.call]) hsplit he
    · intro e he
      rcases List.mem_cons.mp he with rfl | he
      · exact ⟨nofun, nofun⟩
      · rcases List.mem_append.mp he with he | he
        · have hlasting := hpassing e he
          simp only [Event.Passing, List.mem_cons, not_or] at hlasting
          exact ⟨hlasting.2.1, hlasting.2.2.1⟩
        · obtain rfl := List.mem_singleton.mp he
          exact ⟨nofun, nofun⟩

end Connection

namespace Store

inductive Step where
  | find (n : Node) (sort : SortSpec) (page : Option PageWindow)
  | count (n : Node)
  | loadColumns

inductive Answer where
  | rows (found : List Value)
  | number (counted : Value)
  | columns (loaded : Table Category)

structure Turn where
  step : Step
  refusals : Refusals
  rows : List Value

def Reply.map {α β : Type} (f : α → β) (reply : Reply α) : Reply β :=
  ⟨reply.session, reply.result.map f⟩

def replyTo (t : Store) (r : Refusals) (rows : List Value) : Step → Reply Answer
  | .find n sort page => (t.find r rows n sort page).map .rows
  | .count n => (t.count r rows n).map .number
  | .loadColumns => (t.loadColumns r rows).map .columns

def take (t : Store) (turn : Turn) : Store × Reply Answer :=
  (t, t.replyTo turn.refusals turn.rows turn.step)

def takeAll (t : Store) : List Turn → List (Reply Answer)
  | [] => []
  | turn :: rest => (t.take turn).2 :: (t.take turn).1.takeAll rest

/-- Whether the resolver of a store, if it has one, knows the fields of an order. -/
def Knows (t : Store) (sort : SortSpec) : Prop :=
  t.resolver.isAbsent = true ∨ ∀ o ∈ sort, ∃ k, t.resolver.require o.field = .ok k

def Accepts (t : Store) : Step → Prop
  | .find n sort _ =>
    t.Knows sort ∧ (∃ clause, t.clauseOf n = .ok clause) ∧
      ∃ order, orderBy t.layout sort = .ok order
  | .count n => ∃ clause, t.clauseOf n = .ok clause
  | .loadColumns => True

/-- Whether the values that a step binds have texts, for the note of its statement. -/
def Notes (t : Store) : Step → Prop
  | .find n _ page =>
    (∀ clause, t.clauseOf n = .ok clause → ∀ v ∈ clause.bound, HasText v) ∧
      ∃ part skip, limit page = .ok (part, skip) ∧ ∀ v ∈ skip, HasText v
  | .count n => ∀ clause, t.clauseOf n = .ok clause → ∀ v ∈ clause.bound, HasText v
  | .loadColumns => True

variable {t : Store} {table : String}

theorem checkSort_ok {r : Resolver} {sort : SortSpec} : checkSort r sort = .ok () ↔
    r.isAbsent = true ∨ ∀ o ∈ sort, ∃ k, r.require o.field = .ok k := by
  induction sort with
  | nil => simp [checkSort]
  | cons o sort ih =>
    rw [checkSort, List.forall_mem_cons]
    by_cases habsent : r.isAbsent = true
    · simp [habsent]
    · rw [if_neg habsent]
      cases hfield : r.require o.field with
      | error f => simp [habsent]
      | ok k => simpa [habsent] using ih

theorem order_ok {sort : SortSpec} {written : String} :
    t.order sort = .ok written ↔ t.Knows sort ∧ orderBy t.layout sort = .ok written := by
  rw [Knows, ← checkSort_ok]
  constructor
  · intro h
    obtain ⟨_, hsort, hwritten⟩ := Outcome.bind_ok.mp h
    exact ⟨hsort, hwritten⟩
  · rintro ⟨hsort, hwritten⟩
    exact Outcome.bind_ok.mpr ⟨_, hsort, hwritten⟩

theorem countStatement_exists (htable : t.table = .text table) {n : Node} :
    (∃ q, t.countStatement n = .ok q) ↔ t.Accepts (.count n) ∧ t.Notes (.count n) := by
  simp only [countStatement_made htable, Accepts, Notes]
  constructor
  · rintro ⟨q, clause, hclause, rfl, htexts⟩
    refine ⟨⟨clause, hclause⟩, fun d hd => ?_⟩
    obtain rfl := Except.ok.inj (hclause.symm.trans hd)
    exact htexts
  · rintro ⟨⟨clause, hclause⟩, htexts⟩
    exact ⟨_, clause, hclause, rfl, htexts clause hclause⟩

theorem findStatement_exists (htable : t.table = .text table) {n : Node} {sort : SortSpec}
    {page : Option PageWindow} :
    (∃ q, t.findStatement n sort page = .ok q) ↔
      t.Accepts (.find n sort page) ∧ t.Notes (.find n sort page) := by
  simp only [findStatement_made htable, order_ok, Accepts, Notes]
  constructor
  · rintro ⟨q, clause, order, part, skip, hclause, ⟨hknown, horder⟩, hlimit, rfl, htexts⟩
    obtain ⟨hbound, hskip⟩ := List.forall_mem_append.mp htexts
    refine ⟨⟨hknown, ⟨clause, hclause⟩, order, horder⟩, fun d hd => ?_, part, skip, hlimit, hskip⟩
    obtain rfl := Except.ok.inj (hclause.symm.trans hd)
    exact hbound
  · rintro ⟨⟨hknown, ⟨clause, hclause⟩, order, horder⟩, htexts, part, skip, hlimit, hskip⟩
    refine ⟨_, clause, order, part, skip, hclause, ⟨hknown, horder⟩, hlimit, rfl, ?_⟩
    exact List.forall_mem_append.mpr ⟨htexts clause hclause, hskip⟩

structure LetsGo (t : Store) (turn : Turn) (reply : Reply Answer) : Prop where
  fresh : reply = (t.take turn).2
  untouched : ¬ (t.Accepts turn.step ∧ t.Notes turn.step) →
    reply.session = [] ∧ ∃ f, reply.result = .error f
  released : t.Accepts turn.step ∧ t.Notes turn.step →
    Released turn.refusals t.path reply.session

theorem released_take (htable : t.table = .text table) (turn : Turn)
    (h : t.Accepts turn.step ∧ t.Notes turn.step) :
    Released turn.refusals t.path (t.take turn).2.session := by
  obtain ⟨step, r, rows⟩ := turn
  cases step with
  | find n sort page =>
    obtain ⟨q, hq⟩ := (findStatement_exists htable).mpr h
    change Released r t.path (t.find r rows n sort page).session
    rw [session_find hq]
    apply released_of_body
    simp [performed, Event.Passing, Event.call]
  | count n =>
    obtain ⟨q, hq⟩ := (countStatement_exists htable).mpr h
    change Released r t.path (t.count r rows n).session
    rw [session_count hq]
    apply released_of_body
    simp [performed, Event.Passing, Event.call]
  | loadColumns =>
    change Released r t.path (t.loadColumns r rows).session
    rw [loadColumns, session_answer, columnsActions, quotedTable_ok htable]
    apply released_of_body
    simp [performed, Event.Passing, Event.call]

theorem untouched_take (htable : t.table = .text table) (turn : Turn)
    (h : ¬ (t.Accepts turn.step ∧ t.Notes turn.step)) :
    (t.take turn).2.session = [] ∧ ∃ f, (t.take turn).2.result = .error f := by
  obtain ⟨step, r, rows⟩ := turn
  cases step with
  | find n sort page =>
    cases hmade : t.findStatement n sort page with
    | ok q => exact absurd ((findStatement_exists htable).mp ⟨q, hmade⟩) h
    | error f =>
      have hreply : t.find r rows n sort page = ⟨[], .error f⟩ := by rw [find, hmade]
      rw [take, replyTo, hreply]
      exact ⟨rfl, f, rfl⟩
  | count n =>
    cases hmade : t.countStatement n with
    | ok q => exact absurd ((countStatement_exists htable).mp ⟨q, hmade⟩) h
    | error f =>
      have hreply : t.count r rows n = ⟨[], .error f⟩ := by rw [count, hmade]
      rw [take, replyTo, hreply]
      exact ⟨rfl, f, rfl⟩
  | loadColumns => exact absurd ⟨trivial, trivial⟩ h

/-- However many steps a store was asked to carry out, and whichever calls were refused in them, the
next one goes as it would on a store of its own: it leaves the database alone if it cannot be
carried out, and lets go of its connection otherwise. -/
theorem takeAll_letsGo (htable : t.table = .text table) (turns : List Turn) :
    List.Forall₂ t.LetsGo turns (t.takeAll turns) := by
  induction turns with
  | nil => exact .nil
  | cons turn rest ih =>
    refine .cons ?_ ih
    constructor
    · rfl
    · exact untouched_take htable turn
    · exact released_take htable turn

end Store

namespace Example

def unhindered : Refusals := ⟨fun _ _ => false⟩

/-- Neither what was found can be fetched nor the connection closed. -/
def unreadable : Refusals := ⟨fun c _ => c = .fetchAll ∨ c = .close⟩

def unreachable : Refusals := ⟨fun c _ => c = .connect⟩

def findAll (sort : SortSpec) : Store.Step := .find (Node.ofPredicate? none) sort none

/-- A field that is not known, two failures on one connection, no connection at all, and a step that
goes well. -/
def turns : List Store.Turn :=
  [⟨findAll [⟨.text "nobody", true⟩], unhindered, []⟩, ⟨findAll [], unreadable, []⟩,
    ⟨.count (Node.ofPredicate? none), unreachable, []⟩, ⟨.loadColumns, unhindered, []⟩]

/-- A page so far out that the number of rows before it has too many digits for a text. -/
def farFind : Store.Step :=
  .find (Node.ofPredicate? none) [] (some ⟨.int (10 ^ 4000), .int (10 ^ 4000)⟩)

theorem not_hasText_far {d : Nat} (h : greatestDigits ≤ d + d) :
    ¬ HasText (.int (10 ^ d * 10 ^ d)) := by
  rw [hasText_int, Int.natAbs_mul, Int.natAbs_pow, ← pow_add, Nat.not_lt]
  unfold leastUnshown
  generalize greatestDigits = e at h ⊢
  exact Nat.pow_le_pow_right (n := 10) (by decide) h

theorem times_int (m n : Int) : (Value.int m).times (.int n) = .ok (.int (m * n)) := rfl

theorem not_notes_far : ¬ people.Notes farFind := by
  rintro ⟨_, part, skip, hlimit, hskip⟩
  rw [limit, PageWindow.offset, times_int] at hlimit
  obtain ⟨_, rfl⟩ := Prod.mk.inj (Except.ok.inj hlimit)
  obtain ⟨_, hproduct⟩ := List.forall_mem_cons.mp hskip
  exact not_hasText_far (d := 4000) (by decide) (List.forall_mem_singleton.mp hproduct)

end Example

theorem Store.takeAll_letsGo_hindered :
    List.Forall₂ Example.people.LetsGo Example.turns (Example.people.takeAll Example.turns) ∧
    (Example.people.takeAll Example.turns).map (fun reply => reply.session.map Event.call) =
      [[], [.connect, .execute, .cursorClose, .createFunction, .rowFactory, .execute, .fetchAll,
        .close], [.connect],
        [.connect, .execute, .cursorClose, .createFunction, .execute, .fetchAll, .close]] := by
  have htable : Example.people.table = .text "people" := rfl
  have hunknown : (Example.people.take ⟨Example.findAll [⟨.text "nobody", true⟩],
      Example.unhindered, []⟩).2.session.map Event.call = [] := by cbv
  exact ⟨takeAll_letsGo htable Example.turns, congrArg₂ List.cons hunknown rfl⟩

/-- A step that is accepted does not connect if what it binds has no text. -/
theorem Store.far_not_released :
    Example.people.Accepts Example.farFind ∧
    ¬ Released Example.unhindered Example.people.path
      (Example.people.take ⟨Example.farFind, Example.unhindered, []⟩).2.session := by
  constructor
  · exact ⟨.inr (by simp), ⟨.constant true, rfl⟩, "", rfl⟩
  · intro hreleased
    have hstopped : ¬ (Example.people.Accepts Example.farFind ∧
        Example.people.Notes Example.farFind) := fun h => Example.not_notes_far h.2
    have htable : Example.people.table = .text "people" := rfl
    obtain ⟨hnone, _⟩ :=
      untouched_take htable ⟨Example.farFind, Example.unhindered, []⟩ hstopped
    rw [hnone] at hreleased
    cases hreleased.connects.1

end TableQuery.Sqlite
