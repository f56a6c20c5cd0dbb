import TableQuery.Proofs.Sqlite.Release

/-!
# What lasts and what does not

A connection is prepared, used, made to last or undone, and closed, in this order. Each of these is
an attempt, which ends with the first call that is refused or where the body stops by itself, and
only what went wrong last is seen from outside: the fault names the last call that was refused. A
session is told once more in parts, each with the trouble it had.
-/
namespace TableQuery.Sqlite

inductive Trouble where
  | refused (c : Call) (n : Nat)
  | stopped (f : Fault)

def Trouble.fault : Trouble → Fault
  | refused c n => .refused (.onConnection c n)
  | stopped f => f

def Refusals.trouble (r : Refusals) (session : List Event) (e : Event) : Option Trouble :=
  if r.refuses session e then some (.refused e.call (e.place session)) else none

/-- The trouble with the last of some calls that is refused, if one is. -/
def Refusals.lastRefused (r : Refusals) (session : List Event) : List Event → Option Trouble
  | [] => none
  | e :: rest => (r.lastRefused (session ++ [e]) rest).or (r.trouble session e)

structure Part where
  made : List Event
  trouble : Option Trouble

namespace Part

def idle : Part := ⟨[], none⟩

/-- One part after another; trouble with the later one takes the place of trouble before. -/
def andThen (p q : Part) : Part := ⟨p.made ++ q.made, q.trouble.or p.trouble⟩

def outcome (session : List Event) (p : Part) : Outcome :=
  ⟨session ++ p.made, p.trouble.map Trouble.fault⟩

end Part

def attempt (r : Refusals) (session : List Event) : List Action → Part
  | [] => .idle
  | .stop f :: _ => ⟨[], some (.stopped f)⟩
  | .perform e :: rest =>
    match r.trouble session e with
    | some t => ⟨[e], some t⟩
    | none => ⟨e :: (attempt r (session ++ [e]) rest).made,
        (attempt r (session ++ [e]) rest).trouble⟩

def proceed (r : Refusals) (session : List Event) (p : Part) (actions : List Action) : Part :=
  if p.trouble.isNone then attempt r (session ++ p.made) actions else .idle

section Attempt

variable {r : Refusals} {session made : List Event} {actions body : List Action} {e : Event}

theorem trouble_eq_none : r.trouble session e = none ↔ r.refuses session e = false := by
  rw [Refusals.trouble]
  by_cases h : r.refuses session e = true <;> simp [h]

theorem attempt_single (session : List Event) (e : Event) :
    attempt r session [.perform e] = ⟨[e], r.trouble session e⟩ := by
  rw [attempt]
  cases htrouble : r.trouble session e <;> rfl

theorem lastRefused_append (session first second : List Event) :
    r.lastRefused session (first ++ second) =
      (r.lastRefused (session ++ first) second).or (r.lastRefused session first) := by
  induction first generalizing session with
  | nil => simp [Refusals.lastRefused]
  | cons e rest ih =>
    rw [List.cons_append, Refusals.lastRefused, Refusals.lastRefused, ih, Option.or_assoc,
      List.append_assoc, List.singleton_append]

/-- An attempt ends with the call that is refused, or with none where it stops by itself. -/
theorem trouble_attempt (session : List Event) (actions : List Action) :
    (attempt r session actions).trouble =
        r.lastRefused session (attempt r session actions).made ∨
      r.lastRefused session (attempt r session actions).made = none ∧ ∃ f, .stop f ∈ actions := by
  induction actions generalizing session with
  | nil => exact .inl rfl
  | cons action rest ih =>
    cases action with
    | stop f => exact .inr ⟨rfl, f, List.mem_cons_self⟩
    | perform e =>
      rw [attempt]
      cases htrouble : r.trouble session e with
      | some t => simp [Refusals.lastRefused, htrouble]
      | none =>
        simp only [Refusals.lastRefused, htrouble, Option.or_none]
        rcases ih (session ++ [e]) with hends | ⟨hcalls, f, hf⟩
        · exact .inl hends
        · exact .inr ⟨hcalls, f, List.mem_cons_of_mem _ hf⟩

theorem trouble_of_calls (hactions : ∀ f, .stop f ∉ actions) :
    (attempt r session actions).trouble =
      r.lastRefused session (attempt r session actions).made := by
  rcases trouble_attempt session actions with hends | ⟨_, f, hf⟩
  · exact hends
  · exact absurd hf (hactions f)

theorem proceed_of_none {p : Part} (h : p.trouble = none) (actions : List Action) :
    proceed r session p actions = attempt r (session ++ p.made) actions := by
  rw [proceed, h]
  rfl

theorem proceed_of_some {p : Part} {t : Trouble} (h : p.trouble = some t)
    (actions : List Action) : proceed r session p actions = .idle := by
  rw [proceed, h]
  rfl

theorem trouble_proceed {p : Part} (hactions : ∀ f, .stop f ∉ actions) :
    (proceed r session p actions).trouble =
      r.lastRefused (session ++ p.made) (proceed r session p actions).made := by
  cases htrouble : p.trouble with
  | some t =>
    rw [proceed_of_some htrouble]
    rfl
  | none =>
    rw [proceed_of_none htrouble]
    exact trouble_of_calls hactions

/-- The trouble with a part is the last call refused in it, and without one its own. -/
def Part.Tells (p : Part) (r : Refusals) (session : List Event) (own : Option Trouble) : Prop :=
  p.trouble = (r.lastRefused session p.made).or own

theorem Part.Tells.andThen {p q : Part} {own : Option Trouble} (hp : p.Tells r session own)
    (hq : q.trouble = r.lastRefused (session ++ p.made) q.made) :
    (p.andThen q).Tells r session own := by
  rw [Tells, Part.andThen, lastRefused_append, Option.or_assoc, hq, hp]

theorem run_eq_attempt (session : List Event) (actions : List Action) :
    run r session actions = (attempt r session actions).outcome session := by
  induction actions generalizing session with
  | nil => simp [run, attempt, Part.outcome, Part.idle]
  | cons action rest ih =>
    cases action with
    | stop f => simp [run, attempt, Part.outcome, Trouble.fault]
    | perform e =>
      rw [run, attempt, Refusals.trouble]
      by_cases hrefused : r.refuses session e = true
      · rw [if_pos hrefused, if_pos hrefused]
        rfl
      · rw [if_neg hrefused, if_neg hrefused, ih]
        simp [Part.outcome]

theorem thenRun_eq_attempt (session : List Event) (p : Part) (actions : List Action) :
    thenRun r (p.outcome session) actions =
      (p.andThen (attempt r (session ++ p.made) actions)).outcome session := by
  rw [thenRun, run_eq_attempt]
  simp only [Part.outcome, Part.andThen, List.append_assoc, Outcome.mk.injEq, true_and]
  cases (attempt r (session ++ p.made) actions).trouble <;> rfl

/-- Actions in a row are attempted one after the other, the later ones if there is no trouble with
the earlier. -/
theorem attempt_append (session : List Event) (first second : List Action) :
    attempt r session (first ++ second) = (attempt r session first).andThen
      (proceed r session (attempt r session first) second) := by
  induction first generalizing session with
  | nil => simp [attempt, Part.andThen, proceed, Part.idle]
  | cons action rest ih =>
    cases action with
    | stop f => simp [attempt, Part.andThen, proceed, Part.idle]
    | perform e =>
      rw [List.cons_append, attempt, attempt]
      cases htrouble : r.trouble session e with
      | some t => simp [Part.andThen, proceed, Part.idle]
      | none => simp [ih, Part.andThen, proceed]

theorem made_attempt (session : List Event) (actions : List Action) :
    (attempt r session actions).made <+: performed actions := by
  induction actions generalizing session with
  | nil => exact List.nil_prefix
  | cons action rest ih =>
    cases action with
    | stop f => exact List.nil_prefix
    | perform e =>
      rw [attempt, performed]
      cases r.trouble session e with
      | some t => exact List.cons_prefix_cons.mpr ⟨rfl, List.nil_prefix⟩
      | none => exact List.cons_prefix_cons.mpr ⟨rfl, ih _⟩

theorem made_of_untroubled (h : (attempt r session actions).trouble = none) :
    (attempt r session actions).made = performed actions := by
  induction actions generalizing session with
  | nil => rfl
  | cons action rest ih =>
    cases action with
    | stop f => cases h
    | perform e =>
      rw [attempt] at h ⊢
      cases htrouble : r.trouble session e with
      | some t =>
        rw [htrouble] at h
        cases h
      | none =>
        rw [htrouble] at h
        rw [performed, ← ih h]

theorem untroubled {whole : List Event}
    (hcalls : ∀ before e after, whole = before ++ e :: after → r.refuses before e = false)
    (hactions : ∀ f, .stop f ∉ actions)
    (hpart : session ++ (attempt r session actions).made <+: whole) :
    (attempt r session actions).trouble = none := by
  induction actions generalizing session with
  | nil => rfl
  | cons action rest ih =>
    cases action with
    | stop f => exact absurd List.mem_cons_self (hactions f)
    | perform e =>
      have hhere : r.trouble session e = none := by
        have hsome : session ++ [e] <+: whole := by
          refine List.IsPrefix.trans ?_ hpart
          rw [attempt]
          cases r.trouble session e with
          | some t => exact List.prefix_refl _
          | none => exact (List.prefix_append_right_inj _).mpr (by simp)
        obtain ⟨after, hafter⟩ := hsome
        apply trouble_eq_none.mpr
        apply hcalls session e after
        rw [← hafter, List.append_assoc, List.singleton_append]
      rw [attempt, hhere] at hpart ⊢
      apply ih
      · intro f hf
        exact hactions f (List.mem_cons_of_mem _ hf)
      · rwa [List.append_assoc, List.singleton_append]

theorem proceed_untroubled {p : Part} {whole : List Event}
    (hcalls : ∀ before e after, whole = before ++ e :: after → r.refuses before e = false)
    (hactions : ∀ f, .stop f ∉ actions)
    (hpart : session ++ (p.made ++ (proceed r session p actions).made) <+: whole) :
    (proceed r session p actions).trouble = none := by
  cases htrouble : p.trouble with
  | some t =>
    rw [proceed_of_some htrouble]
    rfl
  | none =>
    rw [proceed_of_none htrouble] at hpart ⊢
    apply untroubled hcalls hactions
    rwa [List.append_assoc]

end Attempt

structure Body where
  actions : List Action
  passing : ∀ e ∈ performed actions, e.Passing

structure Account where
  setup : Part
  used : Part
  committing : Part
  undoing : Part
  closing : Part

namespace Account

/-- Everything that decides whether changes last. -/
def work (a : Account) : Part := (a.setup.andThen a.used).andThen a.committing

def whole (a : Account) : Part := (a.work.andThen a.undoing).andThen a.closing

def seen (a : Account) : Option Trouble :=
  a.closing.trouble.or (a.undoing.trouble.or a.work.trouble)

/-- The order of the parts. A connection is used if there was no trouble with its setup. A writer
commits if there was none with that either, and undoes what it did if there was any so far. -/
structure Follows (a : Account) (r : Refusals) (path : Value) (writer : Bool)
    (body : List Action) : Prop where
  setup : a.setup = attempt r [.connect path] preparation
  used : a.used = proceed r [.connect path] a.setup body
  committing : a.committing =
    if writer then proceed r [.connect path] (a.setup.andThen a.used) [.perform .commit] else .idle
  undoing : a.undoing = if writer && a.work.trouble.isSome then
    attempt r (.connect path :: a.work.made) [.perform .rollback] else .idle
  closing : a.closing =
    attempt r (.connect path :: (a.work.andThen a.undoing).made) [.perform .close]

structure Disciplined (a : Account) (r : Refusals) (writer : Bool) (body : List Action)
    (session : List Event) : Prop where
  prepares : a.used.made ≠ [] → a.setup = ⟨[busyTimeout, .cursorClose, .registerLower], none⟩
  commits : .commit ∈ session ↔ writer = true ∧ a.setup.trouble = none ∧ a.used.trouble = none
  rollsBack : .rollback ∈ session ↔ writer = true ∧
    (a.setup.trouble ≠ none ∨ a.used.trouble ≠ none ∨ a.committing.trouble ≠ none)
  lasts : ∀ before after, session = before ++ .commit :: after →
    r.refuses before .commit = false → .rollback ∉ session
  closes : session.getLast? = some .close ∧ (session.map Event.call).count .close = 1
  tells : a.seen = (r.lastRefused [] session).or a.used.trouble
  quiet : (∀ before e after, session = before ++ e :: after → r.refuses before e = false) →
    (∀ f, .stop f ∉ body) → a.seen = none

variable {a : Account} {r : Refusals} {path : Value} {writer : Bool} {body : List Action}

theorem Follows.attempt_work (h : a.Follows r path writer body) :
    attempt r [.connect path]
      (preparation ++ body ++ (if writer then [.perform .commit] else [])) = a.work := by
  rw [attempt_append, attempt_append, ← h.setup, ← h.used, work, h.committing]
  cases writer with
  | true => rfl
  | false =>
    rw [if_neg Bool.false_ne_true, if_neg Bool.false_ne_true, proceed, attempt, ite_self]

/-- The parts in their order are what using a connection comes to. -/
theorem Follows.withConnection_eq (h : a.Follows r path writer body)
    (hconnect : r.refused .connect 1 = false) :
    withConnection r path writer body = a.whole.outcome [.connect path] := by
  have hinside : inside r writer ⟨[.connect path], none⟩ body =
      (a.work.andThen a.undoing).outcome [.connect path] := by
    rw [inside, run_eq_attempt, h.attempt_work, h.undoing, Bool.and_comm]
    have hfault : (a.work.outcome [.connect path]).fault.isSome = a.work.trouble.isSome :=
      Option.isSome_map
    rw [hfault]
    by_cases hundo : (writer && a.work.trouble.isSome) = true
    · rw [if_pos hundo, if_pos hundo, thenRun_eq_attempt]
      rfl
    · rw [if_neg hundo, if_neg hundo]
      simp [Part.andThen, Part.idle]
  have hopened : run r [] [.perform (.connect path)] = ⟨[.connect path], none⟩ := by
    rw [run_connect, hconnect]
    rfl
  rw [withConnection, hopened, hinside, thenRun_eq_attempt, whole, h.closing]
  rfl

theorem Follows.made_setup (h : a.Follows r path writer body) :
    a.setup.made <+: [busyTimeout, .cursorClose, .registerLower] := by
  rw [h.setup]
  exact made_attempt [.connect path] preparation

theorem Follows.made_used (h : a.Follows r path writer body) :
    a.used.made <+: performed body := by
  rw [h.used]
  cases htrouble : a.setup.trouble with
  | some t =>
    rw [proceed_of_some htrouble]
    exact List.nil_prefix
  | none =>
    rw [proceed_of_none htrouble]
    exact made_attempt _ body

/-- Nothing but a body and what precedes it is in a session before it is decided what lasts. -/
theorem Follows.passing (h : a.Follows r path writer body)
    (hbody : ∀ e ∈ performed body, e.Passing) : ∀ e ∈ a.setup.made ++ a.used.made, e.Passing := by
  rw [List.forall_mem_append]
  constructor
  · intro e he
    have hmem := h.made_setup.subset he
    revert hmem
    simp only [List.mem_cons, List.not_mem_nil, or_false]
    rintro (rfl | rfl | rfl) <;> decide
  · intro e he
    exact hbody e (h.made_used.subset he)

theorem Follows.committing_eq (h : a.Follows r path writer body) :
    a.committing = if writer = true ∧ a.setup.trouble = none ∧ a.used.trouble = none then
      ⟨[.commit], r.trouble (.connect path :: (a.setup.made ++ a.used.made)) .commit⟩ else .idle := by
  have huntroubled : (a.setup.andThen a.used).trouble.isNone = true ↔
      a.setup.trouble = none ∧ a.used.trouble = none := by
    rw [Option.isNone_iff_eq_none, Part.andThen, Option.or_eq_none_iff, and_comm]
  rw [h.committing]
  cases writer with
  | false => simp
  | true =>
    rw [if_pos rfl, proceed, attempt_single]
    simp only [huntroubled, true_and]
    rfl

theorem work_trouble (a : Account) : a.work.trouble ≠ none ↔
    a.setup.trouble ≠ none ∨ a.used.trouble ≠ none ∨ a.committing.trouble ≠ none := by
  rw [work, Part.andThen, Part.andThen, Ne, Option.or_eq_none_iff, Option.or_eq_none_iff]
  tauto

theorem Follows.undoing_eq (h : a.Follows r path writer body) :
    a.undoing = if writer = true ∧ a.work.trouble ≠ none then
      ⟨[.rollback], r.trouble (.connect path :: a.work.made) .rollback⟩ else .idle := by
  have hdue : (writer && a.work.trouble.isSome) = true ↔
      writer = true ∧ a.work.trouble ≠ none := by
    rw [Bool.and_eq_true, Option.isSome_iff_ne_none]
  rw [h.undoing, attempt_single]
  simp only [hdue]

theorem Follows.made_closing (h : a.Follows r path writer body) : a.closing.made = [.close] := by
  rw [h.closing, attempt_single]

theorem Follows.made_whole (h : a.Follows r path writer body) :
    a.whole.made = a.setup.made ++ a.used.made ++ (a.committing.made ++ a.undoing.made) ++
      [.close] := by
  rw [← h.made_closing, whole, work]
  simp only [Part.andThen, List.append_assoc]

theorem Follows.mem_session (h : a.Follows r path writer body)
    (hbody : ∀ e ∈ performed body, e.Passing) {e : Event} (he : e = .commit ∨ e = .rollback) :
    e ∈ .connect path :: a.whole.made ↔ e ∈ a.committing.made ∨ e ∈ a.undoing.made := by
  have hbefore : e ∉ a.setup.made ++ a.used.made := by
    intro hmem
    have hpassing := h.passing hbody e hmem
    rcases he with rfl | rfl <;> exact absurd hpassing (by decide)
  have hends : e ≠ .connect path ∧ e ≠ .close := by
    rcases he with rfl | rfl <;> exact ⟨nofun, nofun⟩
  rw [h.made_whole, List.mem_cons, or_iff_right hends.1, List.mem_append, List.mem_singleton,
    or_iff_left hends.2, List.mem_append, or_iff_right hbefore, List.mem_append]

theorem Follows.mem_commit (h : a.Follows r path writer body)
    (hbody : ∀ e ∈ performed body, e.Passing) :
    .commit ∈ .connect path :: a.whole.made ↔
      writer = true ∧ a.setup.trouble = none ∧ a.used.trouble = none := by
  have hundo : .commit ∉ a.undoing.made := by
    rw [h.undoing_eq]
    split <;> simp [Part.idle]
  rw [h.mem_session hbody (.inl rfl), or_iff_left hundo, h.committing_eq]
  split
  · next hdue => simp [hdue]
  · next hdue => simp [hdue, Part.idle]

theorem Follows.mem_rollback (h : a.Follows r path writer body)
    (hbody : ∀ e ∈ performed body, e.Passing) :
    .rollback ∈ .connect path :: a.whole.made ↔ writer = true ∧ a.work.trouble ≠ none := by
  have hcommit : .rollback ∉ a.committing.made := by
    rw [h.committing_eq]
    split <;> simp [Part.idle]
  rw [h.mem_session hbody (.inr rfl), or_iff_right hcommit, h.undoing_eq]
  split
  · next hdue => simp [hdue]
  · next hdue => simp [hdue, Part.idle]

theorem Follows.count_le (h : a.Follows r path writer body)
    (hbody : ∀ e ∈ performed body, e.Passing) :
    ((Event.connect path :: a.whole.made).map Event.call).count .commit ≤ 1 ∧
      ((Event.connect path :: a.whole.made).map Event.call).count .close = 1 := by
  have hbefore : ∀ c ∈ [Call.commit, .close],
      ((Event.connect path :: (a.setup.made ++ a.used.made)).map Event.call).count c = 0 := by
    intro c hc
    have hne : Call.connect ≠ c := by
      rintro rfl
      exact absurd hc (by decide)
    rw [List.map_cons, Event.call, List.count_cons_of_ne hne]
    apply count_of_passing (h.passing hbody)
    revert hc
    simp only [List.mem_cons, List.not_mem_nil, or_false]
    tauto
  have hending : ((a.committing.made ++ a.undoing.made ++ [Event.close]).map Event.call).count
        .commit ≤ 1 ∧
      ((a.committing.made ++ a.undoing.made ++ [Event.close]).map Event.call).count .close = 1 := by
    rw [h.committing_eq, h.undoing_eq]
    split <;> split <;> simp [Part.idle, Event.call]
  have hsplit : Event.connect path :: a.whole.made =
      (.connect path :: (a.setup.made ++ a.used.made)) ++
        (a.committing.made ++ a.undoing.made ++ [.close]) := by
    rw [h.made_whole, List.cons_append, List.append_assoc]
  rw [hsplit, List.map_append, List.count_append, List.count_append, hbefore .commit (by simp),
    hbefore .close (by simp), Nat.zero_add, Nat.zero_add]
  exact hending

theorem refuses_commit {before : List Event} (h : (before.map Event.call).count .commit = 0) :
    r.refuses before .commit = r.refused .commit 1 := by
  rw [Refusals.refuses, Event.place, Event.call, h]

/-- A rollback after a commit comes from the commit, which was refused. -/
theorem Follows.lasts (h : a.Follows r path writer body)
    (hbody : ∀ e ∈ performed body, e.Passing) {before after : List Event}
    (hsession : .connect path :: a.whole.made = before ++ .commit :: after)
    (hmade : r.refuses before .commit = false) :
    .rollback ∉ .connect path :: a.whole.made := by
  intro hrollback
  have hissued : .commit ∈ .connect path :: a.whole.made := by simp [hsession]
  have hdue := (h.mem_commit hbody).mp hissued
  obtain ⟨_, htrouble⟩ := (h.mem_rollback hbody).mp hrollback
  have hrefused : a.committing.trouble ≠ none := by
    rw [work_trouble] at htrouble
    tauto
  rw [h.committing_eq, if_pos hdue] at hrefused
  apply hrefused
  -- the commit that was issued and the one of the session are both the first of their kind
  rw [trouble_eq_none, refuses_commit, ← refuses_commit, hmade]
  · have hcount := (h.count_le hbody).1
    rw [hsession, List.map_append, List.map_cons, List.count_append, Event.call,
      List.count_cons_self] at hcount
    omega
  · rw [List.map_cons, List.count_cons, count_of_passing (h.passing hbody) (by simp)]
    rfl

/-- A body is used only after a setup without trouble, so there is never trouble with both. -/
theorem Follows.used_tells (h : a.Follows r path writer body) :
    (a.setup.andThen a.used).Tells r [.connect path] a.used.trouble := by
  have hsetup : a.setup.trouble = r.lastRefused [.connect path] a.setup.made := by
    rw [h.setup]
    exact trouble_of_calls (by simp [preparation])
  rw [Part.Tells, Part.andThen, lastRefused_append, ← hsetup]
  cases htrouble : a.setup.trouble with
  | some t =>
    have hidle : a.used = .idle := h.used.trans (proceed_of_some htrouble body)
    rw [hidle]
    rfl
  | none =>
    have hused := h.used.trans (proceed_of_none htrouble body)
    rw [Option.or_none, Option.or_none, hused]
    -- either a call of the body was refused, or none was and only its own trouble is left
    rcases trouble_attempt ([.connect path] ++ a.setup.made) body (r := r) with hends | ⟨hcalls, _⟩
    · rw [← hends, Option.or_self]
    · rw [hcalls, Option.none_or]

theorem Follows.tells (h : a.Follows r path writer body)
    (hconnect : r.refused .connect 1 = false) :
    a.seen = (r.lastRefused [] (.connect path :: a.whole.made)).or a.used.trouble := by
  have hopened : r.trouble [] (.connect path) = none := trouble_eq_none.mpr hconnect
  have hcommit : ∀ f, .stop f ∉ [Action.perform .commit] := by simp
  have hrollback : ∀ f, .stop f ∉ [Action.perform .rollback] := by simp
  have hclose : ∀ f, .stop f ∉ [Action.perform .close] := by simp
  have hcommitting : a.committing.trouble =
      r.lastRefused ([.connect path] ++ (a.setup.andThen a.used).made) a.committing.made := by
    rw [h.committing]
    split
    · exact trouble_proceed hcommit
    · rfl
  have hundoing : a.undoing.trouble =
      r.lastRefused ([.connect path] ++ a.work.made) a.undoing.made := by
    rw [h.undoing]
    split
    · exact trouble_of_calls hrollback
    · rfl
  have hclosing : a.closing.trouble =
      r.lastRefused ([.connect path] ++ (a.work.andThen a.undoing).made) a.closing.made := by
    rw [h.closing]
    exact trouble_of_calls hclose
  rw [Refusals.lastRefused, hopened, Option.or_none]
  exact ((h.used_tells.andThen hcommitting).andThen hundoing).andThen hclosing

theorem Follows.quiet (h : a.Follows r path writer body)
    (hcalls : ∀ before e after, .connect path :: a.whole.made = before ++ e :: after →
      r.refuses before e = false)
    (hbody : ∀ f, .stop f ∉ body) : a.seen = none := by
  have hsetup : a.setup.trouble = none := by
    rw [h.setup]
    apply untroubled hcalls (by simp [preparation])
    rw [← h.setup]
    simp [whole, work, Part.andThen]
  have hused : a.used.trouble = none := by
    rw [h.used]
    apply proceed_untroubled hcalls hbody
    rw [← h.used]
    simp [whole, work, Part.andThen]
  have hcommitting : a.committing.trouble = none := by
    have hcommitting := h.committing
    cases writer with
    | false =>
      rw [hcommitting]
      rfl
    | true =>
      rw [if_pos rfl] at hcommitting
      rw [hcommitting]
      apply proceed_untroubled hcalls (by simp)
      rw [← hcommitting]
      simp [whole, work, Part.andThen]
  have hwork : a.work.trouble = none := by
    by_contra htrouble
    rcases (work_trouble a).mp htrouble with hbad | hbad | hbad
    · exact hbad hsetup
    · exact hbad hused
    · exact hbad hcommitting
  have hundoing : a.undoing.trouble = none := by
    rw [h.undoing_eq, if_neg (fun hdue => hdue.2 hwork)]
    rfl
  have hclosing : a.closing.trouble = none := by
    rw [h.closing]
    apply untroubled hcalls (by simp)
    rw [← h.closing]
    simp [whole, Part.andThen]
  rw [seen, hclosing, hundoing, hwork]
  rfl

theorem Follows.prepares (h : a.Follows r path writer body) (hused : a.used.made ≠ []) :
    a.setup = ⟨[busyTimeout, .cursorClose, .registerLower], none⟩ := by
  have htrouble : a.setup.trouble = none := by
    by_contra htrouble
    obtain ⟨t, ht⟩ := Option.ne_none_iff_exists'.mp htrouble
    rw [h.used, proceed_of_some ht] at hused
    exact hused rfl
  have hmade : a.setup.made = performed preparation := by
    rw [h.setup] at htrouble ⊢
    exact made_of_untroubled htrouble
  calc a.setup = ⟨a.setup.made, a.setup.trouble⟩ := rfl
    _ = ⟨[busyTimeout, .cursorClose, .registerLower], none⟩ := by rw [hmade, htrouble]; rfl

theorem Follows.disciplined (h : a.Follows r path writer body)
    (hbody : ∀ e ∈ performed body, e.Passing) (hconnect : r.refused .connect 1 = false) :
    a.Disciplined r writer body (.connect path :: a.whole.made) := by
  constructor
  · exact h.prepares
  · exact h.mem_commit hbody
  · rw [← work_trouble]
    exact h.mem_rollback hbody
  · intro before after hsession hmade
    exact h.lasts hbody hsession hmade
  · refine ⟨?_, (h.count_le hbody).2⟩
    rw [h.made_whole, ← List.cons_append, List.getLast?_concat]
  · exact h.tells hconnect
  · exact h.quiet

theorem exists_follows (r : Refusals) (path : Value) (writer : Bool) (body : List Action) :
    ∃ a : Account, a.Follows r path writer body := by
  obtain ⟨setup, hsetup⟩ : ∃ p, p = attempt r [.connect path] preparation := ⟨_, rfl⟩
  obtain ⟨used, hused⟩ : ∃ p, p = proceed r [.connect path] setup body := ⟨_, rfl⟩
  obtain ⟨committing, hcommitting⟩ : ∃ p, p = if writer then
    proceed r [.connect path] (setup.andThen used) [.perform .commit] else .idle := ⟨_, rfl⟩
  obtain ⟨work, hwork⟩ : ∃ p, p = (setup.andThen used).andThen committing := ⟨_, rfl⟩
  obtain ⟨undoing, hundoing⟩ : ∃ p, p = if writer && work.trouble.isSome then
    attempt r (.connect path :: work.made) [.perform .rollback] else .idle := ⟨_, rfl⟩
  obtain ⟨closing, hclosing⟩ : ∃ p, p =
    attempt r (.connect path :: (work.andThen undoing).made) [.perform .close] := ⟨_, rfl⟩
  subst hwork
  exact ⟨⟨setup, used, committing, undoing, closing⟩,
    ⟨hsetup, hused, hcommitting, hundoing, hclosing⟩⟩

end Account

theorem performed_statements (items : List (Option String)) :
    ∀ e ∈ performed (statements items), e.call = .execute := by
  induction items with
  | nil => nofun
  | cons item rest ih =>
    cases item with
    | none => nofun
    | some sql =>
      intro e he
      rcases List.mem_cons.mp he with rfl | he
      · rfl
      · exact ih e he

def Body.ofStatements (items : List (Option String)) : Body where
  actions := statements items
  passing e he := by
    rw [Event.Passing, performed_statements items e he]
    decide

/-- Whichever calls are refused, on a connection that is made or not: without it nothing else is
called, and with it the session has its parts in their order, a commit is there just if all before
it went well, a rollback just if something did not, and whoever used the connection sees the last
call that was refused, or else where the body stopped. -/
theorem withConnection_disciplined (r : Refusals) (path : Value) (writer : Bool) (body : Body) :
    r.refused .connect 1 = true ∧
      withConnection r path writer body.actions =
        ⟨[.connect path], some (.refused (.onConnection .connect 1))⟩ ∨
    r.refused .connect 1 = false ∧ ∃ a : Account, a.Follows r path writer body.actions ∧
      withConnection r path writer body.actions =
        ⟨.connect path :: a.whole.made, a.seen.map Trouble.fault⟩ ∧
      a.Disciplined r writer body.actions (.connect path :: a.whole.made) := by
  cases hconnect : r.refused .connect 1 with
  | true =>
    rw [withConnection, run_connect, hconnect]
    exact .inl ⟨rfl, rfl⟩
  | false =>
    obtain ⟨a, ha⟩ := Account.exists_follows r path writer body.actions
    exact .inr ⟨rfl, a, ha, ha.withConnection_eq hconnect, ha.disciplined body.passing hconnect⟩

/-- A commit that is refused is undone, and the connection is closed even if that is refused too;
what is seen is the last of these. -/
example : let r : Refusals := ⟨fun c _ => c = .commit ∨ c = .rollback⟩
    let o := withConnection r .null true (Body.ofStatements [some "DELETE FROM people"]).actions
    o.session.map Event.call = [.connect, .execute, .cursorClose, .createFunction, .execute, .commit,
        .rollback, .close] ∧
      o.fault = some (.refused (.onConnection .rollback 1)) :=
  ⟨rfl, rfl⟩

end TableQuery.Sqlite
