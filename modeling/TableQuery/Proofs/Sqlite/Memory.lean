import TableQuery.Proofs.Sqlite.Conversion

/-!
# A converter has no memory

The list that a conversion collects its values in is not copied: the converter keeps it, and whoever
asked is handed the same one. Here lists are told apart by their places, and a walk over a node
writes into the list that is held while it goes on. This is what a converter does in one piece, and
since every conversion starts a list of its own, no list is written to after it was handed out.
-/
namespace TableQuery.Sqlite

inductive Ask where
  | convert (n : Node)
  | orderBy (sort : SortSpec)
  | limit (page : Option PageWindow)
  | validate (n : Node)

inductive Answer (α : Type) where
  | clause (text : String) (values : α)
  | order (text : String)
  | page (text : String) (values : α)
  | valid

namespace Answer

variable {α β : Type}

def map (f : α → β) : Answer α → Answer β
  | clause text values => clause text (f values)
  | order text => order text
  | page text values => page text (f values)
  | valid => valid

def values? : Answer α → Option α
  | clause _ values | page _ values => some values
  | order _ | valid => none

end Answer

def Converter.take (c : Converter) : Ask → Converter × Except Fault (Answer (List Value))
  | .convert n =>
    ((c.convert n).1, (c.convert n).2.map fun clause => .clause clause.text clause.bound)
  | .orderBy sort => (c, (Sqlite.orderBy c.layout sort).map .order)
  | .limit page => (c, (Sqlite.limit page).map fun (text, values) => .page text values)
  | .validate n => (c, (c.validate n).map fun _ => .valid)

def Converter.takeAll (c : Converter) : List Ask → Converter
  | [] => c
  | ask :: rest => (c.take ask).1.takeAll rest

theorem Converter.take_of_layout {c d : Converter} (h : c.layout = d.layout) (ask : Ask) :
    (c.take ask).2 = (d.take ask).2 := by
  cases ask with
  | convert n =>
    rw [take, take, convert, convert, h]
  | orderBy sort => rw [take, take, h]
  | limit page => rfl
  | validate n => rw [take, take, validate, validate, h]

/-- A converter that holds the place of a list, and all lists that were ever made. -/
structure Machine where
  layout : Layout
  params : Nat
  lists : List (List Value)

namespace Machine

def ofLayout (l : Layout) : Machine := ⟨l, 0, [[]]⟩

def list (m : Machine) (place : Nat) : List Value := m.lists.getD place []

/-- The converter as it looks from outside, where only the values of its list can be seen. -/
def view (m : Machine) : Converter := ⟨m.layout, m.list m.params⟩

/-- Makes a list, at a place that no other has. -/
def make (m : Machine) (vs : List Value) : Machine × Nat :=
  ({ m with lists := m.lists ++ [vs] }, m.lists.length)

/-- Holds a new list in place of the one before, which is left as it is. -/
def reset (m : Machine) : Machine := { (m.make []).1 with params := (m.make []).2 }

def append (m : Machine) (vs : List Value) : Machine :=
  { m with lists := m.lists.modify m.params (· ++ vs) }

mutual

def write : Node → Machine → Machine × Except Fault Clause
  | .atom a, m =>
    match leafClause m.layout a with
    | .ok c => (m.append c.bound, .ok c)
    | .error f => (m, .error f)
  | .junction how parts, m =>
    match writeAll parts m with
    | (m', .ok cs) => (m', .ok (junctionClause how cs))
    | (m', .error f) => (m', .error f)

def writeAll : List Node → Machine → Machine × Except Fault (List Clause)
  | [], m => (m, .ok [])
  | n :: rest, m =>
    match write n m with
    | (m', .error f) => (m', .error f)
    | (m', .ok c) =>
      match writeAll rest m' with
      | (m'', .ok cs) => (m'', .ok (c :: cs))
      | (m'', .error f) => (m'', .error f)

end

def convert (m : Machine) (n : Node) : Machine × Except Fault (Answer Nat) :=
  if isNothing n then
    ((m.reset.make []).1, .ok (.clause (Clause.constant true).text (m.reset.make []).2))
  else
    match n.check .sqlite m.layout.refused with
    | .error f => (m.reset, .error f)
    | .ok _ =>
      match write n m.reset with
      | (m', .ok c) => (m', .ok (.clause c.text m'.params))
      | (m', .error f) => (m', .error f)

def take (m : Machine) : Ask → Machine × Except Fault (Answer Nat)
  | .convert n => m.convert n
  | .orderBy sort => (m, (Sqlite.orderBy m.layout sort).map .order)
  | .limit page =>
    match Sqlite.limit page with
    | .ok (text, values) => ((m.make values).1, .ok (.page text (m.make values).2))
    | .error f => (m, .error f)
  | .validate n => (m, (n.check .sqlite m.layout.refused).map fun _ => .valid)

def takeAll (m : Machine) : List Ask → Machine
  | [] => m
  | ask :: rest => (m.take ask).1.takeAll rest

def seen : Machine × Except Fault (Answer Nat) → Except Fault (Answer (List Value))
  | (m, out) => out.map (.map m.list)

variable {m m' : Machine} {ask : Ask}

/-- What a walk comes to whose result is known: the values have been written, up to where it
stopped. -/
def written {α : Type} (m : Machine) (bound : α → List Value) :
    Except Stuck α → Machine × Except Fault α
  | .ok a => (m.append (bound a), .ok a)
  | .error s => (m.append s.collected, .error s.fault)

theorem append_nil (m : Machine) : m.append [] = m := by
  have hid : (fun vs : List Value => vs ++ []) = id := funext List.append_nil
  rw [append, hid, List.modify_id]

theorem append_append (m : Machine) (vs ws : List Value) :
    (m.append vs).append ws = m.append (vs ++ ws) := by
  simp [append, List.modify_modify_eq, Function.comp_def]

theorem writeAll_eq {ns : List Node}
    (h : ∀ n ∈ ns, ∀ m, write n m = m.written Clause.bound (lower m.layout n)) (m : Machine) :
    writeAll ns m = m.written (·.flatMap Clause.bound) (lowerAll m.layout ns) := by
  induction ns generalizing m with
  | nil => rw [writeAll, lowerAll, written, List.flatMap_nil, append_nil]
  | cons n ns ih =>
    have hrest := ih fun k hk => h k (List.mem_cons_of_mem _ hk)
    rw [writeAll, lowerAll, h n List.mem_cons_self]
    cases lower m.layout n with
    | error s => rfl
    | ok c =>
      have hc := hrest (m.append c.bound)
      rw [written]
      dsimp only
      rw [hc, show (m.append c.bound).layout = m.layout from rfl]
      cases lowerAll m.layout ns <;> simp [written, append_append]

/-- A walk writes what the lowering of the node binds, and has the result of it. -/
theorem write_eq (n : Node) (m : Machine) :
    write n m = m.written Clause.bound (lower m.layout n) := by
  induction n using Formula.inductionOn generalizing m with
  | atom a =>
    rw [write, lower]
    cases leafClause m.layout a with
    | ok c => rfl
    | error f => rw [written, append_nil]
  | junction how parts ih =>
    rw [write, lower, writeAll_eq ih]
    cases lowerAll m.layout parts with
    | error s => rfl
    | ok cs => simp [written, bound_junctionClause]

/-- A conversion starts a list at a new place, and leaves the values there that it has bound. -/
theorem append_reset (m : Machine) (vs : List Value) :
    m.reset.append vs = ⟨m.layout, m.lists.length, m.lists ++ [vs]⟩ := by
  simp [reset, make, append, List.modify_eq_set_getElem?]

theorem convert_null {n : Node} (hn : isNothing n = true) (m : Machine) :
    m.convert n = (⟨m.layout, m.lists.length, m.lists ++ [[], []]⟩,
      .ok (.clause (Clause.constant true).text (m.lists.length + 1))) := by
  simp [convert, hn, reset, make]

theorem convert_eq {n : Node} (hn : isNothing n = false) (m : Machine) :
    m.convert n = match Sqlite.convert m.layout n with
      | .ok c => (⟨m.layout, m.lists.length, m.lists ++ [c.bound]⟩,
        .ok (.clause c.text m.lists.length))
      | .error s => (⟨m.layout, m.lists.length, m.lists ++ [s.collected]⟩, .error s.fault) := by
  rw [convert, Sqlite.convert, hn, if_neg Bool.false_ne_true, if_neg Bool.false_ne_true]
  cases n.check .sqlite m.layout.refused with
  | error f => simp [← append_reset, append_nil]
  | ok _ =>
    rw [write_eq, show m.reset.layout = m.layout from rfl]
    cases lower m.layout n with
    | error s => simp only [written, append_reset]
    | ok c => simp only [written, append_reset]

/-- What a call does to a machine: the layout and the lists that there were stay as they are, and
the place of the list that is held is another one only after a conversion. -/
structure Keeps (m : Machine) (ask : Ask) (m' : Machine) : Prop where
  layout : m'.layout = m.layout
  lists : m.lists <+: m'.lists
  params : (∀ n, ask ≠ .convert n) → m'.params = m.params
  held : m.params < m.lists.length → m'.params < m'.lists.length

theorem keeps_take (m : Machine) (ask : Ask) : m.Keeps ask (m.take ask).1 := by
  cases ask with
  | convert n =>
    have hnew : ∃ vs rest, (m.convert n).1 = ⟨m.layout, m.lists.length, m.lists ++ vs :: rest⟩ := by
      cases hn : isNothing n with
      | true => exact ⟨[], [[]], by rw [convert_null hn]⟩
      | false =>
        rw [convert_eq hn]
        cases Sqlite.convert m.layout n with
        | error s => exact ⟨s.collected, [], rfl⟩
        | ok c => exact ⟨c.bound, [], rfl⟩
    obtain ⟨vs, rest, hnew⟩ := hnew
    rw [take, hnew]
    exact ⟨rfl, List.prefix_append _ _, fun h => absurd rfl (h n), fun _ => by simp⟩
  | orderBy sort | validate n => exact ⟨rfl, List.prefix_rfl, fun _ => rfl, id⟩
  | limit page =>
    rw [take]
    cases Sqlite.limit page with
    | error f => exact ⟨rfl, List.prefix_rfl, fun _ => rfl, id⟩
    | ok made => exact ⟨rfl, List.prefix_append _ _, fun _ => rfl, fun h => by simp [make]; omega⟩

theorem list_of_prefix (h : m.lists <+: m'.lists) {place : Nat}
    (hplace : place < m.lists.length) : m'.list place = m.list place := by
  obtain ⟨rest, hrest⟩ := h
  rw [list, list, ← hrest, List.getD_append _ _ _ _ hplace]

theorem Keeps.view (h : m.Keeps ask m')
    (hask : ∀ n, ask ≠ .convert n) (hm : m.params < m.lists.length) : m'.view = m.view := by
  rw [Machine.view, Machine.view, h.layout, h.params hask, list_of_prefix h.lists hm]

/-- From outside, a machine is the converter that it is made of. -/
theorem take_view (hm : m.params < m.lists.length) (ask : Ask) :
    ((m.take ask).1.view, seen (m.take ask)) = m.view.take ask := by
  have hkeeps := keeps_take m ask
  cases ask with
  | convert n =>
    rw [take, Converter.take, Converter.convert, show m.view.layout = m.layout from rfl]
    cases hn : isNothing n with
    | true =>
      rw [convert_null hn, Sqlite.convert, if_pos hn]
      simp [view, seen, Except.map, Answer.map, list, Clause.bound]
    | false =>
      rw [convert_eq hn]
      cases Sqlite.convert m.layout n <;> simp [view, seen, Except.map, Answer.map, list]
  | orderBy sort =>
    rw [hkeeps.view (by simp) hm, take, Converter.take, view]
    cases Sqlite.orderBy m.layout sort <;> rfl
  | limit page =>
    rw [hkeeps.view (by simp) hm, take, Converter.take]
    cases Sqlite.limit page with
    | error f => rfl
    | ok made => simp [seen, make, Except.map, Answer.map, list]
  | validate n =>
    rw [hkeeps.view (by simp) hm, take, Converter.take, Converter.validate, view]
    cases n.check .sqlite m.layout.refused <;> rfl

theorem convert_handed {n : Node} {answer : Answer Nat} (h : (m.convert n).2 = .ok answer) :
    ∃ text place, answer = .clause text place ∧ place < (m.convert n).1.lists.length ∧
      (m.convert n).1.list (m.convert n).1.params = (m.convert n).1.list place ∧
      (isNothing n = true → (m.convert n).1.list place = []) := by
  cases hn : isNothing n with
  | true =>
    rw [convert_null hn] at h ⊢
    obtain rfl := Except.ok.inj h
    exact ⟨_, _, rfl, by simp, by simp [list], fun _ => by simp [list]⟩
  | false =>
    rw [convert_eq hn] at h ⊢
    cases hclause : Sqlite.convert m.layout n with
    | error s =>
      rw [hclause] at h
      cases h
    | ok c =>
      rw [hclause] at h
      obtain rfl := Except.ok.inj h
      exact ⟨_, _, rfl, by simp, rfl, nofun⟩

theorem lt_of_handed {answer : Answer Nat} (h : (m.take ask).2 = .ok answer) :
    ∀ place ∈ answer.values?, place < (m.take ask).1.lists.length := by
  cases ask with
  | convert n =>
    obtain ⟨text, place, rfl, hplace, _⟩ := convert_handed h
    rintro _ ⟨⟩
    exact hplace
  | orderBy sort =>
    obtain ⟨text, _, rfl⟩ := Outcome.map_ok.mp h
    intro place hplace
    cases hplace
  | limit page =>
    rw [take] at h ⊢
    cases hpage : Sqlite.limit page with
    | error f =>
      rw [hpage] at h
      cases h
    | ok made =>
      rw [hpage] at h
      obtain rfl := Except.ok.inj h
      rintro _ ⟨⟩
      simp [make]
  | validate n =>
    obtain ⟨_, _, rfl⟩ := Outcome.map_ok.mp h
    intro place hplace
    cases hplace

theorem prefix_takeAll (m : Machine) (asks : List Ask) : m.lists <+: (m.takeAll asks).lists := by
  induction asks generalizing m with
  | nil => exact List.prefix_rfl
  | cons ask asks ih => exact (keeps_take m ask).lists.trans (ih _)

theorem layout_takeAll (m : Machine) (asks : List Ask) : (m.takeAll asks).layout = m.layout := by
  induction asks generalizing m with
  | nil => rfl
  | cons ask asks ih => exact (ih _).trans (keeps_take m ask).layout

theorem held_takeAll (hm : m.params < m.lists.length) (asks : List Ask) :
    (m.takeAll asks).params < (m.takeAll asks).lists.length := by
  induction asks generalizing m with
  | nil => exact hm
  | cons ask asks ih => exact ih ((keeps_take m ask).held hm)

theorem view_takeAll (hm : m.params < m.lists.length) (asks : List Ask) :
    (m.takeAll asks).view = m.view.takeAll asks := by
  induction asks generalizing m with
  | nil => rfl
  | cons ask asks ih =>
    rw [takeAll, ih ((keeps_take m ask).held hm), (Prod.mk.inj (take_view hm ask)).1]
    rfl

/-- Whatever a converter was asked for before, and wherever those calls failed, it answers as a new
one does. A conversion holds the values that it hands out, none for null, and any other call leaves
the list that is held alone. No later call writes to a list that was handed out. -/
theorem takeAll_forgets (l : Layout) (before : List Ask) (ask : Ask) (after : List Ask) :
    let held := (ofLayout l).takeAll before
    let next := (held.take ask).1
    seen (held.take ask) = seen ((ofLayout l).take ask) ∧
    (next.view, seen (held.take ask)) = ((Converter.ofLayout l).takeAll before).take ask ∧
    (∀ n answer, ask = .convert n → (held.take ask).2 = .ok answer →
      ∃ text place, answer = .clause text place ∧ next.list next.params = next.list place ∧
        (isNothing n = true → next.list place = [])) ∧
    ((∀ n, ask ≠ .convert n) →
      next.params = held.params ∧ next.list next.params = held.list held.params) ∧
    ∀ answer, (held.take ask).2 = .ok answer → ∀ place ∈ answer.values?,
      (next.takeAll after).list place = next.list place := by
  intro held next
  have hheld : held.params < held.lists.length := held_takeAll (by simp [ofLayout]) before
  have hkeeps : held.Keeps ask next := keeps_take held ask
  refine ⟨?_, ?_, ?_, ?_, ?_⟩
  · have hfresh := @take_view (ofLayout l) (by simp [ofLayout]) ask
    rw [(Prod.mk.inj (take_view hheld ask)).2, (Prod.mk.inj hfresh).2]
    exact Converter.take_of_layout (layout_takeAll _ before) ask
  · rw [take_view hheld, view_takeAll (by simp [ofLayout])]
    rfl
  · rintro n answer rfl h
    obtain ⟨text, place, hanswer, _, hvalues, hnull⟩ := convert_handed h
    exact ⟨text, place, hanswer, hvalues, hnull⟩
  · intro hask
    refine ⟨hkeeps.params hask, ?_⟩
    rw [hkeeps.params hask, list_of_prefix hkeeps.lists hheld]
  · intro answer h place hplace
    exact list_of_prefix (prefix_takeAll next after) (lt_of_handed h place hplace)

/-- A conversion that stops half way has written to a list of its own, and null to none. -/
example :
    (takeAll (ofLayout ⟨.null, .null, [], []⟩) [
      .convert (Node.ofPredicate (.junction .all [Example.leaf "a" .isIn [.int 1, .null],
        Example.leaf "a" .between [], Example.leaf "a" .eq [.int 2]])),
      .convert (.atom (.value .null)),
      .limit (some ⟨.int 2, .int 10⟩),
      .convert (Node.ofPredicate (Example.leaf "a" .lt [.int 3]))]).lists =
      [[], [.int 1, .null], [], [], [.int 10, .int 20], [.int 3]] := by
  rfl

end Machine
end TableQuery.Sqlite
