import TableQuery.Predicate.Compiler
import TableQuery.Proofs.Predicate.Rearranged
import TableQuery.Proofs.Sameness

/-!
# What a compiler searches

A compiler searches the fields it was told to, each where it was first named, so that no two of them
are ever the same. What it was told is what the last change as a whole named, if that went well, and
what was added since. Whatever fails, and whatever is compiled, changes nothing.
-/
namespace TableQuery

/-- The items that none before them is the same as, in their list or in front of it. -/
def firstsAfter (earlier : List Value) : List Value → List Value
  | [] => []
  | v :: rest =>
    if earlier.any (·.same v) then firstsAfter (earlier ++ [v]) rest
    else v :: firstsAfter (earlier ++ [v]) rest

def firsts : List Value → List Value := firstsAfter []

section Firsts

variable {vs : List Value} {v : Value}

theorem firstsAfter_append (earlier vs ws : List Value) : firstsAfter earlier (vs ++ ws) =
    firstsAfter earlier vs ++ firstsAfter (earlier ++ vs) ws := by
  induction vs generalizing earlier with
  | nil => rw [List.nil_append, List.append_nil, firstsAfter, List.nil_append]
  | cons v vs ih =>
    rw [List.cons_append, firstsAfter, firstsAfter, ih, List.append_assoc, List.singleton_append]
    by_cases hearlier : earlier.any (·.same v) = true
    · rw [if_pos hearlier, if_pos hearlier]
    · rw [if_neg hearlier, if_neg hearlier, List.cons_append]

theorem firsts_append (vs : List Value) (v : Value) :
    firsts (vs ++ [v]) = if vs.any (·.same v) then firsts vs else firsts vs ++ [v] := by
  rw [firsts, firstsAfter_append, List.nil_append, firstsAfter, firstsAfter]
  by_cases hbefore : vs.any (·.same v) = true
  · rw [if_pos hbefore, if_pos hbefore, List.append_nil]
  · rw [if_neg hbefore, if_neg hbefore]

theorem firsts_subset (vs : List Value) : firsts vs ⊆ vs := by
  induction vs using List.reverseRecOn with
  | nil => exact List.Subset.refl []
  | append_singleton vs v ih =>
    rw [firsts_append]
    by_cases hbefore : vs.any (·.same v) = true
    · rw [if_pos hbefore]
      exact List.subset_append_of_subset_left _ ih
    · rw [if_neg hbefore]
      exact List.append_subset.mpr ⟨List.subset_append_of_subset_left _ ih, by simp⟩

theorem any_firsts (hvs : ∀ w ∈ vs, w.isKey = true) (hv : v.isKey = true) :
    (firsts vs).any (·.same v) = vs.any (·.same v) := by
  induction vs using List.reverseRecOn with
  | nil => rfl
  | append_singleton vs w ih =>
    obtain ⟨hvs, hw⟩ := List.forall_mem_append.mp hvs
    replace hw := List.forall_mem_singleton.mp hw
    rw [firsts_append, List.any_append, ← ih hvs]
    by_cases hbefore : vs.any (·.same w) = true
    · rw [if_pos hbefore, Eq.comm, Bool.or_eq_left_iff_imp]
      intro hsame
      rw [ih hvs, List.any_eq_true]
      obtain ⟨u, hu, huw⟩ := List.any_eq_true.mp hbefore
      have hwv : w.same v = true := by simpa using hsame
      exact ⟨u, hu, Value.same_trans (hvs u hu) hw hv huw hwv⟩
    · rw [if_neg hbefore, List.any_append]

/-- Among keys, what is kept of a list are its first items of each kind. -/
theorem distinct_eq_firsts (hvs : ∀ v ∈ vs, v.isKey = true) : distinct vs = firsts vs := by
  induction vs using List.reverseRecOn with
  | nil => rfl
  | append_singleton vs v ih =>
    obtain ⟨hvs, hv⟩ := List.forall_mem_append.mp hvs
    rw [distinct_append, firsts_append, ih hvs, any_firsts hvs (hv v (List.mem_singleton_self v))]

theorem distinct_of_apart (h : Value.Apart vs) : distinct vs = vs := by
  induction vs using List.reverseRecOn with
  | nil => rfl
  | append_singleton vs v ih =>
    obtain ⟨hvs, hv⟩ := Value.apart_append.mp h
    rw [distinct_append, ih hvs, if_neg]
    simpa using hv

theorem apart_firsts (hvs : ∀ v ∈ vs, v.isKey = true) : Value.Apart (firsts vs) := by
  rw [← distinct_eq_firsts hvs]
  exact Value.apart_distinct vs

/-- Nothing is lost for what comes later when only the first items of a list are remembered. -/
theorem distinct_firsts_append (hvs : ∀ v ∈ vs, v.isKey = true) (hv : v.isKey = true) :
    distinct (firsts vs ++ [v]) = firsts (vs ++ [v]) := by
  rw [distinct_append, distinct_of_apart (apart_firsts hvs), any_firsts hvs hv, firsts_append]

end Firsts

namespace SearchSet

theorem ofList_keys {fields : List Value} (h : ∀ v ∈ fields, v.isKey = true) :
    ofList fields = .ok ⟨distinct fields⟩ := by
  rw [ofList, if_pos (List.all_eq_true.mpr h)]

theorem ofList_ok {fields : List Value} {s : SearchSet} :
    ofList fields = .ok s ↔ (∀ v ∈ fields, v.isKey = true) ∧ s = ⟨firsts fields⟩ := by
  by_cases hkeys : ∀ v ∈ fields, v.isKey = true
  · rw [ofList_keys hkeys, distinct_eq_firsts hkeys, Except.ok.injEq, eq_comm, iff_and_self]
    intro _
    exact hkeys
  · rw [ofList, if_neg (mt List.all_eq_true.mp hkeys)]
    refine iff_of_false ?_ fun h => hkeys h.1
    intro h
    cases h

theorem ofValue_ok {v : Value} {s : SearchSet} : ofValue v = .ok s ↔
    ∃ items, v.items = .ok items ∧ (∀ w ∈ items, w.isKey = true) ∧ s = ⟨firsts items⟩ := by
  simp only [← ofList_ok]
  exact Outcome.bind_ok

end SearchSet

namespace Compiler

inductive Turn where
  | configure (fields : Value)
  | add (field : Value)
  | clear
  | compile (r : Resolver) (request : Request) (given : Value)

inductive Reply where
  | changed (result : Except Fault Unit)
  | compiled (result : Predicate.Compiled)

def Reply.Fails : Reply → Prop
  | changed result => ∃ f, result = .error f
  | compiled result => ∃ f, result.outcome = .error f

def take (c : Compiler) : Turn → Compiler × Reply
  | .configure fields => (c.configure fields).map id .changed
  | .add field => (c.add field).map id .changed
  | .clear => c.clear.map id .changed
  | .compile r request given => (c.compile r request given).map id .compiled

def takeAll (c : Compiler) : List Turn → Compiler × List (Turn × Reply)
  | [] => (c, [])
  | turn :: rest =>
    let (last, told) := (c.take turn).1.takeAll rest
    (last, (turn, (c.take turn).2) :: told)

/-- The fields that are named once a turn had its reply: those of a change as a whole take the place
of all before, and one that is added comes after them. -/
def namedBy (fields : List Value) : Turn × Reply → List Value
  | (.configure v, .changed (.ok ())) => v.items.toOption.getD fields
  | (.add field, .changed (.ok ())) => fields ++ [field]
  | (.clear, .changed (.ok ())) => []
  | _ => fields

def named (start : List Value) (told : List (Turn × Reply)) : List Value := told.foldl namedBy start

structure Searches (c : Compiler) (fields : List Value) : Prop where
  keys : ∀ v ∈ fields, v.isKey = true
  first : c.searched.fields = firsts fields

structure Orderly (c : Compiler) : Prop where
  apart : Value.Apart c.searched.fields
  present : ∀ field, c.searched.fields.any (·.same field) = true → (c.take (.add field)).1 = c
  atomic : ∀ turn, (c.take turn).2.Fails → (c.take turn).1 = c
  configures : ∀ v, ¬ (c.take (.configure v)).2.Fails ↔
    ∃ items, v.items = .ok items ∧ ∀ w ∈ items, w.isKey = true
  adds : ∀ field, ¬ (c.take (.add field)).2.Fails ↔ field.isKey = true
  clears : ¬ (c.take .clear).2.Fails
  compiles : ∀ r request, c.take (.compile r request .null) =
    (c, .compiled (Predicate.ofRequest r c.searched.fields request))
  compilesGiven : ∀ r request v items, v.items = .ok items → (∀ w ∈ items, w.isKey = true) →
    c.take (.compile r request v) = (c, .compiled (Predicate.ofRequest r (firsts items) request))

section Step

variable {c : Compiler} {fields : List Value} {field v : Value} {s : SearchSet} {f : Fault}

theorem not_fails_ok : ¬ (Reply.changed (.ok ())).Fails := by
  rintro ⟨f, hf⟩
  cases hf

theorem fails_error (f : Fault) : (Reply.changed (.error f)).Fails := ⟨f, rfl⟩

theorem take_configure_ok (h : SearchSet.ofValue v = .ok s) :
    c.take (.configure v) = (⟨s⟩, .changed (.ok ())) := by
  rw [take, configure, h]
  rfl

theorem take_configure_error (h : SearchSet.ofValue v = .error f) :
    c.take (.configure v) = (c, .changed (.error f)) := by
  rw [take, configure, h]
  rfl

theorem Searches.take_add (h : c.Searches fields) (hfield : field.isKey = true) :
    c.take (.add field) = (⟨⟨firsts (fields ++ [field])⟩⟩, .changed (.ok ())) := by
  have hkept : ∀ w ∈ firsts fields ++ [field], w.isKey = true :=
    List.forall_mem_append.mpr ⟨fun w hw => h.keys w (firsts_subset fields hw), by simpa⟩
  rw [take, add, SearchSet.add, h.first, SearchSet.ofList_keys hkept,
    distinct_firsts_append h.keys hfield]
  rfl

theorem take_add_error (hfield : ¬ field.isKey = true) :
    c.take (.add field) = (c, .changed (.error .wrongKind)) := by
  rw [take, add, SearchSet.add, SearchSet.ofList, if_neg]
  · rfl
  · intro hall
    exact hfield (List.all_eq_true.mp hall field (by simp))

theorem ofRequestWith_ok (r : Resolver) (s : SearchSet) (request : Request) :
    Predicate.ofRequestWith r (.ok s) request = Predicate.ofRequest r s.fields request := by
  rw [Predicate.ofRequestWith]
  by_cases hnone : request.criteria.isEmpty = true
  · rw [if_pos hnone, Predicate.ofRequest, List.isEmpty_iff.mp hnone]
    rfl
  · rw [if_neg hnone]

theorem searchedBy_of_items {items : List Value} (h : v.items = .ok items) :
    c.searchedBy v = SearchSet.ofValue v := by
  cases v with
  | null => cases h
  | _ => rfl

/-- One more turn: whatever it was, the compiler searches the first of the fields named by then. -/
theorem Searches.step (h : c.Searches fields) (turn : Turn) :
    (c.take turn).1.Searches (namedBy fields (turn, (c.take turn).2)) := by
  cases turn with
  | configure v =>
    cases hread : SearchSet.ofValue v with
    | error f =>
      rw [take_configure_error hread]
      exact h
    | ok s =>
      obtain ⟨items, hitems, hkeys, rfl⟩ := SearchSet.ofValue_ok.mp hread
      rw [take_configure_ok hread, namedBy, hitems]
      exact ⟨hkeys, rfl⟩
  | add field =>
    by_cases hfield : field.isKey = true
    · rw [h.take_add hfield]
      exact ⟨List.forall_mem_append.mpr ⟨h.keys, by simpa⟩, rfl⟩
    · rw [take_add_error hfield]
      exact h
  | clear => exact ⟨by simp [namedBy, take, Compiler.clear, become], rfl⟩
  | compile r request given => exact h

theorem Searches.run (h : c.Searches fields) (turns : List Turn) :
    (c.takeAll turns).1.Searches (named fields (c.takeAll turns).2) := by
  induction turns generalizing c fields with
  | nil => exact h
  | cons turn rest ih => exact ih (h.step turn)

theorem atomic_become {next : Except Fault SearchSet}
    (hfails : (Reply.changed (c.become next).2).Fails) : (c.become next).1 = c := by
  cases next with
  | error f => rfl
  | ok s => exact absurd hfails not_fails_ok

theorem atomic_take (turn : Turn) (hfails : (c.take turn).2.Fails) : (c.take turn).1 = c := by
  cases turn with
  | configure v => exact atomic_become hfails
  | add field => exact atomic_become hfails
  | clear => exact absurd hfails not_fails_ok
  | compile r request given => rfl

theorem configure_succeeds : ¬ (c.take (.configure v)).2.Fails ↔
    ∃ items, v.items = .ok items ∧ ∀ w ∈ items, w.isKey = true := by
  cases hread : SearchSet.ofValue v with
  | error f =>
    rw [take_configure_error hread]
    refine iff_of_false (fun hgood => hgood (fails_error f)) ?_
    rintro ⟨items, hitems, hkeys⟩
    have hok := SearchSet.ofValue_ok.mpr ⟨items, hitems, hkeys, rfl⟩
    rw [hread] at hok
    cases hok
  | ok s =>
    obtain ⟨items, hitems, hkeys, rfl⟩ := SearchSet.ofValue_ok.mp hread
    rw [take_configure_ok hread]
    exact iff_of_true not_fails_ok ⟨items, hitems, hkeys⟩

theorem Searches.add_succeeds (h : c.Searches fields) :
    ¬ (c.take (.add field)).2.Fails ↔ field.isKey = true := by
  by_cases hfield : field.isKey = true
  · rw [h.take_add hfield]
    exact iff_of_true not_fails_ok hfield
  · rw [take_add_error hfield]
    exact iff_of_false (fun hgood => hgood (fails_error _)) hfield

theorem Searches.take_add_present (h : c.Searches fields)
    (hpresent : c.searched.fields.any (·.same field) = true) : (c.take (.add field)).1 = c := by
  by_cases hfield : field.isKey = true
  · rw [h.first, any_firsts h.keys hfield] at hpresent
    rw [h.take_add hfield, firsts_append, if_pos hpresent, ← h.first]
  · rw [take_add_error hfield]

theorem take_compile_given (r : Resolver) (request : Request) {items : List Value}
    (hitems : v.items = .ok items) (hkeys : ∀ w ∈ items, w.isKey = true) :
    c.take (.compile r request v) =
      (c, .compiled (Predicate.ofRequest r (firsts items) request)) := by
  have hread := SearchSet.ofValue_ok.mpr ⟨items, hitems, hkeys, rfl⟩
  rw [take, compile, searchedBy_of_items hitems, hread, ofRequestWith_ok]
  rfl

theorem Searches.orderly (h : c.Searches fields) : c.Orderly := by
  constructor
  · rw [h.first]
    exact apart_firsts h.keys
  · intro field hpresent
    exact h.take_add_present hpresent
  · exact atomic_take
  · intro v
    exact configure_succeeds
  · intro field
    exact h.add_succeeds
  · exact not_fails_ok
  · intro r request
    rw [← ofRequestWith_ok r c.searched request]
    rfl
  · intro r request v items hitems hkeys
    exact take_compile_given r request hitems hkeys

end Step

/-- However a compiler was told to change what it searches, and whichever of that failed, it
searches the first of the fields that were named, of which no two are the same. Adding one of them
again, failing and compiling leave it as it is, and fields that are named for one call are
searched as if the compiler had been made with them. -/
theorem takeAll_orderly {start : Value} {s : SearchSet} (h : SearchSet.ofValue start = .ok s)
    (turns : List Turn) :
    ∃ fields, start.items = .ok fields ∧
      ((Compiler.mk s).takeAll turns).1.searched.fields =
        firsts (named fields ((Compiler.mk s).takeAll turns).2) ∧
      ((Compiler.mk s).takeAll turns).1.Orderly := by
  obtain ⟨fields, hitems, hkeys, rfl⟩ := SearchSet.ofValue_ok.mp h
  have hstart : Searches ⟨⟨firsts fields⟩⟩ fields := ⟨hkeys, rfl⟩
  have hsearches := hstart.run turns
  exact ⟨fields, hitems, hsearches.first, hsearches.orderly⟩

end Compiler

namespace Example

def repeated : Value := .list [.text "name", .text "town", .text "name"]

/-- What cannot be read, a set that is added twice with its items in another order, fields of which
one is no key, and one call with fields of its own. -/
def tellings : List Compiler.Turn :=
  [.configure .null, .add (.frozenset [.text "x", .text "y"]),
    .add (.frozenset [.text "y", .text "x"]), .configure (.list [.text "age", .list []]),
    .compile (.table []) ⟨0, 0, [], [], .null⟩ (.text "aa")]

end Example

theorem Compiler.takeAll_orderly_tellings :
    ∃ s, SearchSet.ofValue Example.repeated = .ok s ∧
      ((Compiler.mk s).takeAll Example.tellings).1.searched.fields =
        [.text "name", .text "town", .frozenset [.text "x", .text "y"]] ∧
      ((Compiler.mk s).takeAll Example.tellings).1.Orderly := by
  have hstart : SearchSet.ofValue Example.repeated = .ok ⟨[.text "name", .text "town"]⟩ := by
    cbv
  obtain ⟨fields, hitems, hfirst, horderly⟩ := takeAll_orderly hstart Example.tellings
  obtain rfl := Except.ok.inj hitems
  refine ⟨_, hstart, hfirst.trans ?_, horderly⟩
  cbv

end TableQuery
