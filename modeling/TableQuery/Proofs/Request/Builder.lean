import TableQuery.Proofs.Request.Valid
import TableQuery.Proofs.Sameness

/-!
# What a builder gathers

A builder can be told in one piece from its calls: the counts and the global field are the last that
were given, sort keys come in the order of the calls, and criteria are grouped by their fields, a
field standing where it was first used. Calls that fail add nothing, and building a request, whether
it succeeds or not, neither takes anything away nor adds to it.
-/
namespace TableQuery

open Outcome Value

namespace Table

variable {α : Type}

def given (key : Value) (entries : List (Value × α)) : List α :=
  (entries.filter fun e => key.same e.1).map Prod.snd

def others (key : Value) (entries : List (Value × α)) : List (Value × α) :=
  entries.filter fun e => !key.same e.1

theorem length_others_le (key : Value) (entries : List (Value × α)) :
    (others key entries).length ≤ entries.length :=
  List.length_filter_le _ _

/-- Entries grouped by their keys: a group stands where its key is first used, and holds what is
given under that key. -/
def grouped : List (Value × α) → Table (List α)
  | [] => []
  | (k, a) :: rest => (k, a :: given k rest) :: grouped (others k rest)
termination_by entries => entries.length
decreasing_by exact Nat.lt_succ_of_le (length_others_le k rest)

def addTo (t : Table (List α)) (e : Value × α) : Table (List α) :=
  t.update e.1 [] (· ++ [e.2])

/-- What is added to a table goes to its first group or passes that by. -/
theorem foldl_addTo (k : Value) (vs : List α) (t : Table (List α)) (entries : List (Value × α)) :
    entries.foldl addTo ((k, vs) :: t) =
      (k, vs ++ given k entries) :: (others k entries).foldl addTo t := by
  induction entries generalizing vs t with
  | nil => simp [given, others]
  | cons e entries ih =>
    rw [List.foldl_cons, addTo, update]
    by_cases hsame : k.same e.1 = true
    · rw [if_pos hsame, ih]
      simp [given, others, hsame]
    · rw [if_neg hsame, ih]
      simp [given, others, hsame, addTo]

theorem foldl_addTo_nil (entries : List (Value × α)) :
    entries.foldl addTo [] = grouped entries := by
  induction entries using grouped.induct with
  | case1 => rw [List.foldl_nil, grouped]
  | case2 k a rest ih =>
    rw [List.foldl_cons, grouped, ← ih]
    exact foldl_addTo k [a] [] rest

/-- True and one are one key, under the spelling that came first. -/
example : grouped [(.int 1, 'a'), (.text "1", 'b'), (.bool true, 'c'), (.text "1", 'd')] =
    [(.int 1, ['a', 'c']), (.text "1", ['b', 'd'])] := by
  cbv

theorem length_grouped (entries : List (Value × α)) :
    ((grouped entries).flatMap Prod.snd).length = entries.length := by
  induction entries using grouped.induct with
  | case1 => rw [grouped, List.flatMap_nil, List.length_nil, List.length_nil]
  | case2 k a rest ih =>
    have hsplit : (given k rest).length + (others k rest).length = rest.length := by
      rw [given, others, List.length_map]
      exact (List.length_eq_length_filter_add _).symm
    rw [grouped, List.flatMap_cons, List.length_append, ih, List.length_cons, List.length_cons]
    omega

theorem mem_grouped {entries : List (Value × α)} :
    ∀ e ∈ grouped entries, ∃ d ∈ entries, d.1 = e.1 := by
  induction entries using grouped.induct with
  | case1 =>
    rw [grouped]
    intro e he
    cases he
  | case2 k a rest ih =>
    rw [grouped]
    refine List.forall_mem_cons.mpr ⟨⟨(k, a), List.mem_cons_self, rfl⟩, fun e he => ?_⟩
    obtain ⟨d, hd, heq⟩ := ih e he
    exact ⟨d, List.mem_cons_of_mem _ (List.mem_of_mem_filter hd), heq⟩

/-- What is given under a key has a group, whose own key may be spelled in another way. -/
theorem exists_group {entries : List (Value × α)} :
    ∀ d ∈ entries, ∃ e ∈ grouped entries, e.1 = d.1 ∨ e.1.same d.1 = true := by
  induction entries using grouped.induct with
  | case1 =>
    intro d hd
    cases hd
  | case2 k a rest ih =>
    rw [grouped]
    intro d hd
    rcases List.mem_cons.mp hd with rfl | hd
    · exact ⟨_, List.mem_cons_self, .inl rfl⟩
    · by_cases hsame : k.same d.1 = true
      · exact ⟨_, List.mem_cons_self, .inr hsame⟩
      · obtain ⟨e, he, hkey⟩ := ih d (List.mem_filter.mpr ⟨hd, by simpa using hsame⟩)
        exact ⟨e, List.mem_cons_of_mem _ he, hkey⟩

/-- Changes under different keys that are both there can be made in either order. -/
theorem update_comm {β : Type} {k l : Value} {start : β} {f g : β → β} {t : Table β}
    (hapart : ∀ e ∈ t, ¬ (e.1.same k = true ∧ e.1.same l = true))
    (hk : ∃ e ∈ t, e.1.same k = true) (hl : ∃ e ∈ t, e.1.same l = true) :
    (t.update k start f).update l start g = (t.update l start g).update k start f := by
  induction t with
  | nil =>
    obtain ⟨e, he, _⟩ := hk
    cases he
  | cons e t ih =>
    obtain ⟨he, hapart⟩ := List.forall_mem_cons.mp hapart
    by_cases hsameK : e.1.same k = true
    · have hsameL : ¬ e.1.same l = true := fun h => he ⟨hsameK, h⟩
      simp [update, hsameK, hsameL]
    · by_cases hsameL : e.1.same l = true
      · simp [update, hsameK, hsameL]
      · have hrest : ∀ m : Value, ¬ e.1.same m = true → (∃ d ∈ e :: t, d.1.same m = true) →
            ∃ d ∈ t, d.1.same m = true := by
          rintro m hm ⟨d, hd, hsame⟩
          rcases List.mem_cons.mp hd with rfl | hd
          · exact absurd hsame hm
          · exact ⟨d, hd, hsame⟩
        have hcomm := ih hapart (hrest k hsameK hk) (hrest l hsameL hl)
        simp [update, hsameK, hsameL, hcomm]

end Table

namespace Builder

namespace Call

def fault? : Call → Option Fault
  | .addSortField field direction => Outcome.fault? (SortKey.ofParts field direction)
  | .addFilter field _ => if field.isKey then none else some .wrongKind
  | _ => none

def first? : Call → Option Value
  | .first offset => some offset
  | _ => none

def rows? : Call → Option Value
  | .rows pageSize => some pageSize
  | _ => none

def globalName? : Call → Option Value
  | .globalFieldName name => some name
  | _ => none

def sortKey? : Call → Option SortKey
  | .addSortField field direction => (SortKey.ofParts field direction).toOption
  | _ => none

def criterion? : Call → Option (Value × Value)
  | .addFilter field asked => if field.isKey then some (field, asked) else none
  | _ => none

def addsCriterion : Call → Bool
  | .addFilter field asked => (fault? (.addFilter field asked)).isNone
  | _ => false

end Call

/-- The parts that calls give: what was set last, sort keys in their order, grouped criteria. -/
def gathered (calls : List Call) : RequestParts :=
  { offset := (calls.filterMap Call.first?).getLastD (.int 0)
    pageSize := (calls.filterMap Call.rows?).getLastD (.int 0)
    sortKeys := .tuple ((calls.filterMap Call.sortKey?).map SortKey.toValue)
    criteria := .map ((Table.grouped (calls.filterMap Call.criterion?)).map fun e => (e.1, .list e.2))
    globalField := (calls.filterMap Call.globalName?).getLastD .null }

variable {b next : Builder} {c : Call} {calls : List Call}

theorem call_error {f : Fault} : b.call c = .error f ↔ c.fault? = some f := by
  cases c with
  | first _ | rows _ | globalFieldName _ => simp [call, Call.fault?]
  | addSortField field direction =>
    rw [call, addSortField, Call.fault?]
    cases SortKey.ofParts field direction with
    | error e => exact Except.error.injEq e f ▸ (Option.some.injEq e f).symm ▸ Iff.rfl
    | ok key => simp [ok_bind, Outcome.fault?]
  | addFilter field asked =>
    rw [call, addFilter, Call.fault?]
    by_cases hkey : field.isKey = true <;> simp [hkey]

theorem part_run {γ δ : Type} (part : Builder → γ) (new? : Call → Option δ) (add : γ → δ → γ)
    (hafter : ∀ b c, part (after b c) = (new? c).elim (part b) (add (part b))) (calls : List Call) :
    part (run calls) = (calls.filterMap new?).foldl add (part empty) := by
  have hfrom : ∀ b, part (calls.foldl after b) = (calls.filterMap new?).foldl add (part b) := by
    induction calls with
    | nil => exact fun b => rfl
    | cons c calls ih =>
      intro b
      rw [List.foldl_cons, ih, hafter, List.filterMap_cons]
      cases new? c <;> rfl
  exact hfrom empty

theorem foldl_last {α : Type} (as : List α) (a : α) : as.foldl (fun _ b => b) a = as.getLastD a := by
  induction as generalizing a with
  | nil => rfl
  | cons b as ih => rw [List.foldl_cons, ih, List.getLastD_cons]

theorem after_eq (b : Builder) (c : Call) :
    b.after c =
      { offset := c.first?.elim b.offset fun offset => offset
        pageSize := c.rows?.elim b.pageSize fun pageSize => pageSize
        sortKeys := c.sortKey?.elim b.sortKeys fun key => b.sortKeys ++ [key]
        criteria := c.criterion?.elim b.criteria b.criteria.addTo
        globalField := c.globalName?.elim b.globalField fun name => name } := by
  cases c with
  | first _ | rows _ | globalFieldName _ => rfl
  | addSortField field direction =>
    rw [after, call, addSortField, Call.sortKey?]
    cases SortKey.ofParts field direction <;> rfl
  | addFilter field asked =>
    rw [after, call, addFilter, Call.criterion?]
    by_cases hkey : field.isKey = true
    · rw [if_pos hkey, if_pos hkey]
      rfl
    · rw [if_neg hkey, if_neg hkey]
      rfl

theorem criteria_run (calls : List Call) :
    (run calls).criteria = Table.grouped (calls.filterMap Call.criterion?) := by
  rw [part_run Builder.criteria Call.criterion? Table.addTo
    fun b c => congrArg Builder.criteria (after_eq b c)]
  exact Table.foldl_addTo_nil _

theorem sortKeys_run (calls : List Call) :
    (run calls).sortKeys = calls.filterMap Call.sortKey? := by
  rw [part_run Builder.sortKeys Call.sortKey? (fun keys key => keys ++ [key])
    fun b c => congrArg Builder.sortKeys (after_eq b c)]
  simp [empty, ← List.flatMap_def]

theorem parts_run (calls : List Call) : (run calls).parts = gathered calls := by
  have hoffset : (run calls).offset = (gathered calls).offset := by
    rw [part_run Builder.offset Call.first? (fun _ offset => offset)
      fun b c => congrArg Builder.offset (after_eq b c)]
    exact foldl_last _ _
  have hpageSize : (run calls).pageSize = (gathered calls).pageSize := by
    rw [part_run Builder.pageSize Call.rows? (fun _ pageSize => pageSize)
      fun b c => congrArg Builder.pageSize (after_eq b c)]
    exact foldl_last _ _
  have hglobal : (run calls).globalField = (gathered calls).globalField := by
    rw [part_run Builder.globalField Call.globalName? (fun _ name => name)
      fun b c => congrArg Builder.globalField (after_eq b c)]
    exact foldl_last _ _
  rw [parts, hoffset, hpageSize, hglobal, sortKeys_run, criteria_run, gathered]

theorem run_append (calls more : List Call) : run (calls ++ more) = more.foldl after (run calls) :=
  List.foldl_append

section Commute

theorem isKey_of_criterion {calls : List Call} :
    ∀ d ∈ calls.filterMap Call.criterion?, d.1.isKey = true := by
  intro d hd
  obtain ⟨c, _, hc⟩ := List.mem_filterMap.mp hd
  cases c with
  | addFilter field asked =>
    rw [Call.criterion?] at hc
    by_cases hkey : field.isKey = true
    · rw [if_pos hkey] at hc
      obtain rfl := Option.some.inj hc
      exact hkey
    · rw [if_neg hkey] at hc
      cases hc
  | _ => cases hc

def Uses (calls : List Call) (field : Value) : Prop :=
  ∃ d ∈ calls.filterMap Call.criterion?, d.1.same field = true

theorem isKey_of_run (calls : List Call) : ∀ e ∈ (run calls).criteria, e.1.isKey = true := by
  rw [criteria_run]
  intro e he
  obtain ⟨d, hd, heq⟩ := Table.mem_grouped e he
  exact heq ▸ isKey_of_criterion d hd

theorem Uses.exists_group {field : Value} (hfield : field.isKey = true) (h : Uses calls field) :
    ∃ e ∈ (run calls).criteria, e.1.same field = true := by
  obtain ⟨d, hd, hsame⟩ := h
  rw [criteria_run]
  obtain ⟨e, he, heq | hgroup⟩ := Table.exists_group d hd
  · exact ⟨e, he, heq ▸ hsame⟩
  · refine ⟨e, he, same_trans ?_ (isKey_of_criterion d hd) hfield hgroup hsame⟩
    exact isKey_of_run calls e (criteria_run calls ▸ he)

theorem after_addFilter {field : Value} (hfield : field.isKey = true) (b : Builder) (asked : Value) :
    b.after (.addFilter field asked) =
      { b with criteria := b.criteria.addTo (field, asked) } := by
  rw [after_eq, Call.criterion?, if_pos hfield]
  rfl

theorem addFilter_comm {k l : Value} (hk : k.isKey = true) (hl : l.isKey = true)
    (hkl : k.same l = false) (hkused : Uses calls k) (hlused : Uses calls l) (v w : Value) :
    run (calls ++ [.addFilter k v, .addFilter l w]) =
      run (calls ++ [.addFilter l w, .addFilter k v]) := by
  have hapart : ∀ e ∈ (run calls).criteria, ¬ (e.1.same k = true ∧ e.1.same l = true) := by
    rintro e he ⟨hek, hel⟩
    have hkey := isKey_of_run calls e he
    have hsame := same_trans hk hkey hl (same_symm hkey hk hek) hel
    rw [hkl] at hsame
    cases hsame
  have hcomm : ((run calls).criteria.addTo (k, v)).addTo (l, w) =
      ((run calls).criteria.addTo (l, w)).addTo (k, v) :=
    Table.update_comm hapart (hkused.exists_group hk) (hlused.exists_group hl)
  rw [run_append, run_append]
  simp only [List.foldl_cons, List.foldl_nil, after_addFilter hk, after_addFilter hl, hcomm]

end Commute

section Count

theorem itemsIfGiven_list (vs : List Value) : (list vs).itemsIfGiven = .ok vs := by
  cases vs <;> rfl

theorem flatMap_withoutEmpty (named : List (String × List Criterion)) :
    (Request.withoutEmpty named).flatMap Prod.snd = named.flatMap Prod.snd := by
  induction named with
  | nil => rfl
  | cons e named ih =>
    rw [Request.withoutEmpty] at ih
    cases hitems : e.2 with
    | nil => simp [Request.withoutEmpty, hitems, ih]
    | cons c cs => simp [Request.withoutEmpty, hitems, ih]

theorem length_of_ofParts {r : Request} (h : Request.ofParts (gathered calls) = .ok r) :
    (r.criteria.flatMap Prod.snd).length = (calls.filterMap Call.criterion?).length := by
  obtain ⟨_, _, h⟩ := bind_ok.mp h
  obtain ⟨_, _, h⟩ := bind_ok.mp h
  obtain ⟨_, _, h⟩ := bind_ok.mp h
  obtain ⟨_, _, h⟩ := bind_ok.mp h
  obtain ⟨_, hentries, h⟩ := bind_ok.mp h
  obtain ⟨named, hnamed, h⟩ := bind_ok.mp h
  obtain rfl := Except.ok.inj h
  obtain rfl := Except.ok.inj hentries
  have hread := List.forall₂_map_left_iff.mp (mapM_ok.mp hnamed)
  have hlengths : List.Forall₂ (fun e d => e.2.length = d.2.length)
      (Table.grouped (calls.filterMap Call.criterion?)) named := by
    refine hread.imp fun e d hed => ?_
    have hitems := (Request.fieldCriteria_ok hed).2
    rw [itemsIfGiven_list] at hitems
    rw [Except.ok.inj hitems, List.length_map]
  have hsame : (Table.grouped (calls.filterMap Call.criterion?)).map (fun e => e.2.length) =
      named.map (fun d => d.2.length) := map_eq_of_forall₂ hlengths
  rw [flatMap_withoutEmpty, List.length_flatMap, ← hsame, ← List.length_flatMap,
    Table.length_grouped]

theorem countP_addsCriterion (calls : List Call) :
    calls.countP Call.addsCriterion = (calls.filterMap Call.criterion?).length := by
  rw [List.length_filterMap_eq_countP]
  refine List.countP_congr fun c _ => ?_
  cases c with
  | addFilter field asked =>
    rw [Call.addsCriterion, Call.fault?, Call.criterion?]
    by_cases hkey : field.isKey = true <;> simp [hkey]
  | _ => exact Iff.rfl

end Count

inductive Step where
  | call (c : Call)
  | build

inductive Reply where
  | called (raised : Option Fault)
  | built (request : Except Fault Request)

def Step.call? : Step → Option Call
  | .call c => some c
  | .build => none

def take (b : Builder) : Step → Builder × Reply
  | .call c => (b.after c, .called (fault? (b.call c)))
  | .build => (b, .built b.build)

def takeAll (b : Builder) : List Step → List Reply
  | [] => []
  | step :: rest => (b.take step).2 :: (b.take step).1.takeAll rest

/-- What is to be seen of a step after some calls: whether a call is turned down rests on the call
alone, and a request is made of what was gathered. -/
def replyAfter (calls : List Call) : Step → Reply
  | .call c => .called c.fault?
  | .build => .built (Request.ofParts (gathered calls))

theorem fault?_call (b : Builder) (c : Call) : fault? (b.call c) = c.fault? := by
  apply Option.ext
  intro f
  rw [fault?_eq_some, call_error]

theorem run_of_fault {f : Fault} (h : c.fault? = some f) : run (calls ++ [c]) = run calls := by
  have hcall : (run calls).call c = .error f := call_error.mpr h
  rw [run_append, List.foldl_cons, List.foldl_nil, after, hcall]

theorem take_run (calls : List Call) (step : Step) :
    (run calls).take step = (run (calls ++ step.call?.toList), replyAfter calls step) := by
  cases step with
  | call c =>
    rw [take, fault?_call, replyAfter, run_append]
    rfl
  | build =>
    rw [take, build, parts_run, replyAfter, Step.call?, Option.toList_none, List.append_nil]

theorem takeAll_append (calls : List Call) (before after : List Step) :
    (run calls).takeAll (before ++ after) =
      (run calls).takeAll before ++ (run (calls ++ before.filterMap Step.call?)).takeAll after := by
  induction before generalizing calls with
  | nil => simp [takeAll]
  | cons step before ih =>
    rw [List.cons_append, takeAll, takeAll, take_run, ih, List.cons_append, List.append_assoc,
      List.filterMap_cons]
    cases step <;> rfl

/-- However a builder is used, what is seen of a step rests on the calls before it, and what was
seen before stays as it was. Building adds nothing, and nor does a call that is turned down. A
request that is built has as many criteria as calls added one, and two that go to different fields
which are in use already can be added in either order. -/
theorem takeAll_groups (before : List Step) (step : Step) (after : List Step) :
    let calls := before.filterMap Step.call?
    empty.takeAll (before ++ step :: after) =
      empty.takeAll before ++
        replyAfter calls step :: (run (calls ++ step.call?.toList)).takeAll after ∧
    ((∀ c, step = .call c → ∃ f, c.fault? = some f) →
      run (calls ++ step.call?.toList) = run calls) ∧
    (∀ r, Request.ofParts (gathered calls) = .ok r →
      (r.criteria.flatMap Prod.snd).length = calls.countP Call.addsCriterion) ∧
    ∀ k v l w, k.isKey = true → l.isKey = true → k.same l = false → Uses calls k → Uses calls l →
      run (calls ++ [.addFilter k v, .addFilter l w]) =
        run (calls ++ [.addFilter l w, .addFilter k v]) := by
  intro calls
  refine ⟨?_, ?_, ?_, ?_⟩
  · have hsplit := takeAll_append [] before (step :: after)
    rw [takeAll, List.nil_append, take_run] at hsplit
    exact hsplit
  · intro hstep
    cases step with
    | build => rw [Step.call?, Option.toList_none, List.append_nil]
    | call c =>
      obtain ⟨f, hf⟩ := hstep c rfl
      exact run_of_fault hf
  · intro r h
    rw [length_of_ofParts h, countP_addsCriterion]
  · intro k v l w hk hl hkl hkused hlused
    exact addFilter_comm hk hl hkl hkused hlused v w

end Builder
end TableQuery
