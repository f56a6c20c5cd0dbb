import TableQuery.Proofs.Request.Valid

/-!
# Writing and reading requests

A valid request that is written is read back as it was. What is written has one form: every field
has a list of criteria, each a map of its own, and match modes go by their own names; so to read it
and write it again changes nothing.
-/
namespace TableQuery

open Outcome Value

namespace Value

@[simp]
theorem entry_text_cons (name key : String) (v : Value) (es : List (Value × Value)) :
    entry name ((text key, v) :: es) = if key = name then v else entry name es := by
  rw [entry, entry, Table.get?, same_texts]
  by_cases h : key = name <;> simp [h]

end Value

theorem MatchMode.ofName?_name (m : MatchMode) : ofName? m.name = some m := by
  cases m <;> decide

theorem MatchMode.lookup_name (m : MatchMode) : aliases.lookup m.name = none := by
  cases m <;> decide

theorem Connective.ofName?_name (c : Connective) : ofName? c.name = some c := by
  cases c <;> decide

theorem SortKey.ofWire_toWire {k : SortKey} (h : k.field ≠ "") : ofWire k.toWire = .ok k := by
  refine SortKey.ofWire_ok.mpr ⟨_, rfl, ofParts_ok.mpr ?_⟩
  simp [h]

namespace Criterion

variable {c : Criterion}

theorem ofValue_modeValue (c : Criterion) : MatchMode.ofValue c.modeValue = .ok c.mode := by
  unfold modeValue
  cases c.mode with
  | none => rfl
  | some m => simp only [MatchMode.ofValue, MatchMode.ofName?_name]

theorem ofValue_connectiveValue (c : Criterion) :
    Connective.ofValue c.connectiveValue = .ok c.connective := by
  unfold connectiveValue
  cases c.connective with
  | none => rfl
  | some d => simp only [Connective.ofValue, Connective.ofName?_name]

/-- A tuple goes out as a list and comes back as a tuple; a list would not. -/
theorem settled_wireValue (h : c.value.isList = false) : settled c.wireValue = c.value := by
  unfold wireValue
  cases hv : c.value <;> simp_all [settled, isList]

theorem ofWire_toWire (h : c.value.isList = false) : ofWire c.toWire = .ok c := by
  refine ofWire_ok.mpr ⟨_, rfl, ofParts_ok.mpr ?_⟩
  simp [settled_wireValue h, ofValue_modeValue, ofValue_connectiveValue]

end Criterion

namespace Request

variable {r : Request} {v : Value}

/-- A criterion written as a map of its own, with its match mode under no alias. -/
def PlainCriterion (v : Value) : Prop :=
  ∃ es, v = .map es ∧
    ∀ name, entry "matchMode" es = .text name → MatchMode.aliases.lookup name = none

def Canonical (v : Value) : Prop :=
  ∃ es filters, v = .map es ∧ entry "filters" es = .map filters ∧
    ∀ e ∈ filters, ∃ items, e.2 = .list items ∧ items ≠ [] ∧ ∀ w ∈ items, PlainCriterion w

theorem plain_toWire (c : Criterion) : PlainCriterion c.toWire := by
  refine ⟨_, rfl, fun name hname => ?_⟩
  have hmode : c.modeValue = .text name := by simpa using hname
  unfold Criterion.modeValue at hmode
  split at hmode
  · cases hmode
  · next m _ =>
    obtain rfl := text.inj hmode
    exact m.lookup_name

theorem canonical_toWire (h : r.Valid) : Canonical r.toWire := by
  refine ⟨_, r.criteria.map criteriaToWire, rfl, by simp, ?_⟩
  rw [List.forall_mem_map]
  intro e he
  refine ⟨_, rfl, by simpa using h.asked e he, ?_⟩
  rw [List.forall_mem_map]
  exact fun c _ => plain_toWire c

theorem wireSortFields_list (items : List Value) : wireSortFields (.list items) = .ok items := by
  cases items <;> rfl

theorem wireFilters_map (es : List (Value × Value)) : wireFilters (.map es) = .ok es := by
  cases es <;> rfl

theorem wireCriteria_toWire {e : String × List Criterion}
    (h : ∀ c ∈ e.2, c.value.isList = false) :
    wireCriteria (criteriaToWire e) = .ok (.text e.1, e.2) := by
  refine bind_ok.mpr ⟨e.2, mapM_ok.mpr ?_, rfl⟩
  rw [List.forall₂_map_left_iff, List.forall₂_same]
  exact fun c hc => Criterion.ofWire_toWire (h c hc)

theorem withoutEmpty_of_asked {criteria : List (String × List Criterion)}
    (h : ∀ e ∈ criteria, e.2 ≠ []) : withoutEmpty criteria = criteria := by
  refine List.filter_eq_self.mpr fun e he => ?_
  simpa using h e he

theorem ofWire_toWire (h : r.Valid) : ofWire r.toWire = .ok r := by
  have hcriteria : (r.criteria.map criteriaToWire).mapM wireCriteria =
      .ok (r.criteria.map fun e => (.text e.1, e.2)) := by
    rw [mapM_ok, List.forall₂_map_left_iff, List.forall₂_map_right_iff, List.forall₂_same]
    exact fun e he => wireCriteria_toWire (h.settled e he)
  have hsortKeys : (r.sortKeys.map SortKey.toWire).mapM SortKey.ofWire = .ok r.sortKeys := by
    rw [mapM_ok, List.forall₂_map_left_iff, List.forall₂_same]
    exact fun k hk => SortKey.ofWire_toWire (h.named k hk)
  have hassemble : assemble (.int r.offset) (.int r.pageSize) r.sortKeys
      (r.criteria.map fun e => (.text e.1, e.2)) r.globalField = .ok r :=
    assemble_ok.mpr ⟨.inr rfl, .inr rfl, rfl, rfl, r.criteria, rfl,
      (withoutEmpty_of_asked h.asked).symm⟩
  unfold toWire ofWire ofWireEntries
  simp only [entry_text_cons, String.reduceEq, if_true, if_false]
  rw [wireSortFields_list, wireFilters_map]
  exact bind_ok.mpr ⟨_, rfl, bind_ok.mpr ⟨_, rfl, bind_ok.mpr ⟨_, hcriteria, bind_ok.mpr
    ⟨_, hsortKeys, hassemble⟩⟩⟩⟩

/-- Whichever way a request is made, it is read back from its written form as it was; that form is
canonical, and the same again when what is read is written. -/
theorem Source.written_reads_back {s : Source} (hsound : s.Sound) (h : s.request = .ok r) :
    ofWire r.toWire = .ok r ∧ Canonical r.toWire ∧
      ∀ q, ofWire r.toWire = .ok q → q.toWire = r.toWire := by
  have hvalid := (valid_of_request hsound h).1
  have hread := ofWire_toWire hvalid
  refine ⟨hread, canonical_toWire hvalid, fun q hq => ?_⟩
  rw [Except.ok.inj (hread.symm.trans hq)]

namespace Example

def loose : Value :=
  .map [(.text "rows", .int 20), (.text "version", .int 3), (.text "sortFields", .list [.map [
      (.text "field", .text "age")]]),
    (.text "filters", .map [(.text "age", .map [(.text "value", .list [.int 1, .int 9]),
        (.text "matchMode", .text "between")]),
      (.text "name", .list []), (.text "seen", .list [.map [(.text "operator", .text "and"),
        (.text "value", .text "2024-05-01"), (.text "matchMode", .text "dateAfter")]])])]

def read : Request where
  offset := 0
  pageSize := 20
  sortKeys := [⟨"age", none⟩]
  criteria := [("age", [⟨.tuple [.int 1, .int 9], some .between, none⟩]),
    ("seen", [⟨.text "2024-05-01", some .gt, some .all⟩])]
  globalField := .null

theorem ofWire_loose : ofWire loose = .ok read := by
  have hcriteria : (Source.entriesOf (entry "filters" (Source.entriesOf loose))).mapM
      wireCriteria = .ok [(.text "age", [⟨.tuple [.int 1, .int 9], some .between, none⟩]),
        (.text "name", []), (.text "seen", [⟨.text "2024-05-01", some .gt, some .all⟩])] := by cbv
  have hsortKeys : [Value.map [(.text "field", .text "age")]].mapM SortKey.ofWire =
      .ok [⟨"age", none⟩] := by cbv
  refine bind_ok.mpr ⟨_, by cbv, bind_ok.mpr ⟨_, by cbv, bind_ok.mpr ⟨_, hcriteria, bind_ok.mpr
    ⟨_, hsortKeys, assemble_ok.mpr ⟨.inl ⟨by cbv, rfl⟩, .inr (by cbv), rfl, by cbv, ?_⟩⟩⟩⟩⟩
  exact ⟨[("age", _), ("name", []), ("seen", _)], rfl, rfl⟩

end Example

/-- An alias, a criterion without a list, an empty list and an entry that is passed over. -/
theorem Source.written_reads_back_loose :
    ofWire Example.loose = .ok Example.read ∧ ofWire Example.read.toWire = .ok Example.read ∧
      Canonical Example.read.toWire := by
  have hsound : (Source.wire Example.loose).Sound := by
    simp [Example.loose, Source.Sound, Value.Sound, SoundEntries, SoundAll, Apart]
  obtain ⟨hread, hcanonical, -⟩ := written_reads_back hsound Example.ofWire_loose
  exact ⟨Example.ofWire_loose, hread, hcanonical⟩

end Request
end TableQuery
