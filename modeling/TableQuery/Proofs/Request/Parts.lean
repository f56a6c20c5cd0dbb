import TableQuery.Request.Event
import TableQuery.Request.Wire
import TableQuery.Proofs.Outcome

/-!
# Reading the parts of requests

For each reader of a part one statement, of what it accepts and what it makes of that. Later modules
do not look into the readers.
-/
namespace TableQuery

open Outcome

namespace SortKey

variable {field direction v : Value} {k : SortKey}

theorem ofParts_ok : ofParts field direction = .ok k ↔
    field = .text k.field ∧ k.field ≠ "" ∧ direction = k.directionValue := by
  obtain ⟨name, d⟩ := k
  constructor
  · intro h
    unfold ofParts at h
    split at h
    · split at h
      · exact absurd h malformed_ne_ok
      · split at h
        · cases h
          exact ⟨rfl, by assumption, rfl⟩
        · cases h
          exact ⟨rfl, by assumption, rfl⟩
        · exact absurd h malformed_ne_ok
    · exact absurd h malformed_ne_ok
  · rintro ⟨rfl, hname, rfl⟩
    cases d <;> simp only [ofParts, directionValue, if_neg hname]

theorem ofWire_ok : ofWire v = .ok k ↔
    ∃ es, v = .map es ∧ ofParts (Value.entry "field" es) (Value.entry "order" es) = .ok k := by
  cases v <;> simp [ofWire, malformed_ne_ok]

theorem ofValue_ok : ofValue v = .ok k ↔ v = k.toValue := by
  obtain ⟨name, d⟩ := k
  cases v <;> simp [ofValue, toValue, malformed_ne_ok]

end SortKey

namespace Criterion

variable {value mode connective v : Value} {field : String} {c : Criterion}

theorem ofParts_ok : ofParts value mode connective = .ok c ↔
    c.value = settled value ∧ MatchMode.ofValue mode = .ok c.mode ∧
      Connective.ofValue connective = .ok c.connective := by
  obtain ⟨w, m, d⟩ := c
  constructor
  · intro h
    obtain ⟨m', hm, h⟩ := bind_ok.mp h
    obtain ⟨d', hd, h⟩ := bind_ok.mp h
    cases h
    exact ⟨rfl, hm, hd⟩
  · rintro ⟨rfl, hm, hd⟩
    exact bind_ok.mpr ⟨m, hm, bind_ok.mpr ⟨d, hd, rfl⟩⟩

theorem ofWire_ok : ofWire v = .ok c ↔ ∃ es, v = .map es ∧ ofEntries es = .ok c := by
  cases v <;> simp [ofWire, malformed_ne_ok]

theorem ofValue_ok : ofValue field v = .ok c ↔ v = c.toValue := by
  obtain ⟨w, m, d⟩ := c
  cases v <;> simp [ofValue, toValue, malformed_ne_ok]

end Criterion

namespace Request

def Counts (v : Value) (n : Nat) : Prop := v = .null ∧ n = 0 ∨ v = .int n

variable {part name : String} {v : Value} {n : Nat} {offset pageSize globalField : Value}
  {sortKeys : List SortKey} {r : Request}

theorem count_ok : count part v = .ok n ↔ Counts v n := by
  unfold count Counts
  split
  · simp [eq_comm]
  · simp
  · next m hm =>
    have hneg : m ≠ (n : Int) := fun h => hm n h
    simp [malformed_ne_ok, hneg]
  · next hnull _ hint =>
    refine iff_of_false malformed_ne_ok ?_
    rintro (⟨h, _⟩ | h)
    · exact hnull h
    · exact hint n h

theorem fieldName_ok : fieldName v = .ok name ↔ v = .text name := by
  cases v <;> simp [fieldName, malformed_ne_ok]

theorem named_ok {criteria : List (Value × List Criterion)}
    {named : List (String × List Criterion)} :
    (criteria.mapM fun e => do
      let name ← fieldName e.1
      Except.ok (name, e.2)) = .ok named ↔ criteria = named.map fun e => (.text e.1, e.2) := by
  refine mapM_ok_iff_map fun e d => ⟨fun h => ?_, ?_⟩
  · obtain ⟨name, hname, h⟩ := bind_ok.mp h
    obtain rfl := Except.ok.inj h
    exact Prod.ext (fieldName_ok.mp hname) rfl
  · rintro rfl
    rfl

theorem assemble_ok {criteria : List (Value × List Criterion)} :
    assemble offset pageSize sortKeys criteria globalField = .ok r ↔
      Counts offset r.offset ∧ Counts pageSize r.pageSize ∧ r.sortKeys = sortKeys ∧
        r.globalField = globalField ∧ ∃ named : List (String × List Criterion),
          criteria = named.map (fun e => (.text e.1, e.2)) ∧ r.criteria = withoutEmpty named := by
  obtain ⟨first, rows, keys, asked, global⟩ := r
  constructor
  · intro h
    obtain ⟨_, hfirst, h⟩ := bind_ok.mp h
    obtain ⟨_, hrows, h⟩ := bind_ok.mp h
    obtain ⟨named, hnamed, h⟩ := bind_ok.mp h
    cases h
    exact ⟨count_ok.mp hfirst, count_ok.mp hrows, rfl, rfl, named, named_ok.mp hnamed, rfl⟩
  · rintro ⟨hfirst, hrows, rfl, rfl, named, hnamed, rfl⟩
    exact bind_ok.mpr ⟨first, count_ok.mpr hfirst, bind_ok.mpr ⟨rows, count_ok.mpr hrows,
      bind_ok.mpr ⟨named, named_ok.mpr hnamed, rfl⟩⟩⟩

end Request
end TableQuery
