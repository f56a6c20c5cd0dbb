import TableQuery.Proofs.Request.Parts
import TableQuery.Proofs.Sqlite.Statement

/-!
# Windows of events

An event that names its rows by the first and the one behind the last gets a page of as many rows.
Pages are counted from the first row of all, so the one that is given holds the first row asked for,
and the last only if the first row stands where a page begins.
-/
namespace TableQuery

open Outcome

/-- Whether a page takes the row at a place, given what its clause binds: how many rows it takes,
and how many it leaves out before them. -/
def Sqlite.TakesRow (bound : List Value) (i : Nat) : Prop :=
  ∃ size skip : Nat, bound = [.int size, .int skip] ∧ skip ≤ i ∧ i < skip + size

theorem Sqlite.takesRow_page {size n i : Nat} (hsize : 0 < size) :
    Sqlite.TakesRow [.int size, .int (n / size * size : Nat)] i ↔ i / size = n / size := by
  have hpage : (n / size * size ≤ i ∧ i < n / size * size + size) ↔ i / size = n / size := by
    rw [Nat.div_eq_iff hsize]
    omega
  rw [← hpage]
  constructor
  · rintro ⟨size', skip, hbound, hlow, hhigh⟩
    simp only [List.cons.injEq, Value.int.injEq, Nat.cast_inj, and_true] at hbound
    obtain ⟨rfl, rfl⟩ := hbound
    exact ⟨hlow, hhigh⟩
  · rintro ⟨hlow, hhigh⟩
    exact ⟨size, _, rfl, hlow, hhigh⟩

/-- As many rows as a page has lie on one page exactly when they begin where a page does. -/
theorem page_covers_iff {size n : Nat} (hsize : 0 < size) :
    (∀ i, n ≤ i → i < n + size → i / size = n / size) ↔ size ∣ n := by
  constructor
  · intro h
    have hlast := h (n + size - 1) (by omega) (by omega)
    rw [Nat.div_eq_iff hsize] at hlast
    have hfloor := Nat.div_mul_le_self n size
    exact ⟨n / size, by rw [Nat.mul_comm]; omega⟩
  · rintro ⟨k, rfl⟩ i hlow hhigh
    rw [Nat.mul_div_cancel_left k hsize, Nat.div_eq_iff hsize, Nat.mul_comm k size]
    omega

namespace Request

variable {es : List (Value × Value)} {rows : Value} {first last : Nat}

structure EventFor (es : List (Value × Value)) (first last : Nat) : Prop where
  hasFirst : Value.entry "first" es = .int first
  hasLast : Value.entry "last" es = .int last
  noRows : (Value.entry "rows" es).truthy = false
  sorted : ∃ keys, eventSortKeys (Value.entry "multiSortMeta" es) (Value.entry "sortField" es)
    (Value.entry "sortOrder" es) = .ok keys
  filtered : ∃ criteria, eventFilters (Value.entry "filters" es) = .ok criteria ∧
    ∀ e ∈ criteria, ∃ name, e.1 = .text name

theorem eventPageSize_of_last (hrows : rows.truthy = false) (h : first ≤ last) (hpos : 0 < last) :
    eventPageSize (.int first) rows (.int last) = .ok (.int (last - first : Nat)) := by
  have hgiven : (Value.int last).truthy = true := by
    simp only [Value.truthy, decide_eq_true_eq]
    omega
  rw [eventPageSize, hrows, if_neg Bool.false_ne_true, if_pos hgiven]
  by_cases hzero : first = 0
  · subst hzero
    rfl
  · have hfirst : (Value.int first).truthy = true := by
      simp only [Value.truthy, decide_eq_true_eq]
      omega
    rw [if_pos hfirst, Int.ofNat_sub h]
    rfl

theorem ofEvent_of_eventFor (hes : EventFor es first last) (h : first ≤ last) (hpos : 0 < last) :
    ∃ r, ofEvent (.map es) = .ok r ∧ r.offset = first ∧ r.pageSize = last - first := by
  have hsize := eventPageSize_of_last hes.noRows h hpos
  rw [← hes.hasFirst, ← hes.hasLast] at hsize
  obtain ⟨keys, hkeys⟩ := hes.sorted
  obtain ⟨criteria, hcriteria, htexts⟩ := hes.filtered
  have hnames : ∀ e ∈ criteria, ∃ d : String × List Criterion, id e = (.text d.1, d.2) := by
    intro e he
    obtain ⟨name, hname⟩ := htexts e he
    exact ⟨(name, e.2), Prod.ext hname rfl⟩
  obtain ⟨named, hnamed⟩ := forall₂_of_exists hnames
  have hsame := map_eq_of_forall₂ hnamed
  rw [List.map_id] at hsame
  refine ⟨⟨first, last - first, keys, withoutEmpty named,
    if (Value.entry "filters" es).truthy then .text eventGlobalField else .null⟩, ?_, rfl, rfl⟩
  exact bind_ok.mpr ⟨es, rfl, bind_ok.mpr ⟨_, hsize, bind_ok.mpr ⟨keys, hkeys, bind_ok.mpr
    ⟨criteria, hcriteria,
      assemble_ok.mpr ⟨.inr hes.hasFirst, .inr rfl, rfl, rfl, named, hsame, rfl⟩⟩⟩⟩⟩

/-- An event for some rows gets the page that holds the first of them, as long as they are many. It
holds them all exactly when their number divides the place of the first. -/
theorem event_gets_page (hes : EventFor es first last) (h : first < last) :
    ∃ r w bound, ofEvent (.map es) = .ok r ∧ PageWindow.ofRequest r = some w ∧
      Sqlite.limit (some w) = .ok ("LIMIT ? OFFSET ?", bound) ∧
      (∀ i, Sqlite.TakesRow bound i ↔ i / (last - first) = first / (last - first)) ∧
      ((∀ i, first ≤ i → i < last → Sqlite.TakesRow bound i) ↔ (last - first) ∣ first) := by
  have hsize : 0 < last - first := by omega
  obtain ⟨r, hr, hoffset, hpageSize⟩ := ofEvent_of_eventFor hes h.le (by omega)
  have hpaged : r.pageSize ≠ 0 := by omega
  have hlimit := Sqlite.limit_ofRequest r
  obtain ⟨w, hw⟩ : ∃ w, PageWindow.ofRequest r = some w := ⟨_, if_neg hpaged⟩
  rw [hw, if_neg hpaged, hoffset, hpageSize] at hlimit
  have htakes : ∀ i, Sqlite.TakesRow [.int (last - first : Nat),
      .int ((first / (last - first) : Nat) * (last - first : Nat))] i ↔
        i / (last - first) = first / (last - first) := by
    intro i
    rw [← Sqlite.takesRow_page hsize, Nat.cast_mul]
  refine ⟨r, w, _, hr, hw, hlimit, htakes, ?_⟩
  simp only [htakes]
  rw [← page_covers_iff hsize, Nat.add_sub_cancel' h.le]

namespace Example

def scroll (first last : Nat) : List (Value × Value) :=
  [(.text "first", .int first), (.text "last", .int last), (.text "sortField", .text "age"),
    (.text "sortOrder", .int (-1)), (.text "filters", .map [(.text "name", .map [
      (.text "value", .text "an"), (.text "matchMode", .text "contains")])])]

theorem scroll_eventFor (first last : Nat) : EventFor (scroll first last) first last where
  hasFirst := by cbv
  hasLast := by cbv
  noRows := by cbv
  sorted := ⟨[⟨"age", some (-1)⟩], by cbv⟩
  filtered := ⟨[(.text "name", [⟨.text "an", some .contains, none⟩])], by cbv, by simp⟩

end Example

/-- The third page of twenty rows. -/
theorem event_gets_page_third :
    ∃ r w bound, ofEvent (.map (Example.scroll 40 60)) = .ok r ∧ PageWindow.ofRequest r = some w ∧
      Sqlite.limit (some w) = .ok ("LIMIT ? OFFSET ?", bound) ∧
      ∀ i, 40 ≤ i → i < 60 → Sqlite.TakesRow bound i := by
  obtain ⟨r, w, bound, hr, hw, hlimit, -, hcovers⟩ :=
    event_gets_page (Example.scroll_eventFor 40 60) (by decide)
  exact ⟨r, w, bound, hr, hw, hlimit, hcovers.mpr (by decide)⟩

/-- Ten rows from the sixth on are asked for and the first ten are given; no rows are asked for and
all are given. -/
theorem event_misses_rows :
    (∃ r w, ofEvent (.map (Example.scroll 5 15)) = .ok r ∧ PageWindow.ofRequest r = some w ∧
      Sqlite.limit (some w) = .ok ("LIMIT ? OFFSET ?", [.int 10, .int 0]) ∧
      ¬ Sqlite.TakesRow [.int 10, .int 0] 10) ∧
    ∃ r, ofEvent (.map (Example.scroll 5 5)) = .ok r ∧ PageWindow.ofRequest r = none := by
  have hmissed : ¬ Sqlite.TakesRow [.int 10, .int 0] 10 := by
    rintro ⟨size, skip, hbound, -, hhigh⟩
    simp only [List.cons.injEq, Value.int.injEq, and_true] at hbound
    omega
  constructor
  · obtain ⟨r, hr, hoffset, hpageSize⟩ :=
      ofEvent_of_eventFor (Example.scroll_eventFor 5 15) (by decide) (by decide)
    have hw : PageWindow.ofRequest r = some ⟨.int 0, .int 10⟩ := by
      rw [PageWindow.ofRequest, hoffset, hpageSize]
      rfl
    exact ⟨r, _, hr, hw, rfl, hmissed⟩
  · obtain ⟨r, hr, -, hpageSize⟩ :=
      ofEvent_of_eventFor (Example.scroll_eventFor 5 5) (by decide) (by decide)
    exact ⟨r, hr, if_pos hpageSize⟩

end Request
end TableQuery
