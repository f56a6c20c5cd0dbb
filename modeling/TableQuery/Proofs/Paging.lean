import TableQuery.Proofs.Request.Window
import TableQuery.Proofs.Sqlite.Query

/-!
# Pages one after the other

Pages of one size follow each other without a gap, so whoever asks for them from the first to the
last is given every row once, and the last page is shorter where the size does not divide the number
of rows. Between two beginnings of pages every offset leads to the same page, the one that begins
before it.
-/
namespace TableQuery

/-- A page as it is read from the text of its clause and the values that go with it: its size and
the number of rows before it; none if the text is empty. -/
def Sqlite.readPage (made : String × List Value) : Option (Option (Value × Value)) := do
  let shapes ← tokens made.1.toList
  let ts ← Token.supply shapes made.2
  let (window, rest) ← Reader.page ts
  if rest.isEmpty then some window else none

/-- The rows that are left of a list: so many of them, behind so many others. -/
def Sqlite.pick {α : Type} (rows : List α) : Option (Value × Value) → Option (List α)
  | none => some rows
  | some (.int (.ofNat size), .int (.ofNat skip)) => some ((rows.drop skip).take size)
  | some _ => none

theorem Sqlite.readPage_of_limit {page : Option PageWindow} {part : String} {bound : List Value}
    (h : limit page = .ok (part, bound)) :
    ∃ window, Option.Rel Query.Bounds page window ∧ readPage (part, bound) = some window ∧
      bound = window.elim [] fun (size, skip) => [size, skip] := by
  obtain ⟨window, hwindow, htokens, hbound⟩ := limit_window h
  refine ⟨window, hwindow, ?_, hbound⟩
  have hvalues : (Query.pageTokens window).filterMap Token.value? = bound := by
    rw [hbound]
    cases window <;> rfl
  have hsupply := Token.supply_shape (Query.pageTokens window)
  rw [hvalues] at hsupply
  simp [readPage, htokens, hsupply, page_tokens]

def Request.Gets {α : Type} (r : Request) (rows page : List α) : Prop :=
  ∃ made window, Sqlite.limit (PageWindow.ofRequest r) = .ok made ∧
    Sqlite.readPage made = some window ∧ Sqlite.pick rows window = some page

structure Request.AsksFor (r : Request) (offset size : Nat) : Prop where
  offset : r.offset = offset
  pageSize : r.pageSize = size

/-- A window for an offset: the page of a size that holds the row there, from where it begins. -/
structure PageWindow.Holds (w : PageWindow) (offset size start : Nat) : Prop where
  sized : w.size = .int size
  starts : w.offset = .ok (.int start)
  greatest : IsGreatest {m | size ∣ m ∧ m ≤ offset} start
  takes : ∃ bound, Sqlite.limit (some w) = .ok ("LIMIT ? OFFSET ?", bound) ∧
    Sqlite.TakesRow bound offset
  shared : ∀ r : Request, r.pageSize = size →
    (PageWindow.ofRequest r = some w ↔ start ≤ r.offset ∧ r.offset < start + size)
  aligned : start = offset ↔ size ∣ offset

section Paged

variable {α : Type} {r : Request} {size offset : Nat}

theorem PageWindow.ofRequest_of_asksFor (h : r.AsksFor offset size) (hsize : 0 < size) :
    ofRequest r = some ⟨.int (offset / size : Nat), .int size⟩ := by
  obtain ⟨rfl, rfl⟩ := h
  have hpaged : r.pageSize ≠ 0 := by omega
  rw [ofRequest, if_neg hpaged]

theorem Sqlite.limit_page (n size : Nat) : limit (some ⟨.int n, .int size⟩) =
    .ok ("LIMIT ? OFFSET ?", [.int size, .int (n * size : Nat)]) := rfl

theorem Request.gets_of_asksFor (h : r.AsksFor offset size) (hsize : 0 < size) (rows : List α) :
    r.Gets rows ((rows.drop (offset / size * size)).take size) := by
  have hlimit := Sqlite.limit_page (offset / size) size
  rw [← PageWindow.ofRequest_of_asksFor h hsize] at hlimit
  obtain ⟨window, _, hread, hbound⟩ := Sqlite.readPage_of_limit hlimit
  refine ⟨_, window, hlimit, hread, ?_⟩
  cases window with
  | none => cases hbound
  | some bounds =>
    obtain ⟨taken, skipped⟩ := bounds
    simp only [Option.elim_some, List.cons.injEq, and_true] at hbound
    obtain ⟨rfl, rfl⟩ := hbound
    rfl

theorem flatten_pages (rows : List α) (size count : Nat) :
    ((List.range count).map fun k => (rows.drop (k * size)).take size).flatten =
      rows.take (count * size) := by
  induction count with
  | zero => simp
  | succ count ih =>
    rw [List.range_succ, List.map_append, List.flatten_append, ih, Nat.succ_mul, List.take_add]
    simp

/-- Where the page of an offset begins: at the last beginning of a page that is not behind it. -/
theorem isGreatest_page (offset : Nat) (hsize : 0 < size) :
    IsGreatest {m | size ∣ m ∧ m ≤ offset} (offset / size * size) := by
  constructor
  · exact ⟨Nat.dvd_mul_left _ _, Nat.div_mul_le_self _ _⟩
  · rintro m ⟨⟨k, rfl⟩, hm⟩
    rw [Nat.mul_comm size k] at hm ⊢
    have hk : k ≤ offset / size := (Nat.le_div_iff_mul_le hsize).mpr hm
    exact Nat.mul_le_mul_right size hk

theorem PageWindow.holds_of_asksFor (offset : Nat) (hsize : 0 < size) :
    Holds ⟨.int (offset / size : Nat), .int size⟩ offset size (offset / size * size) := by
  constructor
  · rfl
  · rfl
  · exact isGreatest_page offset hsize
  · exact ⟨_, Sqlite.limit_page _ _, (Sqlite.takesRow_page hsize).mpr rfl⟩
  · intro r hr
    have hpages : r.offset / size = offset / size ↔
        offset / size * size ≤ r.offset ∧ r.offset < offset / size * size + size := by
      rw [Nat.div_eq_iff hsize]
      omega
    rw [ofRequest_of_asksFor ⟨rfl, hr⟩ hsize, ← hpages]
    simp only [Option.some.injEq, PageWindow.mk.injEq, Value.int.injEq, Nat.cast_inj, and_true]
  · exact (Nat.dvd_iff_div_mul_eq offset size).symm

end Paged

/-- Whoever asks for one page after the other, as many as it takes, is given all rows, each of them
once and in their order. A request for any row is given the page that the row is on, together with
all other requests for rows of that page, and it begins there only if the pages do. Without a size
there are no pages. -/
theorem pages_cover_rows {size : Nat} (hsize : 0 < size) :
    (∀ {α : Type} (rows : List α) (asked : Nat → Request),
      (∀ k, (asked k).AsksFor (k * size) size) →
      ∃ pages, List.Forall₂ (fun k page => (asked k).Gets rows page)
        (List.range (rows.length ⌈/⌉ size)) pages ∧ pages.flatten = rows) ∧
    (∀ r : Request, r.pageSize = size →
      ∃ w start, PageWindow.ofRequest r = some w ∧ w.Holds r.offset size start) ∧
    ∀ r : Request, r.pageSize = 0 → Sqlite.limit (PageWindow.ofRequest r) = .ok ("", []) := by
  refine ⟨?_, ?_, ?_⟩
  · intro α rows asked hasked
    refine ⟨_, List.forall₂_map_right_iff.mpr (List.forall₂_same.mpr fun k _ => ?_),
      (flatten_pages rows size _).trans ?_⟩
    · have hgets := Request.gets_of_asksFor (hasked k) hsize rows
      rwa [Nat.mul_div_cancel k hsize] at hgets
    · apply List.take_of_length_le
      have hall := le_smul_ceilDiv (b := rows.length) hsize
      rwa [smul_eq_mul, Nat.mul_comm] at hall
  · intro r hr
    have hasks : r.AsksFor r.offset size := ⟨rfl, hr⟩
    exact ⟨_, _, PageWindow.ofRequest_of_asksFor hasks hsize,
      PageWindow.holds_of_asksFor r.offset hsize⟩
  · intro r hr
    rw [Sqlite.limit_ofRequest, if_pos hr]

namespace Example

def asking (offset size : Nat) : Request := ⟨offset, size, [], [], .null⟩

end Example

/-- Seven days on three pages, the last of which has one; and the fifth of them, which is on a page
that begins before it. -/
theorem pages_cover_rows_week :
    (∃ pages, List.Forall₂ (fun k page => (Example.asking (k * 3) 3).Gets
        ["Mo", "Tu", "We", "Th", "Fr", "Sa", "Su"] page) [0, 1, 2] pages ∧
      pages.flatten = ["Mo", "Tu", "We", "Th", "Fr", "Sa", "Su"]) ∧
    (∃ w start, PageWindow.ofRequest (Example.asking 4 3) = some w ∧ w.Holds 4 3 start) ∧
    Sqlite.limit (PageWindow.ofRequest (Example.asking 4 0)) = .ok ("", []) := by
  obtain ⟨hcover, hwindow, hall⟩ := pages_cover_rows (show 0 < 3 by decide)
  refine ⟨?_, hwindow (Example.asking 4 3) rfl, hall (Example.asking 4 0) rfl⟩
  exact hcover ["Mo", "Tu", "We", "Th", "Fr", "Sa", "Su"] (fun k => Example.asking (k * 3) 3)
    fun _ => ⟨rfl, rfl⟩

end TableQuery
