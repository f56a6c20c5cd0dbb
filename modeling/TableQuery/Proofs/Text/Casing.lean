import Mathlib
import TableQuery.Text.Casing

/-!
# Small letters stay small

A letter is small when it is its own small letter, wherever it stands. A text in small letters has
no other letters, so that taking small letters once more, or of any letters of such a text, changes
nothing. That no letter the table gives is in the table again is checked for every two rows.
-/
namespace TableQuery.Text

/-- The wildcards of a pattern, and the two letters with rules of their own. -/
def special : List Nat := ['%'.toNat, '_'.toNat, 'İ'.toNat, 'Σ'.toNat]

namespace CaseRow

def Lists (row : CaseRow) (code : Nat) : Prop :=
  row.first ≤ code ∧ code ≤ row.last ∧ (code - row.first) % row.stride = 0

def low (row : CaseRow) : Nat := (row.first + row.shift).toNat

def high (row : CaseRow) : Nat := (row.last + row.shift).toNat

def isPlain (row : CaseRow) : Bool :=
  (Nat.blt row.high 0xD800 || Nat.blt 0xDFFF row.low && Nat.blt row.high 0x110000) &&
    special.all fun n => Nat.blt n row.low || Nat.blt row.high n

/-- Whether another row lists none of the letters that a row gives: it is elsewhere, or lists every
second letter and passes over them. -/
def isApart (row other : CaseRow) : Bool :=
  Nat.blt row.high other.first || Nat.blt other.last row.low ||
    (row.stride = 2 || row.first = row.last) && other.stride = 2 &&
      (row.low - other.first) % 2 = 1

end CaseRow

theorem rows_checked :
    smallLetters.all (fun row => row.isPlain && smallLetters.all row.isApart) = true := by
  decide +kernel

section Rows

variable {row : CaseRow} {code n : Nat} {rows : List CaseRow}

theorem lookUp_unlisted (h : ∀ row ∈ rows, ¬ row.Lists n) : lookUp n rows = n := by
  induction rows with
  | nil => rfl
  | cons row rows ih =>
    have hrow := h row List.mem_cons_self
    rw [lookUp]
    split
    · rfl
    · next hfirst =>
      split
      · next hlast =>
        refine if_neg fun hstride => hrow ⟨?_, hlast, hstride⟩
        omega
      · exact ih fun row hr => h row (List.mem_cons_of_mem _ hr)

theorem lookUp_cases (code : Nat) (rows : List CaseRow) :
    lookUp code rows = code ∨
      ∃ row ∈ rows, row.Lists code ∧ lookUp code rows = (code + row.shift).toNat := by
  induction rows with
  | nil => exact .inl rfl
  | cons row rows ih =>
    rw [lookUp]
    split
    · exact .inl rfl
    · next hfirst =>
      split
      · next hlast =>
        by_cases hstride : (code - row.first) % row.stride = 0
        · rw [if_pos hstride]
          exact .inr ⟨row, List.mem_cons_self, ⟨by omega, hlast, hstride⟩, rfl⟩
        · rw [if_neg hstride]
          exact .inl rfl
      · rcases ih with h | ⟨row, hrow, h⟩
        · exact .inl h
        · exact .inr ⟨row, List.mem_cons_of_mem _ hrow, h⟩

theorem small_between (hcode : row.Lists code) :
    row.low ≤ (code + row.shift).toNat ∧ (code + row.shift).toNat ≤ row.high := by
  obtain ⟨hfirst, hlast, _⟩ := hcode
  unfold CaseRow.low CaseRow.high
  omega

theorem isApart_unlisted {other : CaseRow} (h : row.isApart other = true)
    (hcode : row.Lists code) : ¬ other.Lists (code + row.shift).toNat := by
  rintro ⟨hfirst, hlast, hstride⟩
  obtain ⟨hlow, hhigh⟩ := small_between hcode
  simp only [CaseRow.isApart, Bool.or_eq_true, Bool.and_eq_true, decide_eq_true_eq,
    Nat.blt_eq] at h
  rcases h with (h | h) | ⟨⟨hrow, hother⟩, hodd⟩
  · omega
  · omega
  · obtain ⟨hcfirst, hclast, hcstride⟩ := hcode
    rw [hother] at hstride
    unfold CaseRow.low at hodd
    rcases hrow with hrow | hrow
    · rw [hrow] at hcstride
      omega
    · omega

/-- A small letter that the table gives has no entry of its own, and is not special. -/
theorem small_checked (hrow : row ∈ smallLetters) (hcode : row.Lists code)
    (hn : (code + row.shift).toNat = n) :
    n.isValidChar ∧ lookUp n smallLetters = n ∧ n ∉ special := by
  obtain ⟨hplain, hapart⟩ := (Bool.and_eq_true _ _).mp (List.all_eq_true.mp rows_checked row hrow)
  obtain ⟨hlow, hhigh⟩ := small_between hcode
  simp only [CaseRow.isPlain, Bool.and_eq_true, Bool.or_eq_true, Nat.blt_eq,
    List.all_eq_true] at hplain
  obtain ⟨hvalid, hspecial⟩ := hplain
  subst hn
  refine ⟨?_, ?_, ?_⟩
  · rcases hvalid with h | ⟨h, h'⟩
    · exact .inl (by omega)
    · exact .inr ⟨by omega, by omega⟩
  · exact lookUp_unlisted fun other hother =>
      isApart_unlisted (List.all_eq_true.mp hapart other hother) hcode
  · intro hmem
    have := hspecial _ hmem
    omega

end Rows

def IsSmall (c : Char) : Prop := c ≠ 'İ' ∧ c ≠ 'Σ' ∧ smallLetter c = c

theorem smallLetter_cases (c : Char) :
    smallLetter c = c ∨ IsSmall (smallLetter c) ∧ (smallLetter c).toNat ∉ special := by
  rcases lookUp_cases c.toNat smallLetters with h | ⟨row, hrow, hcode, h⟩
  · left
    rw [smallLetter, h, Char.ofNat_toNat]
  · right
    obtain ⟨hvalid, hfixed, hspecial⟩ := small_checked hrow hcode h.symm
    have hnat : (smallLetter c).toNat = lookUp c.toNat smallLetters := by
      rw [smallLetter, Char.ofNat, dif_pos hvalid]
      rfl
    rw [← hnat] at hfixed hspecial
    refine ⟨⟨?_, ?_, ?_⟩, hspecial⟩
    · intro hc
      exact hspecial (by simp [special, hc])
    · intro hc
      exact hspecial (by simp [special, hc])
    · rw [smallLetter, hfixed, Char.ofNat_toNat]

variable {before after t : List Char} {c d : Char}

theorem isSmall_of_mem_lowerAt (h : d ∈ lowerAt before c after) : IsSmall d := by
  unfold lowerAt at h
  split at h
  · have hd : d = 'i' ∨ d = '\u0307' := by simpa using h
    rcases hd with rfl | rfl
    · exact ⟨by decide, by decide, by decide +kernel⟩
    · exact ⟨by decide, by decide, by decide +kernel⟩
  · next hdotted =>
    split at h
    · rw [List.mem_singleton] at h
      subst h
      split
      · exact ⟨by decide, by decide, by decide +kernel⟩
      · exact ⟨by decide, by decide, by decide +kernel⟩
    · next hsigma =>
      obtain rfl := List.mem_singleton.mp h
      rcases smallLetter_cases c with hc | ⟨hsmall, _⟩
      · rw [hc]
        exact ⟨hdotted, hsigma, hc⟩
      · exact hsmall

theorem lowerAt_of_isSmall (h : IsSmall c) : lowerAt before c after = [c] := by
  obtain ⟨hdotted, hsigma, hsmall⟩ := h
  rw [lowerAt, if_neg hdotted, if_neg hsigma, hsmall]

theorem isSmall_of_mem_lowerFrom (h : d ∈ lowerFrom before t) : IsSmall d := by
  induction t generalizing before with
  | nil => cases h
  | cons c t ih =>
    rcases List.mem_append.mp h with h | h
    · exact isSmall_of_mem_lowerAt h
    · exact ih h

theorem lowerFrom_of_isSmall (h : ∀ c ∈ t, IsSmall c) : lowerFrom before t = t := by
  induction t generalizing before with
  | nil => rfl
  | cons c t ih =>
    rw [lowerFrom, lowerAt_of_isSmall (h c List.mem_cons_self),
      ih fun d hd => h d (List.mem_cons_of_mem _ hd)]
    rfl

/-- Small letters in any arrangement are their own small letters. -/
theorem lowerChars_of_mem {s : List Char} (h : ∀ c ∈ t, c ∈ lowerChars s) : lowerChars t = t :=
  lowerFrom_of_isSmall fun c hc => isSmall_of_mem_lowerFrom (h c hc)

theorem isSmall_percent : IsSmall '%' := ⟨by decide, by decide, by decide +kernel⟩

theorem lowerChars_lowerChars (t : List Char) : lowerChars (lowerChars t) = lowerChars t :=
  lowerChars_of_mem fun _ hc => hc

theorem mem_lowerAt_of_special (hspecial : d.toNat ∈ special) (hsmall : IsSmall d) :
    d ∈ lowerAt before c after ↔ d = c := by
  constructor
  · intro h
    unfold lowerAt at h
    split at h
    · have hd : d = 'i' ∨ d = '\u0307' := by simpa using h
      rcases hd with rfl | rfl <;> exact absurd hspecial (by decide)
    · split at h
      · rw [List.mem_singleton] at h
        subst h
        split at hspecial <;> exact absurd hspecial (by decide)
      · obtain rfl := List.mem_singleton.mp h
        rcases smallLetter_cases c with hc | ⟨_, hnot⟩
        · exact hc
        · exact absurd hspecial hnot
  · rintro rfl
    rw [lowerAt_of_isSmall hsmall]
    exact List.mem_singleton_self d

theorem mem_lowerChars_of_special (hspecial : d.toNat ∈ special) (hsmall : IsSmall d) :
    d ∈ lowerChars t ↔ d ∈ t := by
  have hfrom : ∀ before, d ∈ lowerFrom before t ↔ d ∈ t := by
    induction t with
    | nil => simp [lowerFrom]
    | cons c t ih =>
      intro before
      rw [lowerFrom, List.mem_append, mem_lowerAt_of_special hspecial hsmall, ih, List.mem_cons]
  exact hfrom []

end TableQuery.Text
