import Mathlib
import TableQuery.Sqlite.Clause

/-!
# Tokens

How the text of a statement falls into tokens, one character after the other. A mark inside a
quotation stands for itself when it is written twice and ends the quotation otherwise, so the reader
decides about it one character later. Words and numbers end where another token begins.
-/
namespace TableQuery.Sqlite

section Separated

variable {α β : Type} (x : α)

theorem separated_cons_cons (separator p q : List α) (pieces : List (List α)) :
    separated separator (p :: q :: pieces) =
      p ++ (separator ++ separated separator (q :: pieces)) :=
  List.append_assoc _ _ _

theorem map_separated (f : α → β) (pieces : List (List α)) :
    (separated [x] pieces).map f = separated [f x] (pieces.map (List.map f)) := by
  induction pieces with
  | nil => rfl
  | cons piece pieces ih =>
    cases pieces with
    | nil => rfl
    | cons next rest =>
      simp only [List.map_cons, separated_cons_cons, List.map_append, List.map_nil] at ih ⊢
      rw [ih]

theorem filterMap_separated {f : α → Option β} (hx : f x = none) (pieces : List (List α)) :
    (separated [x] pieces).filterMap f = pieces.flatMap (List.filterMap f) := by
  induction pieces with
  | nil => rfl
  | cons piece pieces ih =>
    cases pieces with
    | nil => simp [separated]
    | cons next rest =>
      rw [separated_cons_cons, List.filterMap_append, List.filterMap_append, ih, List.flatMap_cons]
      simp [hx]

theorem length_piece_le {piece : List α} {pieces : List (List α)} (h : piece ∈ pieces) :
    piece.length ≤ (separated [x] pieces).length := by
  induction pieces with
  | nil => cases h
  | cons p pieces ih =>
    cases pieces with
    | nil =>
      obtain rfl : piece = p := by simpa using h
      exact Nat.le_refl _
    | cons next rest =>
      rw [separated_cons_cons, List.length_append, List.length_append]
      rcases List.mem_cons.mp h with rfl | h
      · omega
      · have := ih h
        omega

theorem length_le_separated (pieces : List (List α)) :
    pieces.length ≤ (separated [x] pieces).length + 1 := by
  induction pieces with
  | nil => exact Nat.zero_le _
  | cons piece pieces ih =>
    cases pieces with
    | nil => exact Nat.le_add_left _ _
    | cons next rest =>
      rw [separated_cons_cons, List.length_append, List.length_append, List.length_cons,
        List.length_singleton]
      omega

end Separated

/-- A token. A place for a value holds what `α` says: nothing at first, then the value. -/
inductive Token (α : Type) where
  | word (letters : String)
  | number (n : Nat)
  | name (s : String)
  | text (s : String)
  | sign (c : Comparator)
  | mark (a : α)
  | opening
  | closing
  | comma
  | dot
  | star
  deriving DecidableEq

namespace Token

variable {α β : Type}

def map (f : α → β) : Token α → Token β
  | word s => word s
  | number n => number n
  | name s => name s
  | text s => text s
  | sign c => sign c
  | mark a => mark (f a)
  | opening => opening
  | closing => closing
  | comma => comma
  | dot => dot
  | star => star

def shape (t : Token α) : Token Unit := t.map fun _ => ()

def value? : Token α → Option α
  | mark a => some a
  | _ => none

/-- Puts values in their places, in order, until none is left of either. -/
def supply : List (Token Unit) → List α → Option (List (Token α))
  | [], [] => some []
  | [], _ :: _ => none
  | mark _ :: _, [] => none
  | mark _ :: ts, v :: vs => (supply ts vs).map (mark v :: ·)
  | word s :: ts, vs => (supply ts vs).map (word s :: ·)
  | number n :: ts, vs => (supply ts vs).map (number n :: ·)
  | name s :: ts, vs => (supply ts vs).map (name s :: ·)
  | text s :: ts, vs => (supply ts vs).map (text s :: ·)
  | sign c :: ts, vs => (supply ts vs).map (sign c :: ·)
  | opening :: ts, vs => (supply ts vs).map (opening :: ·)
  | closing :: ts, vs => (supply ts vs).map (closing :: ·)
  | comma :: ts, vs => (supply ts vs).map (comma :: ·)
  | dot :: ts, vs => (supply ts vs).map (dot :: ·)
  | star :: ts, vs => (supply ts vs).map (star :: ·)

theorem supply_shape (ts : List (Token α)) :
    supply (ts.map shape) (ts.filterMap value?) = some ts := by
  induction ts with
  | nil => rfl
  | cons t ts ih => cases t <;> simp [shape, map, supply, List.filterMap_cons, value?, ih]

end Token

inductive Quotation where
  | name
  | text

def Quotation.mark : Quotation → Char
  | name => '"'
  | text => '\''

def Quotation.token : Quotation → String → Token Unit
  | name => .name
  | text => .text

inductive Mode where
  | between
  | word (letters : List Char)
  | sign (first : Char)
  | quoted (q : Quotation) (content : List Char)
  /-- After a mark that ends the quotation, or is the first of two. -/
  | unsure (q : Quotation) (content : List Char)

namespace Mode

abbrev Next := List (Token Unit) × Mode

def Next.after (ts : List (Token Unit)) (n : Next) : Next := (ts ++ n.1, n.2)

def isWordChar (c : Char) : Bool := c.isAlphanum || c = '_' || 0x7F < c.val

def wordToken (letters : List Char) : Option (Token Unit) :=
  if letters.all Char.isDigit then
    some (.number (letters.foldl (fun n c => 10 * n + (c.toNat - '0'.toNat)) 0))
  else if letters.head?.any Char.isDigit then none
  else some (.word (String.ofList letters))

def signToken : Char → Option (Token Unit)
  | '>' => some (.sign .gt)
  | '<' => some (.sign .lt)
  | _ => none

/-- The token that ends when the text does, or when another one begins. -/
def flush : Mode → Option (List (Token Unit))
  | between => some []
  | word letters => (wordToken letters).map ([·])
  | sign first => (signToken first).map ([·])
  | quoted _ _ => none
  | unsure q content => some [q.token (String.ofList content)]

def start (c : Char) : Option Next :=
  match c with
  | ' ' | '\t' | '\n' | '\r' => some ([], between)
  | '(' => some ([.opening], between)
  | ')' => some ([.closing], between)
  | ',' => some ([.comma], between)
  | '.' => some ([.dot], between)
  | '*' => some ([.star], between)
  | '?' => some ([.mark ()], between)
  | '=' => some ([.sign .eq], between)
  | '<' | '>' | '!' => some ([], sign c)
  | '"' => some ([], quoted .name [])
  | '\'' => some ([], quoted .text [])
  | c => if isWordChar c then some ([], word [c]) else none

def change (m : Mode) (c : Char) : Option Next :=
  m.flush.bind fun ts => (start c).map (Next.after ts)

def step (m : Mode) (c : Char) : Option Next :=
  match m with
  | between => start c
  | word letters => if isWordChar c then some ([], word (letters ++ [c])) else m.change c
  | sign first =>
    match first, c with
    | '>', '=' => some ([.sign .gte], between)
    | '<', '=' => some ([.sign .lte], between)
    | '!', '=' | '<', '>' => some ([.sign .ne], between)
    | _, _ => m.change c
  | quoted q content =>
    some ([], if c = q.mark then unsure q content else quoted q (content ++ [c]))
  | unsure q content => if c = q.mark then some ([], quoted q (content ++ [c])) else m.change c

def run (m : Mode) : List Char → Option Next
  | [] => some ([], m)
  | c :: cs => (m.step c).bind fun n => (n.2.run cs).map (Next.after n.1)

end Mode

def tokens (cs : List Char) : Option (List (Token Unit)) :=
  (Mode.run .between cs).bind fun n => n.2.flush.map (n.1 ++ ·)

namespace Mode

@[simp]
theorem Next.after_nil : Next.after [] = id := rfl

@[simp]
theorem Next.after_comp (ts us : List (Token Unit)) :
    Next.after ts ∘ Next.after us = Next.after (ts ++ us) := by
  funext n
  simp [Next.after]

theorem run_append (m : Mode) (cs ds : List Char) :
    m.run (cs ++ ds) = (m.run cs).bind fun n => (n.2.run ds).map (Next.after n.1) := by
  induction cs generalizing m with
  | nil => simp [run]
  | cons c cs ih =>
    cases hstep : m.step c with
    | none => simp [run, hstep]
    | some n =>
      simp only [List.cons_append, run, hstep, Option.bind_some, ih]
      cases n.2.run cs with
      | none => rfl
      | some n' =>
        rw [Option.bind_some, Option.map_map, Next.after_comp]
        rfl

/-- A quotation takes in whatever is written in it, and ends with the mark behind it. -/
theorem run_quoted (q : Quotation) (content s : List Char) :
    (quoted q content).run (doubled q.mark s ++ [q.mark]) = some ([], unsure q (content ++ s)) := by
  induction s generalizing content with
  | nil => simp [doubled, run, step, Next.after]
  | cons c s ih =>
    have hs : content ++ c :: s = (content ++ [c]) ++ s := by simp
    rw [hs, ← ih (content ++ [c])]
    by_cases hc : c = q.mark
    · subst hc
      simp [doubled, run, step]
    · simp [doubled, run, step, hc]

theorem run_word {letters cs : List Char} (h : cs.all isWordChar = true) :
    (word letters).run cs = some ([], word (letters ++ cs)) := by
  induction cs generalizing letters with
  | nil => simp [run]
  | cons c cs ih =>
    rw [List.all_cons, Bool.and_eq_true] at h
    have hs : letters ++ c :: cs = (letters ++ [c]) ++ cs := by simp
    rw [hs, ← ih h.2]
    simp [run, step, h.1]

theorem start_word {c : Char} (h : isWordChar c = true) : start c = some ([], word [c]) := by
  unfold start
  split
  all_goals first | exact absurd h (by decide) | exact if_pos h

def isBreak (c : Char) : Bool := c ∈ [' ', '(', ')', ',', '.']

theorem step_break {m : Mode} {ts : List (Token Unit)} {c : Char} (hm : m.flush = some ts)
    (hc : isBreak c = true) : m.step c = (start c).map (Next.after ts) := by
  have hcases : c = ' ' ∨ c = '(' ∨ c = ')' ∨ c = ',' ∨ c = '.' := by simpa [isBreak] using hc
  have hchange : m.change c = (start c).map (Next.after ts) := by rw [change, hm, Option.bind_some]
  cases m with
  | between =>
    obtain rfl : [] = ts := Option.some.inj hm
    rw [step, Next.after_nil, Option.map_id_fun, id]
  | word letters =>
    have hword : isWordChar c = false := by rcases hcases with rfl | rfl | rfl | rfl | rfl <;> rfl
    rw [step, hword, ← hchange]
    rfl
  | sign first =>
    rw [← hchange]
    rcases hcases with rfl | rfl | rfl | rfl | rfl <;> simp [step]
  | quoted q content => cases hm
  | unsure q content =>
    have hmark : c ≠ q.mark := by
      cases q <;> rcases hcases with rfl | rfl | rfl | rfl | rfl <;> decide
    rw [step, if_neg hmark, hchange]

end Mode

/-- Characters that are read as some tokens, whatever stands behind them. -/
def Closed (cs : List Char) (ts : List (Token Unit)) : Prop :=
  Mode.run .between cs = some (ts, .between)

variable {cs ds : List Char} {ts us : List (Token Unit)}

theorem Closed.tokens_append (h : Closed cs ts) (h' : tokens ds = some us) :
    tokens (cs ++ ds) = some (ts ++ us) := by
  obtain ⟨n, hn, h'⟩ := Option.bind_eq_some_iff.mp h'
  obtain ⟨vs, hvs, rfl⟩ := Option.map_eq_some_iff.mp h'
  rw [tokens, Mode.run_append, h, Option.bind_some, hn]
  simp [Mode.Next.after, hvs]

/-- A token that is open at the end of a text is closed by a break behind it. -/
theorem run_break (h : tokens cs = some ts) (hd : ds.head?.any Mode.isBreak = true) :
    Mode.run .between (cs ++ ds) = (Mode.run .between ds).map (Mode.Next.after ts) := by
  obtain ⟨n, hn, h⟩ := Option.bind_eq_some_iff.mp h
  obtain ⟨vs, hvs, rfl⟩ := Option.map_eq_some_iff.mp h
  cases ds with
  | nil => cases hd
  | cons d ds =>
    have hstep : n.2.step d = (Mode.step .between d).map (Mode.Next.after vs) :=
      Mode.step_break hvs hd
    rw [Mode.run_append, hn, Option.bind_some, Mode.run, Mode.run, hstep]
    cases Mode.step .between d with
    | none => rfl
    | some n' =>
      rw [Option.map_some, Option.bind_some, Option.bind_some, Option.map_map, Option.map_map,
        Mode.Next.after_comp, Mode.Next.after_comp, List.append_assoc]
      rfl

theorem tokens_append (h : tokens cs = some ts) (hd : ds.head?.any Mode.isBreak = true)
    (h' : tokens ds = some us) : tokens (cs ++ ds) = some (ts ++ us) := by
  obtain ⟨n, hn, h'⟩ := Option.bind_eq_some_iff.mp h'
  obtain ⟨vs, hvs, rfl⟩ := Option.map_eq_some_iff.mp h'
  rw [tokens, run_break h hd, hn]
  simp [Mode.Next.after, hvs]

theorem tokens_separated {separator : List Char} {t : Token Unit} (hclosed : Closed separator [t])
    (hbreak : separator.head?.any Mode.isBreak = true) {pieces : List (List Char)}
    {tss : List (List (Token Unit))}
    (h : List.Forall₂ (fun cs ts => tokens cs = some ts) pieces tss) :
    tokens (separated separator pieces) = some (separated [t] tss) := by
  induction h with
  | nil => rfl
  | cons hpiece hpieces ih =>
    cases hpieces with
    | nil => exact hpiece
    | cons _ _ =>
      rw [separated_cons_cons, separated_cons_cons]
      refine tokens_append hpiece ?_ (hclosed.tokens_append ih)
      rw [List.head?_append_of_ne_nil]
      · exact hbreak
      · rintro rfl
        cases hbreak

theorem tokens_quoted (q : Quotation) (s : List Char) :
    tokens (q.mark :: doubled q.mark s ++ [q.mark]) = some [q.token (String.ofList s)] := by
  have hstart : Mode.step .between q.mark = some ([], .quoted q []) := by cases q <;> rfl
  rw [List.cons_append, tokens, Mode.run, hstart, Option.bind_some, Mode.run_quoted]
  rfl

theorem tokens_quotedName (s : String) : tokens (quotedName s.toList) = some [.name s] := by
  have h := tokens_quoted .name s.toList
  rwa [String.ofList_toList] at h

theorem tokens_quotedText (s : List Char) :
    tokens (quotedText s) = some [.text (String.ofList s)] :=
  tokens_quoted .text s

def reserved : List String := ["AND", "BETWEEN", "IN", "IS", "LIKE", "NOT", "NULL", "OR"]

def isReserved (s : String) : Bool := reserved.contains (s.map Char.toUpper)

def isBare (s : String) : Bool :=
  s.toList.all Mode.isWordChar && s.toList.head?.any (!·.isDigit) && !isReserved s

theorem tokens_bare {s : String} (h : isBare s = true) : tokens s.toList = some [.word s] := by
  obtain ⟨⟨hall, hhead⟩, _⟩ : (s.toList.all Mode.isWordChar = true ∧
      s.toList.head?.any (!·.isDigit) = true) ∧ (!isReserved s) = true := by
    simpa only [isBare, Bool.and_eq_true] using h
  cases hs : s.toList with
  | nil => simp [hs] at hhead
  | cons c cs =>
    rw [hs, List.all_cons, Bool.and_eq_true] at hall
    have hdigit : c.isDigit = false := by simpa [hs] using hhead
    have hstart : Mode.step .between c = some ([], .word [c]) := Mode.start_word hall.1
    have hword : Mode.wordToken (c :: cs) = some (.word s) := by
      rw [← String.ofList_toList (s := s), hs]
      simp [Mode.wordToken, hdigit]
    rw [tokens, Mode.run, hstart, Option.bind_some, Mode.run_word hall.2]
    simp [Mode.flush, hword]

end TableQuery.Sqlite
