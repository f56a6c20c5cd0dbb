import TableQuery.Proofs.Text.Casing

/-!
# Small letters of an excerpt

What stands around an excerpt changes the small letters of its capital sigmas and of nothing else.
A sigma waits for what stands before the excerpt when no letter of it comes before the sigma, and
for what stands behind when a word would end with it. A letter at that side changes the form of
each sigma that waits for it, so that an excerpt keeps its small letters in every text exactly when
no sigma waits.
-/
namespace TableQuery.Text

variable {before after a b s t : List Char} {c : Char}

/-- The small letters of a text with another one on either side; `before` runs backwards. -/
def lowerBetween (before : List Char) : List Char → List Char → List Char
  | [], _ => []
  | c :: rest, after => lowerAt before c (rest ++ after) ++ lowerBetween (c :: before) rest after

theorem lowerFrom_append (before s t : List Char) :
    lowerFrom before (s ++ t) = lowerBetween before s t ++ lowerFrom (s.reverse ++ before) t := by
  induction s generalizing before with
  | nil => rfl
  | cons c s ih =>
    rw [List.cons_append, lowerFrom, ih, lowerBetween, List.append_assoc, List.reverse_cons,
      List.append_assoc, List.singleton_append]

theorem lowerFrom_eq_between (before s : List Char) :
    lowerFrom before s = lowerBetween before s [] := by
  have happend := lowerFrom_append before s []
  rwa [List.append_nil, lowerFrom, List.append_nil] at happend

/-! ## Where a word ends -/

theorem meetsCased_append (s t : List Char) :
    meetsCased (s ++ t) = if s.all isCaseIgnorable then meetsCased t else meetsCased s := by
  unfold meetsCased
  induction s with
  | nil => rfl
  | cons c s ih =>
    rw [List.cons_append, List.dropWhile_cons, List.dropWhile_cons, List.all_cons]
    cases hc : isCaseIgnorable c with
    | true => simpa using ih
    | false => rfl

theorem meetsCased_of_all (h : s.all isCaseIgnorable = true) : meetsCased s = false := by
  have happend := meetsCased_append s []
  rwa [List.append_nil, if_pos h] at happend

/-- Whether a sigma takes its form from what stands before the excerpt. -/
def waitsBefore (before after : List Char) : Bool :=
  before.all isCaseIgnorable && !meetsCased after

def waitsBehind (before after : List Char) : Bool :=
  meetsCased before && after.all isCaseIgnorable

theorem endsWord_before (before a after : List Char) :
    endsWord (before ++ a) after =
      (endsWord before after || waitsBefore before after && meetsCased a) := by
  rw [endsWord, endsWord, waitsBefore, meetsCased_append]
  cases hall : before.all isCaseIgnorable with
  | true => rw [if_pos rfl, meetsCased_of_all hall, Bool.true_and, Bool.false_and, Bool.false_or,
      Bool.and_comm]
  | false => simp

theorem endsWord_behind (before after b : List Char) :
    endsWord before (after ++ b) =
      (endsWord before after && !(waitsBehind before after && meetsCased b)) := by
  rw [endsWord, endsWord, waitsBehind, meetsCased_append]
  cases hall : after.all isCaseIgnorable with
  | true => rw [if_pos rfl, meetsCased_of_all hall]; cases meetsCased before <;> simp
  | false => simp

/-- What is certain before an excerpt is certain whatever stands behind it. -/
theorem waitsBefore_append (h : waitsBefore before after = false) (b : List Char) :
    waitsBefore before (after ++ b) = false := by
  rw [waitsBefore, meetsCased_append]
  cases hall : after.all isCaseIgnorable with
  | true =>
    rw [waitsBefore, meetsCased_of_all hall, Bool.not_false, Bool.and_true] at h
    rw [h, Bool.false_and]
  | false => simpa [waitsBefore] using h

/-- A sigma that waits for neither side has the form it would have alone. -/
theorem endsWord_certain (hbefore : a = [] ∨ waitsBefore before after = false)
    (hbehind : b = [] ∨ waitsBehind before after = false) :
    endsWord (before ++ a) (after ++ b) = endsWord before after := by
  have hright : endsWord before (after ++ b) = endsWord before after := by
    rcases hbehind with rfl | hwait
    · rw [List.append_nil]
    · rw [endsWord_behind, hwait, Bool.false_and, Bool.not_false, Bool.and_true]
  rcases hbefore with rfl | hwait
  · rw [List.append_nil, hright]
  · rw [endsWord_before, waitsBefore_append hwait, Bool.false_and, Bool.or_false, hright]

/-! ## Sigmas that wait -/

def sigmas (waits : List Char → List Char → Bool) (before : List Char) : List Char → Nat
  | [] => 0
  | c :: rest =>
    (if c = 'Σ' ∧ waits before rest = true then 1 else 0) + sigmas waits (c :: before) rest

/-- No sigma of an excerpt waits, when more may stand at the sides that are open. -/
structure Settled (openLeft openRight : Bool) (s : List Char) : Prop where
  before : openLeft = true → sigmas waitsBefore [] s = 0
  behind : openRight = true → sigmas waitsBehind [] s = 0

instance (openLeft openRight : Bool) (s : List Char) : Decidable (Settled openLeft openRight s) :=
  decidable_of_iff ((openLeft = true → sigmas waitsBefore [] s = 0) ∧
      (openRight = true → sigmas waitsBehind [] s = 0))
    ⟨fun h => ⟨h.1, h.2⟩, fun h => ⟨h.1, h.2⟩⟩

theorem lowerAt_of_ne (h : c ≠ 'Σ') (before after a b : List Char) :
    lowerAt before c after = lowerAt a c b := by
  simp only [lowerAt, if_neg h]

theorem lowerAt_sigma (before after : List Char) :
    lowerAt before 'Σ' after = [if endsWord before after then 'ς' else 'σ'] := rfl

theorem lowerAt_ne_nil : lowerAt before c after ≠ [] := by
  unfold lowerAt
  split
  · simp
  · split <;> simp

theorem lowerBetween_settled (ha : a = [] ∨ sigmas waitsBefore before s = 0)
    (hb : b = [] ∨ sigmas waitsBehind before s = 0) :
    lowerBetween (before ++ a) s b = lowerBetween before s [] := by
  induction s generalizing before with
  | nil => rfl
  | cons c s ih =>
    simp only [sigmas, Nat.add_eq_zero_iff] at ha hb
    rw [lowerBetween, lowerBetween, List.append_nil, ← List.cons_append,
      ih (ha.imp_right And.right) (hb.imp_right And.right)]
    congr 1
    by_cases hc : c = 'Σ'
    · subst hc
      have hbefore : a = [] ∨ waitsBefore before s = false :=
        ha.imp_right fun h => by simpa using h.1
      have hbehind : b = [] ∨ waitsBehind before s = false :=
        hb.imp_right fun h => by simpa using h.1
      rw [lowerAt_sigma, lowerAt_sigma, endsWord_certain hbefore hbehind]
    · exact lowerAt_of_ne hc _ _ _ _

/-- When each sigma that waits loses a small letter to what stands around it, and no other does, the
excerpt loses as many as there are sigmas that wait. -/
theorem count_lowerBetween {waits : List Char → List Char → Bool} {d : Char}
    (hsigma : ∀ before after, (lowerAt (before ++ a) 'Σ' (after ++ b)).count d +
      (if waits before after = true then 1 else 0) = (lowerAt before 'Σ' after).count d)
    (before s : List Char) :
    (lowerBetween (before ++ a) s b).count d + sigmas waits before s =
      (lowerBetween before s []).count d := by
  induction s generalizing before with
  | nil => rfl
  | cons c s ih =>
    have hrest := ih (c :: before)
    have hhead : (lowerAt (before ++ a) c (s ++ b)).count d +
        (if c = 'Σ' ∧ waits before s = true then 1 else 0) = (lowerAt before c s).count d := by
      by_cases hc : c = 'Σ'
      · subst hc
        simpa using hsigma before s
      · rw [lowerAt_of_ne hc (before ++ a) (s ++ b) before s]
        simp [hc]
    rw [List.cons_append] at hrest
    rw [lowerBetween, lowerBetween, List.append_nil, List.count_append, List.count_append, sigmas]
    omega

theorem count_behind_letter (ha : meetsCased a = true) (before s : List Char) :
    (lowerBetween (before ++ a) s []).count 'σ' + sigmas waitsBefore before s =
      (lowerBetween before s []).count 'σ' := by
  refine count_lowerBetween (fun before after => ?_) before s
  rw [lowerAt_sigma, lowerAt_sigma, List.append_nil, endsWord_before, ha, Bool.and_true]
  cases hwait : waitsBefore before after with
  | true =>
    rw [waitsBefore, Bool.and_eq_true] at hwait
    rw [endsWord, meetsCased_of_all hwait.1, Bool.false_and]
    decide
  | false => simp

theorem count_before_letter (hb : meetsCased b = true) (before s : List Char) :
    (lowerBetween before s b).count 'ς' + sigmas waitsBehind before s =
      (lowerBetween before s []).count 'ς' := by
  have hsigma : ∀ before after, (lowerAt (before ++ []) 'Σ' (after ++ b)).count 'ς' +
      (if waitsBehind before after = true then 1 else 0) =
        (lowerAt before 'Σ' after).count 'ς' := by
    intro before after
    rw [lowerAt_sigma, lowerAt_sigma, List.append_nil, endsWord_behind, hb, Bool.and_true]
    cases hwait : waitsBehind before after with
    | true =>
      rw [waitsBehind, Bool.and_eq_true] at hwait
      rw [endsWord, hwait.1, meetsCased_of_all hwait.2]
      decide
    | false => simp
  have hcount := count_lowerBetween hsigma before s
  rwa [List.append_nil] at hcount

/-! ## Excerpts -/

/-- A text stands in another one, at its start unless the left side is open, and at its end unless
the right side is. -/
def Stands (openLeft openRight : Bool) (s text : List Char) : Prop :=
  ∃ a b, text = a ++ s ++ b ∧ (openLeft = true ∨ a = []) ∧ (openRight = true ∨ b = [])

theorem lowerChars_around (a s b : List Char) :
    lowerChars (a ++ s ++ b) =
      lowerBetween [] a (s ++ b) ++ lowerBetween a.reverse s b ++
        lowerBetween (s.reverse ++ a.reverse) b [] := by
  rw [lowerChars, List.append_assoc, lowerFrom_append, List.append_nil, lowerFrom_append,
    lowerFrom_eq_between, List.append_assoc]

theorem stands_lowerChars {openLeft openRight : Bool} (h : Settled openLeft openRight s)
    (hs : Stands openLeft openRight s t) :
    Stands openLeft openRight (lowerChars s) (lowerChars t) := by
  obtain ⟨a, b, rfl, ha, hb⟩ := hs
  have hkept : lowerBetween ([] ++ a.reverse) s b = lowerBetween [] s [] := by
    refine lowerBetween_settled ?_ ?_
    · rcases ha with ha | rfl
      · exact .inr (h.before ha)
      · exact .inl rfl
    · rcases hb with hb | rfl
      · exact .inr (h.behind hb)
      · exact .inl rfl
  rw [List.nil_append] at hkept
  refine ⟨lowerBetween [] a (s ++ b), lowerBetween (s.reverse ++ a.reverse) b [], ?_,
    ha.imp_right ?_, hb.imp_right ?_⟩
  · rw [lowerChars_around, hkept, lowerChars, lowerFrom_eq_between]
  · rintro rfl
    rfl
  · rintro rfl
    rfl

theorem lowerBetween_a (before after : List Char) : lowerBetween before ['a'] after = ['a'] := by
  have ha : lowerAt before 'a' after = lowerAt [] 'a' [] := lowerAt_of_ne (by decide) _ _ _ _
  rw [lowerBetween, lowerBetween, List.append_nil, List.nil_append, ha]
  decide +kernel

/-- Around an excerpt that is not settled there may stand a letter that takes one of its small
letters away. -/
theorem exists_count_lt {openLeft openRight : Bool} (h : ¬ Settled openLeft openRight s) :
    ∃ t d, Stands openLeft openRight s t ∧ (d = 'σ' ∨ d = 'ς') ∧
      (lowerChars t).count d < (lowerChars s).count d := by
  have hletter : meetsCased ['a'] = true := by decide +kernel
  have halone : lowerChars s = lowerBetween [] s [] := lowerFrom_eq_between [] s
  by_cases hbefore : openLeft = true → sigmas waitsBefore [] s = 0
  · have hbehind : ¬ (openRight = true → sigmas waitsBehind [] s = 0) := fun hb => h ⟨hbefore, hb⟩
    obtain ⟨hopen, hwaits⟩ := Classical.not_imp.mp hbehind
    have hcount := count_before_letter hletter [] s
    refine ⟨[] ++ s ++ ['a'], 'ς', ⟨[], ['a'], rfl, .inr rfl, .inl hopen⟩, .inr rfl, ?_⟩
    have haround : lowerChars ([] ++ s ++ ['a']) = lowerBetween [] s ['a'] ++ ['a'] := by
      rw [lowerChars_around, lowerBetween_a]
      rfl
    rw [haround, halone, List.count_append]
    have hnone : ['a'].count 'ς' = 0 := by decide
    omega
  · obtain ⟨hopen, hwaits⟩ := Classical.not_imp.mp hbefore
    have hcount := count_behind_letter hletter [] s
    refine ⟨['a'] ++ s ++ [], 'σ', ⟨['a'], [], rfl, .inl hopen, .inr rfl⟩, .inl rfl, ?_⟩
    have haround : lowerChars (['a'] ++ s ++ []) = ['a'] ++ lowerBetween ['a'] s [] := by
      rw [lowerChars_around, lowerBetween_a, lowerBetween, List.append_nil]
      rfl
    rw [haround, halone, List.count_append]
    have hnone : ['a'].count 'σ' = 0 := by decide
    rw [List.nil_append] at hcount
    omega

theorem settled_of_not_mem (openLeft openRight : Bool) (h : 'Σ' ∉ s) :
    Settled openLeft openRight s := by
  have hnone : ∀ waits before, sigmas waits before s = 0 := by
    intro waits
    induction s with
    | nil => exact fun _ => rfl
    | cons c s ih =>
      intro before
      obtain ⟨hc, hs⟩ := not_or.mp (mt List.mem_cons.mpr h)
      rw [sigmas, ih hs, if_neg fun hand => hc hand.1.symm]
  exact ⟨fun _ => hnone _ _, fun _ => hnone _ _⟩

/-! ## Ends of a text -/

section Ends

variable (hspecial : c.toNat ∈ special) (hsmall : IsSmall c)

include hspecial hsmall

theorem head?_lowerAt_of_special (d : Char) :
    (lowerAt before d after).head? = some c ↔ d = c := by
  constructor
  · intro h
    exact ((mem_lowerAt_of_special hspecial hsmall).mp (List.mem_of_head? h)).symm
  · rintro rfl
    rw [lowerAt_of_isSmall hsmall]
    rfl

theorem getLast?_lowerAt_of_special (d : Char) :
    (lowerAt before d after).getLast? = some c ↔ d = c := by
  constructor
  · intro h
    exact ((mem_lowerAt_of_special hspecial hsmall).mp (List.mem_of_getLast? h)).symm
  · rintro rfl
    rw [lowerAt_of_isSmall hsmall]
    rfl

theorem head?_lowerChars_of_special : (lowerChars s).head? = some c ↔ s.head? = some c := by
  cases s with
  | nil => rfl
  | cons d s =>
    rw [lowerChars, lowerFrom, List.head?_append_of_ne_nil _ lowerAt_ne_nil,
      head?_lowerAt_of_special hspecial hsmall, List.head?_cons, Option.some_inj]

theorem getLast?_lowerChars_of_special :
    (lowerChars s).getLast? = some c ↔ s.getLast? = some c := by
  rcases List.eq_nil_or_concat s with rfl | ⟨s, d, rfl⟩
  · rfl
  · rw [List.concat_eq_append, lowerChars, lowerFrom_append, lowerFrom, lowerFrom, List.append_nil,
      List.getLast?_append_of_ne_nil _ lowerAt_ne_nil,
      getLast?_lowerAt_of_special hspecial hsmall, List.getLast?_concat, Option.some_inj]

end Ends

end TableQuery.Text
