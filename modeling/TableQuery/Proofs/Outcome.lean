import Mathlib
import TableQuery.Fault.Message

/-!
# Outcomes

What a computation that may stop with a fault has done when it succeeds, one step at a time, and
what two lists have in common that are related item by item.
-/
namespace TableQuery.Outcome

variable {ε κ α β γ : Type}

theorem bind_ok {x : Except ε α} {f : α → Except ε β} {b : β} :
    (x >>= f) = .ok b ↔ ∃ a, x = .ok a ∧ f a = .ok b := by
  cases x <;> simp [bind, Except.bind]

theorem exists_bind_ok {x : Except ε α} {f : α → β} :
    (∃ b, (x >>= fun a => .ok (f a)) = .ok b) ↔ ∃ a, x = .ok a := by
  cases x <;> simp [bind, Except.bind]

theorem ok_bind (a : α) (f : α → Except ε β) : (Except.ok a >>= f) = f a := rfl

theorem map_ok {x : Except ε α} {f : α → β} {b : β} :
    x.map f = .ok b ↔ ∃ a, x = .ok a ∧ f a = b := by
  cases x <;> simp [Except.map]

theorem mapM_cons_ok {f : α → Except ε β} {a : α} {as : List α} {bs : List β} :
    (a :: as).mapM f = .ok bs ↔
      ∃ b cs, f a = .ok b ∧ as.mapM f = .ok cs ∧ bs = b :: cs := by
  rw [List.mapM_cons]
  constructor
  · intro h
    obtain ⟨b, hb, h⟩ := bind_ok.mp h
    obtain ⟨cs, hcs, h⟩ := bind_ok.mp h
    exact ⟨b, cs, hb, hcs, (Except.ok.inj h).symm⟩
  · rintro ⟨b, cs, hb, hcs, rfl⟩
    exact bind_ok.mpr ⟨b, hb, bind_ok.mpr ⟨cs, hcs, rfl⟩⟩

theorem mapM_ok {f : α → Except ε β} {as : List α} {bs : List β} :
    as.mapM f = .ok bs ↔ List.Forall₂ (fun a b => f a = .ok b) as bs := by
  induction as generalizing bs with
  | nil =>
    rw [List.forall₂_nil_left_iff]
    exact ⟨fun h => (Except.ok.inj h).symm, fun h => h ▸ rfl⟩
  | cons a as ih =>
    rw [mapM_cons_ok, List.forall₂_cons_left_iff]
    simp only [ih]

theorem mapM_map (f : α → Except ε β) (g : β → γ) (as : List α) :
    (as.mapM fun a => (f a).map g) = (as.mapM f).map (List.map g) := by
  induction as with
  | nil => rfl
  | cons a as ih =>
    rw [List.mapM_cons, List.mapM_cons, ih]
    cases f a with
    | error e => rfl
    | ok b => cases as.mapM f <;> rfl

/-- Results that are made up of parts: when each one has the parts that were asked for, so have all
of them in a row. -/
theorem flatMap_of_mapM {f : α → Except ε β} {parts : β → List γ} {asked : α → List (Except ε γ)}
    (hstep : ∀ a b, f a = .ok b → (parts b).map .ok = asked a) {as : List α} {bs : List β}
    (h : as.mapM f = .ok bs) : (bs.flatMap parts).map .ok = as.flatMap asked := by
  induction as generalizing bs with
  | nil =>
    obtain rfl := Except.ok.inj h
    rfl
  | cons a as ih =>
    obtain ⟨b, rest, hb, hrest, rfl⟩ := mapM_cons_ok.mp h
    rw [List.flatMap_cons, List.flatMap_cons, List.map_append, hstep a b hb, ih hrest]

variable {R : α → β → Prop} {as : List α} {bs : List β}

theorem map_eq_of_forall₂ {f : α → γ} {g : β → γ}
    (h : List.Forall₂ (fun a b => f a = g b) as bs) : as.map f = bs.map g := by
  induction h with
  | nil => rfl
  | cons hab _ ih => rw [List.map_cons, List.map_cons, hab, ih]

theorem mapM_eq_of_forall₂ {f : α → Except ε γ} {g : β → Except ε γ}
    (h : List.Forall₂ (fun a b => f a = g b) as bs) : as.mapM f = bs.mapM g := by
  induction h with
  | nil => rfl
  | cons hab _ ih => rw [List.mapM_cons, List.mapM_cons, hab, ih]

/-- A reader that accepts exactly what is written, item by item, does so in a row. -/
theorem mapM_ok_iff_map {f : α → Except ε β} {g : β → α} (h : ∀ a b, f a = .ok b ↔ a = g b) :
    as.mapM f = .ok bs ↔ as = bs.map g := by
  rw [mapM_ok]
  constructor
  · intro hall
    rw [← List.map_id as]
    exact map_eq_of_forall₂ (hall.imp fun a b hab => (h a b).mp hab)
  · rintro rfl
    rw [List.forall₂_map_left_iff, List.forall₂_same]
    exact fun b _ => (h _ b).mpr rfl

theorem forall₂_of_mem {S : α → β → Prop} (h : List.Forall₂ R as bs)
    (hstep : ∀ a ∈ as, ∀ b, R a b → S a b) : List.Forall₂ S as bs :=
  ((List.forall₂_and_left as bs).mpr ⟨hstep, h⟩).imp fun _ b hab => hab.1 b hab.2

theorem exists_of_forall₂ (h : List.Forall₂ R as bs) : ∀ a ∈ as, ∃ b ∈ bs, R a b := by
  induction h with
  | nil => simp
  | @cons a b _ _ hab _ ih =>
    refine List.forall_mem_cons.mpr ⟨⟨b, by simp, hab⟩, fun a ha => ?_⟩
    obtain ⟨b, hb, hab⟩ := ih a ha
    exact ⟨b, List.mem_cons_of_mem _ hb, hab⟩

theorem exists_of_mapM {f : α → Except ε β} (h : as.mapM f = .ok bs) :
    ∀ b ∈ bs, ∃ a ∈ as, f a = .ok b :=
  exists_of_forall₂ (mapM_ok.mp h).flip

theorem forall₂_of_exists (h : ∀ a ∈ as, ∃ b, R a b) : ∃ bs, List.Forall₂ R as bs := by
  induction as with
  | nil => exact ⟨[], .nil⟩
  | cons a as ih =>
    obtain ⟨b, hb⟩ := h a List.mem_cons_self
    obtain ⟨bs, hbs⟩ := ih fun a ha => h a (List.mem_cons_of_mem _ ha)
    exact ⟨b :: bs, .cons hb hbs⟩

theorem exists_mapM {f : α → Except ε β} :
    (∃ bs, as.mapM f = .ok bs) ↔ ∀ a ∈ as, ∃ b, f a = .ok b := by
  simp only [mapM_ok]
  exact ⟨fun ⟨_, h⟩ a ha => (exists_of_forall₂ h a ha).imp fun _ hb => hb.2, forall₂_of_exists⟩

theorem forall₂_comp {S : β → γ → Prop} {cs : List γ}
    (h : List.Forall₂ (fun a c => ∃ b, R a b ∧ S b c) as cs) :
    ∃ bs, List.Forall₂ R as bs ∧ List.Forall₂ S bs cs := by
  induction h with
  | nil => exact ⟨[], .nil, .nil⟩
  | cons hac _ ih =>
    obtain ⟨b, hab, hbc⟩ := hac
    obtain ⟨bs, has, hcs⟩ := ih
    exact ⟨b :: bs, .cons hab has, .cons hbc hcs⟩

theorem forall₂_trans {S : β → γ → Prop} {T : α → γ → Prop} {cs : List γ}
    (hstep : ∀ a b c, R a b → S b c → T a c) (hR : List.Forall₂ R as bs)
    (hS : List.Forall₂ S bs cs) : List.Forall₂ T as cs := by
  induction hR generalizing cs with
  | nil =>
    cases hS
    exact .nil
  | cons hab _ ih =>
    cases hS with
    | cons hbc hS => exact .cons (hstep _ _ _ hab hbc) (ih hS)

/-- Items with partners that have the same results have the same results in a row. -/
theorem mapM_of_partners {f : α → Except ε γ} {g : β → Except ε γ} {cs : List γ}
    (hR : List.Forall₂ R as bs) (h : as.mapM f = .ok cs)
    (hstep : ∀ a b c, R a b → f a = .ok c → g b = .ok c) : bs.mapM g = .ok cs :=
  mapM_ok.mpr (forall₂_trans (fun b a c hab ha => hstep a b c hab ha) hR.flip (mapM_ok.mp h))

theorem mapM_perm {f : α → Except ε β} {as' : List α} (horder : as.Perm as')
    (h : as.mapM f = .ok bs) : ∃ bs', as'.mapM f = .ok bs' ∧ bs.Perm bs' := by
  obtain ⟨bs', hbs', hperm⟩ := List.perm_comp_forall₂ horder.symm (mapM_ok.mp h)
  exact ⟨bs', mapM_ok.mpr hbs', hperm.symm⟩

/-- What is gathered from items in two orders, when for each of them only its own order differs. -/
theorem flatMap_perm {f : α → List γ} {g : β → List γ} {as' : List α} (horder : as.Perm as')
    (hitems : List.Forall₂ (fun a b => (f a).Perm (g b)) as' bs) :
    (as.flatMap f).Perm (bs.flatMap g) := by
  have hgathered : List.Forall₂ List.Perm (as'.map f) (bs.map g) := by
    rwa [List.forall₂_map_left_iff, List.forall₂_map_right_iff]
  apply (horder.flatMap_right f).trans
  rw [List.flatMap_def, List.flatMap_def]
  exact List.Perm.flatten_congr hgathered

theorem mapM_of_step {f : α → Except ε β} {g : α → Except ε γ} {S : β → γ → Prop}
    (hstep : ∀ a b, f a = .ok b → ∃ c, S b c ∧ g a = .ok c) (h : as.mapM f = .ok bs) :
    ∃ cs, List.Forall₂ S bs cs ∧ as.mapM g = .ok cs := by
  induction as generalizing bs with
  | nil =>
    obtain rfl := Except.ok.inj h
    exact ⟨[], .nil, rfl⟩
  | cons a as ih =>
    obtain ⟨b, rest, hb, hrest, rfl⟩ := mapM_cons_ok.mp h
    obtain ⟨c, hbc, hc⟩ := hstep a b hb
    obtain ⟨cs, hcs, hmore⟩ := ih hrest
    exact ⟨c :: cs, .cons hbc hcs, mapM_cons_ok.mpr ⟨c, cs, hc, hmore, rfl⟩⟩

theorem map_eq_of_mapM {look : α → κ} {seen : β → γ} {f g : α → Except ε β}
    (hstep : ∀ a a' b b', look a = look a' → f a = .ok b → g a' = .ok b' → seen b = seen b')
    {as as' : List α} {bs bs' : List β} (has : as.map look = as'.map look)
    (hbs : as.mapM f = .ok bs) (hbs' : as'.mapM g = .ok bs') : bs.map seen = bs'.map seen := by
  induction as generalizing as' bs bs' with
  | nil =>
    obtain rfl : as' = [] := by simpa using has.symm
    obtain rfl := Except.ok.inj hbs
    obtain rfl := Except.ok.inj hbs'
    rfl
  | cons a as ih =>
    cases as' with
    | nil => cases has
    | cons a' as' =>
      obtain ⟨ha, has⟩ := List.cons.inj has
      obtain ⟨b, rest, hb, hrest, rfl⟩ := mapM_cons_ok.mp hbs
      obtain ⟨b', rest', hb', hrest', rfl⟩ := mapM_cons_ok.mp hbs'
      rw [List.map_cons, List.map_cons, hstep a a' b b' ha hb hb', ih has hrest hrest']

def FailsOnly (P : ε → Prop) (x : Except ε α) : Prop := ∀ e, x = .error e → P e

theorem failsOnly_ok {P : ε → Prop} {a : α} : FailsOnly P (.ok a : Except ε α) := nofun

theorem failsOnly_error {P : ε → Prop} {e : ε} (h : P e) :
    FailsOnly P (.error e : Except ε α) := by
  rintro _ ⟨⟩
  exact h

theorem FailsOnly.imp {P Q : ε → Prop} {x : Except ε α} (h : FailsOnly P x)
    (hstep : ∀ e, P e → Q e) : FailsOnly Q x :=
  fun e he => hstep e (h e he)

theorem FailsOnly.bind {P : ε → Prop} {x : Except ε α} {f : α → Except ε β} (hx : FailsOnly P x)
    (hf : ∀ a, x = .ok a → FailsOnly P (f a)) : FailsOnly P (x >>= f) := by
  cases x with
  | error e => exact failsOnly_error (hx e rfl)
  | ok a => exact hf a rfl

theorem FailsOnly.map {P : ε → Prop} {x : Except ε α} {f : α → β} (hx : FailsOnly P x) :
    FailsOnly P (x.map f) := by
  cases x with
  | error e => exact failsOnly_error (hx e rfl)
  | ok a => exact failsOnly_ok

theorem FailsOnly.mapM {P : ε → Prop} {f : α → Except ε β} {as : List α}
    (hstep : ∀ a ∈ as, FailsOnly P (f a)) : FailsOnly P (as.mapM f) := by
  induction as with
  | nil => exact failsOnly_ok
  | cons a as ih =>
    rw [List.mapM_cons]
    refine (hstep a List.mem_cons_self).bind fun _ _ => ?_
    refine (ih fun a ha => hstep a (List.mem_cons_of_mem _ ha)).bind fun _ _ => ?_
    exact failsOnly_ok

section Fault

def fault? : Except ε α → Option ε
  | .ok _ => none
  | .error e => some e

def firstFault (as : List (Except ε α)) : Option ε := as.findSome? fault?

theorem fault?_eq_some {x : Except ε α} {e : ε} : fault? x = some e ↔ x = .error e := by
  cases x <;> simp [fault?]

theorem fault?_eq_none {x : Except ε α} : fault? x = none ↔ ∃ a, x = .ok a := by
  cases x <;> simp [fault?]

@[simp]
theorem fault?_map (x : Except ε α) (f : α → β) : fault? (x.map f) = fault? x := by
  cases x <;> rfl

@[simp]
theorem firstFault_append (as bs : List (Except ε α)) :
    firstFault (as ++ bs) = (firstFault as).or (firstFault bs) :=
  List.findSome?_append

@[simp]
theorem firstFault_singleton (x : Except ε α) : firstFault [x] = fault? x := by
  cases x <;> rfl

theorem firstFault_eq_some {as : List (Except ε α)} {e : ε} :
    firstFault as = some e ↔
      ∃ before after, as = before ++ .error e :: after ∧ ∀ x ∈ before, ∃ a, x = .ok a := by
  simp only [firstFault, List.findSome?_eq_some_iff, fault?_eq_some, fault?_eq_none]
  constructor
  · rintro ⟨before, _, after, hsplit, rfl, hbefore⟩
    exact ⟨before, after, hsplit, hbefore⟩
  · rintro ⟨before, after, hsplit, hbefore⟩
    exact ⟨before, _, after, hsplit, rfl, hbefore⟩

/-- The first fault of a step in a row, and the item that it fails at. -/
theorem firstFault_map_eq_some {f : α → Except ε β} {as : List α} {e : ε} :
    firstFault (as.map f) = some e ↔
      ∃ before a after, as = before ++ a :: after ∧ f a = .error e ∧
        ∀ x ∈ before, ∃ b, f x = .ok b := by
  rw [firstFault, List.findSome?_map, List.findSome?_eq_some_iff]
  simp only [Function.comp_apply, fault?_eq_some, fault?_eq_none]

theorem firstFault_isSome {as : List (Except ε α)} :
    (∃ e, firstFault as = some e) ↔ ∃ x ∈ as, ∃ e, x = .error e := by
  rw [← Option.isSome_iff_exists, firstFault, List.findSome?_isSome_iff]
  simp only [Option.isSome_iff_exists, fault?_eq_some]

theorem fault?_mapM {f : α → Except ε β} {asked : α → List (Except ε γ)} {as : List α}
    (hstep : ∀ a ∈ as, fault? (f a) = firstFault (asked a)) :
    fault? (as.mapM f) = firstFault (as.flatMap asked) := by
  induction as with
  | nil => rfl
  | cons a as ih =>
    rw [List.mapM_cons, List.flatMap_cons, firstFault_append, ← hstep a List.mem_cons_self,
      ← ih fun a ha => hstep a (List.mem_cons_of_mem _ ha)]
    cases f a with
    | error e => rfl
    | ok b => cases as.mapM f <;> rfl

theorem mapM_error {f : α → Except ε β} {as : List α} {e : ε} :
    as.mapM f = .error e ↔
      ∃ before a after, as = before ++ a :: after ∧ f a = .error e ∧
        ∀ x ∈ before, ∃ b, f x = .ok b := by
  have hstep : ∀ a ∈ as, fault? (f a) = firstFault [f a] :=
    fun a _ => (firstFault_singleton _).symm
  rw [← fault?_eq_some, fault?_mapM hstep, ← List.map_eq_flatMap, firstFault_map_eq_some]

theorem raise_ne_ok {f : TableQuery.Fault} {a : α} : f.raise ≠ .ok a := by
  unfold Fault.raise
  split <;> simp

theorem raise_bind (f : TableQuery.Fault) (g : α → Except TableQuery.Fault β) :
    (f.raise >>= g) = f.raise := by
  unfold Fault.raise
  split <;> rfl

theorem raise_map (f : TableQuery.Fault) (g : α → β) :
    (f.raise : Except TableQuery.Fault α).map g = f.raise := by
  unfold Fault.raise
  split <;> rfl

theorem malformed_ne_ok {cause : Malformed} {a : α} : cause.raise ≠ .ok a := raise_ne_ok

end Fault

end TableQuery.Outcome
