import TableQuery.Proofs.Fingerprint
import TableQuery.Proofs.Value

/-!
# Keys that are the same

Among values that can be keys, being the same is symmetric and transitive; only a number that is
none, and what holds one, is not the same as itself. Sets are paired off greedily, which finds a
pairing wherever there is one just because their items can be exchanged for what is the same. So the
two properties of values rest on both properties of their parts, and are proved together.
-/
namespace TableQuery

open Outcome

theorem Datetime.same_iff {s t : Datetime} : s.same t = true ↔
    (∃ i, s.instant? = some i ∧ t.instant? = some i) ∨ s.instant? = none ∧ s = t := by
  unfold Datetime.same
  split
  · next i j hi hj => simp [hi, hj, eq_comm]
  · next hi hj => simp [hi]
  · next hboth hneither =>
    refine iff_of_false Bool.false_ne_true ?_
    rintro (⟨i, hi, hj⟩ | ⟨hi, rfl⟩)
    · exact hboth i i hi hj
    · exact hneither hi hi

theorem Datetime.same_symm {s t : Datetime} (h : s.same t = true) : t.same s = true := by
  rcases same_iff.mp h with ⟨i, hs, ht⟩ | ⟨hs, rfl⟩
  · exact same_iff.mpr (.inl ⟨i, ht, hs⟩)
  · exact h

theorem Datetime.same_trans {r s t : Datetime} (h : r.same s = true) (h' : s.same t = true) :
    r.same t = true := by
  rcases same_iff.mp h with ⟨i, hr, hs⟩ | ⟨_, rfl⟩
  · rcases same_iff.mp h' with ⟨j, hs', ht⟩ | ⟨_, rfl⟩
    · obtain rfl := Option.some.inj (hs.symm.trans hs')
      exact same_iff.mpr (.inl ⟨i, hr, ht⟩)
    · exact h
  · exact h'

namespace Value

inductive SameBy (R : Value → Value → Prop) : Value → Value → Prop where
  | itself {v : Value} (h : v.same v = true) : SameBy R v v
  | number {v w : Value} {p : Magnitude} (hv : v.magnitude? = some p) (hw : w.magnitude? = some p)
      (hp : p.equal p = .ok true) : SameBy R v w
  | datetime {s t : Datetime} (h : s.same t = true) : SameBy R (.datetime s) (.datetime t)
  | tuple {vs ws : List Value} (h : List.Forall₂ R vs ws) : SameBy R (.tuple vs) (.tuple ws)
  | frozenset {vs us ws : List Value} (h : List.Forall₂ R vs us) (hperm : us.Perm ws) :
      SameBy R (.frozenset vs) (.frozenset ws)
  | criterion {v w : Value} {m : Option MatchMode} {c : Option Connective} (h : R v w) :
      SameBy R (.criterion v m c) (.criterion w m c)
  | comparison {v w : Value} {vs ws : List Value} {o : Operator} {folds : Bool} (h : R v w)
      (hs : List.Forall₂ R vs ws) : SameBy R (.comparison v o vs folds) (.comparison w o ws folds)
  | junction {vs ws : List Value} {how : Connective} (h : List.Forall₂ R vs ws) :
      SameBy R (.junction how vs) (.junction how ws)

variable {u v w : Value} {vs us ws : List Value} {R S : Value → Value → Prop}

theorem SameBy.imp (hstep : ∀ a b, R a b → S a b) (h : SameBy R v w) : SameBy S v w := by
  cases h with
  | itself h => exact .itself h
  | number hv hw hp => exact .number hv hw hp
  | datetime h => exact .datetime h
  | tuple h => exact .tuple (h.imp hstep)
  | frozenset h hperm => exact .frozenset (h.imp hstep) hperm
  | criterion h => exact .criterion (hstep _ _ h)
  | comparison h hs => exact .comparison (hstep _ _ h) (hs.imp hstep)
  | junction h => exact .junction (h.imp hstep)

theorem SameBy.symm (hR : ∀ a b, R a b → R b a) (h : SameBy R v w) : SameBy R w v := by
  have hflip : ∀ {vs ws : List Value}, List.Forall₂ R vs ws → List.Forall₂ R ws vs :=
    fun h => h.flip.imp fun a b hab => hR b a hab
  cases h with
  | itself h => exact .itself h
  | number hv hw hp => exact .number hw hv hp
  | datetime h => exact .datetime (Datetime.same_symm h)
  | tuple h => exact .tuple (hflip h)
  | frozenset h hperm =>
    obtain ⟨zs, hzs, hmoved⟩ := List.perm_comp_forall₂ hperm.symm (hflip h)
    exact .frozenset hzs hmoved
  | criterion h => exact .criterion (hR _ _ h)
  | comparison h hs => exact .comparison (hR _ _ h) (hflip hs)
  | junction h => exact .junction (hflip h)

theorem SameBy.trans (hR : ∀ a b c, R a b → R b c → R a c) (huv : SameBy R u v) (hvw : SameBy R v w) :
    SameBy R u w := by
  have hjoin : ∀ {us vs ws : List Value}, List.Forall₂ R us vs → List.Forall₂ R vs ws →
      List.Forall₂ R us ws := fun huv hvw => forall₂_trans hR huv hvw
  cases huv with
  | itself h => exact hvw
  | number hu hv hp =>
    cases hvw with
    | itself h => exact .number hu hv hp
    | number hv' hw hp' =>
      obtain rfl := Option.some.inj (hv.symm.trans hv')
      exact .number hu hw hp
    | _ => cases hv
  | datetime h =>
    cases hvw with
    | itself _ => exact .datetime h
    | number hv _ _ => cases hv
    | datetime h' => exact .datetime (Datetime.same_trans h h')
  | tuple h =>
    cases hvw with
    | itself _ => exact .tuple h
    | number hv _ _ => cases hv
    | tuple h' => exact .tuple (hjoin h h')
  | frozenset h hperm =>
    cases hvw with
    | itself _ => exact .frozenset h hperm
    | number hv _ _ => cases hv
    | frozenset h' hperm' =>
      obtain ⟨zs, hzs, hmoved⟩ := List.perm_comp_forall₂ hperm h'
      exact .frozenset (hjoin h hzs) (hmoved.trans hperm')
  | criterion h =>
    cases hvw with
    | itself _ => exact .criterion h
    | number hv _ _ => cases hv
    | criterion h' => exact .criterion (hR _ _ _ h h')
  | comparison h hs =>
    cases hvw with
    | itself _ => exact .comparison h hs
    | number hv _ _ => cases hv
    | comparison h' hs' => exact .comparison (hR _ _ _ h h') (hjoin hs hs')
  | junction h =>
    cases hvw with
    | itself _ => exact .junction h
    | number hv _ _ => cases hv
    | junction h' => exact .junction (hjoin h h')

section Inversion

theorem allSame_mem {as bs : List Value} (h : AllSame vs ws) (hvs : vs ⊆ as) (hws : ws ⊆ bs) :
    List.Forall₂ (fun a b => a ∈ as ∧ b ∈ bs ∧ a.same b = true) vs ws := by
  have hleft := (List.forall₂_and_left vs ws).mpr ⟨fun _ ha => hvs ha, h⟩
  have hboth := (List.forall₂_and_left ws vs).mpr ⟨fun _ hb => hws hb, hleft.flip⟩
  exact hboth.flip.imp fun a b hab => ⟨hab.2.1, hab.1, hab.2.2⟩

theorem sameBy_of_same (hv : v.isKey = true) (hw : w.isKey = true) (h : v.same w = true) :
    SameBy (fun a b => a ∈ v.keyParts ∧ b ∈ w.keyParts ∧ a.same b = true) v w := by
  have hequal := same_iff.mp h
  -- the cases are those of `equal`, in its order
  unfold equal at hequal
  split at hequal
  · exact .itself h
  · obtain rfl := of_decide_eq_true (Except.ok.inj hequal)
    exact .itself h
  · obtain rfl := of_decide_eq_true (Except.ok.inj hequal)
    exact .itself h
  · obtain rfl := of_decide_eq_true (Except.ok.inj hequal)
    exact .itself h
  · exact .datetime (Except.ok.inj hequal)
  · cases hv
  · exact .tuple (allSame_mem (equalItems_ok.mp hequal) (List.Subset.refl _) (List.Subset.refl _))
  · cases hv
  · cases hv
  · cases hw
  · obtain ⟨us, hus, hperm⟩ := exists_of_itemsPaired (Except.ok.inj hequal)
    exact .frozenset (allSame_mem hus (List.Subset.refl _) hperm.subset) hperm
  · cases hv
  · obtain rfl := of_decide_eq_true (Except.ok.inj hequal)
    exact .itself h
  · obtain rfl := of_decide_eq_true (Except.ok.inj hequal)
    exact .itself h
  · obtain rfl := of_decide_eq_true (Except.ok.inj hequal)
    exact .itself h
  · next field direction other order =>
    obtain ⟨rfl, rfl⟩ : field = other ∧ direction = order := by simpa using hequal
    exact .itself h
  · obtain ⟨r, hr, hparts⟩ := map_ok.mp hequal
    obtain ⟨⟨rfl, rfl⟩, rfl⟩ : (r = true ∧ _) ∧ _ := by simpa using hparts
    exact .criterion ⟨List.mem_cons_self, List.mem_cons_self, same_iff.mpr hr⟩
  · split at hequal
    · next hfield =>
      split at hequal
      · next ho =>
        subst ho
        obtain ⟨r, hr, hparts⟩ := map_ok.mp hequal
        obtain ⟨rfl, rfl⟩ : r = true ∧ _ := by simpa using hparts
        exact .comparison ⟨List.mem_cons_self, List.mem_cons_self, same_iff.mpr hfield⟩
          (allSame_mem (equalItems_ok.mp hr) (List.subset_cons_self _ _) (List.subset_cons_self _ _))
      · cases hequal
    · next hother => exact absurd hequal hother
  · split at hequal
    · next hhow =>
      subst hhow
      exact .junction (allSame_mem (equalItems_ok.mp hequal) (List.Subset.refl _) (List.Subset.refl _))
    · cases hequal
  · split at hequal
    · next hp hq =>
      obtain ⟨rfl, _⟩ := Magnitude.eq_of_equal hequal
      exact .number hp hq hequal
    · cases hequal

end Inversion

section Pairing

/-- Items that are the same as another's partner are the same as what that one is the same as. -/
def Exchangeable (P : Value → Prop) : Prop :=
  ∀ {a b c d : Value}, P a → P b → P c → P d →
    a.same b = true → c.same b = true → a.same d = true → c.same d = true

/-- When an item takes the partner `b` of another one in place of its own partner `u`, the other one
can take `u`. -/
theorem exists_exchanged {P : Value → Prop} (hP : Exchangeable P) {a b : Value} (ha : P a)
    (hb : P b) (hu : P u) (hau : a.same u = true) (hab : a.same b = true) (hvs : ∀ v ∈ vs, P v)
    (h : AllSame vs us) (hmem : b ∈ u :: us) :
    ∃ zs, AllSame vs zs ∧ (b :: zs).Perm (u :: us) := by
  rcases List.mem_cons.mp hmem with rfl | hmem
  · exact ⟨us, h, .refl _⟩
  · induction h with
    | nil => cases hmem
    | @cons c d vs us hcd h ih =>
      obtain ⟨hc, hvs⟩ := List.forall_mem_cons.mp hvs
      rcases List.mem_cons.mp hmem with rfl | hmem
      · exact ⟨u :: us, .cons (hP ha hb hc hu hab hcd hau) h, .swap u b us⟩
      · obtain ⟨zs, hzs, hperm⟩ := ih hvs (List.mem_cons_of_mem _ hmem) hmem
        refine ⟨d :: zs, .cons hcd hzs, ?_⟩
        exact (List.Perm.swap d b zs).trans ((hperm.cons d).trans (.swap u d us))

/-- Where there is a pairing, the greedy one is found. -/
theorem itemsPaired_of_perm {P : Value → Prop} (hP : Exchangeable P) (hvs : ∀ v ∈ vs, P v)
    (hws : ∀ w ∈ ws, P w) (h : AllSame vs us) (hperm : us.Perm ws) :
    itemsPaired vs ws = true := by
  induction vs generalizing us ws with
  | nil =>
    cases h
    rw [hperm.symm.eq_nil, itemsPaired]
    rfl
  | cons a vs ih =>
    obtain ⟨ha, hvs⟩ := List.forall_mem_cons.mp hvs
    cases h with
    | @cons _ u _ us hau h =>
      have hu : u ∈ ws := hperm.subset List.mem_cons_self
      obtain ⟨b, front, back, _, hab, rfl, herased⟩ := List.exists_of_eraseP hu hau
      have hmoved : (u :: us).Perm (b :: (front ++ back)) := hperm.trans List.perm_middle
      have hmem : b ∈ u :: us := hmoved.symm.subset List.mem_cons_self
      obtain ⟨hb, hrest⟩ := List.forall_mem_cons.mp fun w hw =>
        hws w (List.perm_middle.symm.subset hw)
      obtain ⟨zs, hzs, hexchanged⟩ := exists_exchanged hP ha hb (hws u hu) hau hab hvs h hmem
      have hpaired := ih hvs hrest hzs (hexchanged.trans hmoved).cons_inv
      rw [itemsPaired, Bool.and_eq_true]
      refine ⟨List.any_eq_true.mpr ⟨u, hu, hau⟩, ?_⟩
      show itemsPaired vs ((front ++ b :: back).eraseP a.same) = true
      rw [herased, hpaired]

end Pairing

section Keys

theorem isKey_items (h : (fingerprints? vs).isSome = true) : ∀ v ∈ vs, v.isKey = true := by
  obtain ⟨fs, hfs⟩ := Option.isSome_iff_exists.mp h
  intro v hv
  obtain ⟨f, _, hf⟩ := exists_of_forall₂ (fingerprints?_eq_some.mp hfs) v hv
  rw [isKey, hf, Option.isSome_some]

theorem isKey_of_mem_keyParts (hv : v.isKey = true) : ∀ w ∈ v.keyParts, w.isKey = true := by
  obtain ⟨f, hf⟩ := Option.isSome_iff_exists.mp hv
  cases v with
  | tuple items | frozenset items | junction _ items =>
    exact isKey_items (by rwa [isKey, fingerprint?, Option.isSome_map] at hv)
  | criterion v m c =>
    obtain ⟨p, hp, _⟩ := fingerprint?_criterion hf
    simp [keyParts, isKey, hp]
  | comparison field o operands folds =>
    obtain ⟨p, fs, hp, hfs, _⟩ := fingerprint?_comparison hf
    exact List.forall_mem_cons.mpr ⟨by rw [isKey, hp, Option.isSome_some],
      isKey_items (by rw [hfs, Option.isSome_some])⟩
  | _ =>
    intro w hw
    cases hw

def KeyWithin (n : Nat) (v : Value) : Prop := v.isKey = true ∧ sizeOf v ≤ n

def SameWithin (n : Nat) (v w : Value) : Prop :=
  KeyWithin n v ∧ KeyWithin n w ∧ v.same w = true

theorem keyWithin_parts {n : Nat} (hv : KeyWithin (n + 1) v) : ∀ w ∈ v.keyParts, KeyWithin n w := by
  intro w hw
  have hlt := sizeOf_lt_of_mem_keyParts hw
  exact ⟨isKey_of_mem_keyParts hv.1 w hw, by have := hv.2; omega⟩

variable {n : Nat}

theorem same_of_sameBy (hsymm : ∀ a b, SameWithin n a b → SameWithin n b a)
    (htrans : ∀ a b c, SameWithin n a b → SameWithin n b c → SameWithin n a c)
    (h : SameBy (SameWithin n) v w) : v.same w = true := by
  have hall : ∀ {vs ws : List Value}, List.Forall₂ (SameWithin n) vs ws → AllSame vs ws :=
    fun h => h.imp fun a b hab => hab.2.2
  cases h with
  | itself h => exact h
  | number hv hw hp => exact same_iff.mpr ((equal_of_magnitudes hv hw).trans hp)
  | datetime h => rw [same_iff, equal, h]
  | tuple h => exact same_tuple.mpr (hall h)
  | @frozenset vs us ws h hperm =>
    have hexchange : Exchangeable (KeyWithin n) := fun ha hb hc hd hab hcb had =>
      (htrans _ _ _ ⟨hc, hb, hcb⟩ (htrans _ _ _ (hsymm _ _ ⟨ha, hb, hab⟩) ⟨ha, hd, had⟩)).2.2
    have hvs : ∀ v ∈ vs, KeyWithin n v := by
      intro v hv
      obtain ⟨u, _, hvu⟩ := exists_of_forall₂ h v hv
      exact hvu.1
    have hws : ∀ w ∈ ws, KeyWithin n w := by
      intro w hw
      obtain ⟨u, _, huw⟩ := exists_of_forall₂ h.flip w (hperm.symm.subset hw)
      exact huw.2.1
    rw [same_iff, equal, itemsPaired_of_perm hexchange hvs hws (hall h) hperm]
  | criterion h => simp [same_iff, equal, same_iff.mp h.2.2, Except.map]
  | comparison h hs => simp [same_iff, equal, same_iff.mp h.2.2, equalItems_ok.mpr (hall hs), Except.map]
  | junction h => simp [same_iff, equal, equalItems_ok.mpr (hall h)]

/-- One step of the induction that both properties are proved by: parts are smaller. -/
theorem sameWithin_succ (hsymm : ∀ a b, SameWithin n a b → SameWithin n b a)
    (htrans : ∀ a b c, SameWithin n a b → SameWithin n b c → SameWithin n a c) :
    SameWithin (n + 1) v w ↔
      KeyWithin (n + 1) v ∧ KeyWithin (n + 1) w ∧ SameBy (SameWithin n) v w := by
  constructor
  · rintro ⟨hv, hw, h⟩
    refine ⟨hv, hw, (sameBy_of_same hv.1 hw.1 h).imp ?_⟩
    exact fun a b ⟨ha, hb, hab⟩ => ⟨keyWithin_parts hv a ha, keyWithin_parts hw b hb, hab⟩
  · exact fun ⟨hv, hw, h⟩ => ⟨hv, hw, same_of_sameBy hsymm htrans h⟩

theorem sameWithin_symm_trans (n : Nat) :
    (∀ a b, SameWithin n a b → SameWithin n b a) ∧
    ∀ a b c, SameWithin n a b → SameWithin n b c → SameWithin n a c := by
  induction n with
  | zero =>
    have hnone : ∀ a, ¬ KeyWithin 0 a := by
      rintro a ⟨_, ha⟩
      cases a <;> simp at ha
    exact ⟨fun a b h => absurd h.1 (hnone a), fun a b c h => absurd h.1 (hnone a)⟩
  | succ n ih =>
    obtain ⟨hsymm, htrans⟩ := ih
    simp only [sameWithin_succ hsymm htrans]
    exact ⟨fun a b ⟨ha, hb, h⟩ => ⟨hb, ha, h.symm hsymm⟩,
      fun a b c ⟨ha, _, h⟩ ⟨_, hc, h'⟩ => ⟨ha, hc, h.trans htrans h'⟩⟩

theorem same_symm (hv : v.isKey = true) (hw : w.isKey = true) (h : v.same w = true) :
    w.same v = true :=
  ((sameWithin_symm_trans (sizeOf v + sizeOf w)).1 v w
    ⟨⟨hv, by omega⟩, ⟨hw, by omega⟩, h⟩).2.2

theorem same_trans (hu : u.isKey = true) (hv : v.isKey = true) (hw : w.isKey = true)
    (huv : u.same v = true) (hvw : v.same w = true) : u.same w = true :=
  ((sameWithin_symm_trans (sizeOf u + sizeOf v + sizeOf w)).2 u v w
    ⟨⟨hu, by omega⟩, ⟨hv, by omega⟩, huv⟩ ⟨⟨hv, by omega⟩, ⟨hw, by omega⟩, hvw⟩).2.2

end Keys

end Value
end TableQuery
