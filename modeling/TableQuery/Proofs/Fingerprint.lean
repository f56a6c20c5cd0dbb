import TableQuery.Proofs.Outcome
import TableQuery.Value.Equality
import TableQuery.Value.Fingerprint

/-!
# Fingerprints of equal values

Equal values that can be keys have fingerprints that agree. The induction is on the parts that a
fingerprint is made of. Parts that stand in a row are equal one by one; those of a set are equal in
some order, and neither the mixed number of a bag nor its parts depend on the order.
-/
namespace TableQuery

open Outcome

namespace Fingerprint

variable {fs gs : List Fingerprint} {f g : Fingerprint} {lanes : List UInt64}

def Agree (fs gs : List Fingerprint) : Prop := List.Forall₂ (fun f g => f.agrees g = true) fs gs

theorem agreeAll_iff : agreeAll fs gs = true ↔ Agree fs gs := by
  unfold Agree
  induction fs generalizing gs with
  | nil => cases gs <;> simp [agreeAll]
  | cons f fs ih => cases gs <;> simp [agreeAll, ih]

theorem numbers?_eq_some :
    numbers? fs = some lanes ↔ List.Forall₂ (fun f b => f = number b) fs lanes := by
  induction fs generalizing lanes with
  | nil => cases lanes <;> simp [numbers?]
  | cons f fs ih =>
    cases f with
    | number b => cases lanes <;> simp [numbers?, ih, and_comm]
    | _ => cases lanes <;> simp [numbers?]

theorem eq_of_agrees_number {b : UInt64} : (number b).agrees g = true ↔ g = number b := by
  cases g <;> simp [agrees, eq_comm]

theorem numbers?_of_agree (h : Agree fs gs) : numbers? fs = numbers? gs := by
  induction h with
  | nil => rfl
  | @cons f g fs gs hfg _ ih =>
    cases f with
    | number b =>
      rw [eq_of_agrees_number.mp hfg, numbers?, numbers?, ih]
    | _ => cases g <;> simp_all [agrees, numbers?]

theorem agrees_ofRow (h : Agree fs gs) : (ofRow fs).agrees (ofRow gs) = true := by
  unfold ofRow
  rw [← numbers?_of_agree h]
  cases numbers? fs with
  | none => exact agreeAll_iff.mpr h
  | some lanes => simp [agrees]

theorem ofRow_of_mem (hf : f ∈ fs) (h : ∀ b, f ≠ number b) : ofRow fs = row fs := by
  unfold ofRow
  split
  · next lanes hlanes =>
    obtain ⟨b, _, hb⟩ := exists_of_forall₂ (numbers?_eq_some.mp hlanes) f hf
    exact absurd hb (h b)
  · rfl

theorem ofRow_of_row (gs : List Fingerprint) (h : row gs ∈ fs) : ofRow fs = row fs :=
  ofRow_of_mem h fun b hb => by cases hb

theorem agree_of_rows (h : (row fs).agrees (row gs) = true) : Agree fs gs := agreeAll_iff.mp h

theorem mixBag_of_perm {members others : List UInt64} (h : members.Perm others) :
    mixBag members = mixBag others := by
  have hjoined : members.foldl (fun (mixed bits : UInt64) => mixed ^^^ spread bits) 0 =
      others.foldl (fun (mixed bits : UInt64) => mixed ^^^ spread bits) 0 := by
    refine h.foldl_eq' (fun a _ b _ mixed => ?_) 0
    rw [UInt64.xor_assoc, UInt64.xor_assoc, UInt64.xor_comm (spread a)]
  simp only [mixBag, hjoined, h.length_eq]

theorem numbers?_of_perm (h : fs.Perm gs) (hlanes : numbers? gs = some lanes) :
    ∃ members, numbers? fs = some members ∧ members.Perm lanes := by
  obtain ⟨members, hmembers, hperm⟩ := List.perm_comp_forall₂ h (numbers?_eq_some.mp hlanes)
  exact ⟨members, numbers?_eq_some.mpr hmembers, hperm⟩

theorem agreeInAnOrder_of_perm {hs : List Fingerprint} (h : Agree fs hs) (hperm : hs.Perm gs) :
    agreeInAnOrder fs gs = true := by
  induction h generalizing gs with
  | nil =>
    rw [hperm.symm.eq_nil]
    rfl
  | @cons f g fs hs hfg _ ih =>
    obtain ⟨i, hi, hg⟩ := List.mem_iff_getElem.mp (hperm.subset List.mem_cons_self)
    have hrest : hs.Perm (gs.eraseIdx i) := by
      refine List.Perm.cons_inv (hperm.trans ?_) (a := g)
      rw [← hg]
      exact (List.getElem_cons_eraseIdx_perm hi).symm
    rw [agreeInAnOrder, List.any_eq_true]
    refine ⟨i, List.mem_range.mpr hi, ?_⟩
    rw [List.getElem?_eq_getElem hi, hg, Option.any_some, hfg, ih hrest, Bool.and_self]

theorem agrees_ofBag {hs : List Fingerprint} (h : Agree fs hs) (hperm : hs.Perm gs) :
    (ofBag fs).agrees (ofBag gs) = true := by
  unfold ofBag
  rw [numbers?_of_agree h]
  cases hlanes : numbers? gs with
  | some lanes =>
    obtain ⟨members, hmembers, hmixed⟩ := numbers?_of_perm hperm hlanes
    rw [hmembers]
    simp [agrees, mixBag_of_perm hmixed]
  | none =>
    cases hmembers : numbers? hs with
    | some members =>
      obtain ⟨_, hsome, _⟩ := numbers?_of_perm hperm.symm hmembers
      rw [hlanes] at hsome
      cases hsome
    | none => exact agreeInAnOrder_of_perm h hperm

theorem agrees_ofBytes (bytes : List Nat) : (ofBytes bytes).agrees (ofBytes bytes) = true := by
  unfold ofBytes
  split <;> simp [ofResidue, agrees]

theorem agrees_ofText (text : List Char) : (ofText text).agrees (ofText text) = true :=
  agrees_ofBytes _

theorem agrees_ofLabel? (label : Option String) :
    (ofLabel? label).agrees (ofLabel? label) = true := by
  cases label with
  | none => rfl
  | some label => exact agrees_ofText _

theorem label_ne_number (m : Option MatchMode) (b : UInt64) :
    ofLabel? (m.map MatchMode.label) ≠ number b := by
  cases m with
  | none => exact fun h => by cases h
  | some m => cases m <;> exact fun h => by cases h

theorem ofText_of_narrow {text : List Char} (h : ∀ c ∈ text, c.toNat < 256) :
    ofText text = ofBytes (text.map Char.toNat) := by
  have hcodes : ∀ n ∈ text.map Char.toNat, n < 256 := List.forall_mem_map.mpr h
  have hgreatest : (text.map Char.toNat).foldl max 0 < 256 :=
    List.foldlRecOn (text.map Char.toNat) max (motive := (· < 256)) (by decide)
      fun m hm n hn => max_lt hm (hcodes n hn)
  have hbytes : (text.map Char.toNat).flatMap (lowBytes 1) = text.map Char.toNat := by
    calc (text.map Char.toNat).flatMap (lowBytes 1)
        = (text.map Char.toNat).map (· % 256) := List.flatMap_pure_eq_map _ _
      _ = (text.map Char.toNat).map id :=
          List.map_congr_left fun n hn => Nat.mod_eq_of_lt (hcodes n hn)
      _ = text.map Char.toNat := List.map_id _
  simp only [ofText, if_pos hgreatest, hbytes]

theorem eq_of_agrees_ofBytes {bytes others : List Nat}
    (h : (ofBytes bytes).agrees (ofBytes others) = true) : bytes = others := by
  unfold ofBytes at h
  split at h <;> split at h <;> simp_all [agrees, ofResidue]

theorem agrees_ofResidue (n : Int) : (ofResidue n).agrees (ofResidue n) = true := by
  simp [ofResidue, agrees]

theorem agrees_ofInt (n : Int) : (ofInt n).agrees (ofInt n) = true := agrees_ofResidue _

theorem agrees_ofBool (b : Bool) : (ofBool b).agrees (ofBool b) = true := agrees_ofResidue _

theorem agrees_ofDatetime (t : Datetime) : (ofDatetime t).agrees (ofDatetime t) = true := by
  unfold ofDatetime
  split
  · exact agrees_ofBytes _
  · exact agrees_ofRow
      (.cons (agrees_ofInt _) (.cons (agrees_ofInt _) (.cons (agrees_ofInt _) .nil)))

theorem ofDatetime_of_same {s t : Datetime} (h : s.same t = true) :
    ofDatetime s = ofDatetime t := by
  unfold Datetime.same at h
  split at h
  · next i j hi hj =>
    obtain rfl := of_decide_eq_true h
    rw [ofDatetime, ofDatetime, hi, hj]
  · rw [of_decide_eq_true h]
  · cases h

theorem agrees_sortKey (field : String) (direction : Option Int) :
    (ofRow [ofText field.toList, (direction.map ofInt).getD nothing]).agrees
      (ofRow [ofText field.toList, (direction.map ofInt).getD nothing]) = true := by
  refine agrees_ofRow (.cons (agrees_ofText _) (.cons ?_ .nil))
  cases direction with
  | none => rfl
  | some n => exact agrees_ofInt n

end Fingerprint

namespace Value

open Fingerprint

def AllSame (vs ws : List Value) : Prop := List.Forall₂ (fun v w => v.same w = true) vs ws

inductive Alike : Value → Value → Prop where
  | plain {v w : Value} {f : Fingerprint} (hv : v.fingerprint? = some f)
      (hw : w.fingerprint? = some f) (hf : f.agrees f = true) : Alike v w
  | tuple {vs ws : List Value} (h : AllSame vs ws) : Alike (.tuple vs) (.tuple ws)
  | frozenset {vs us ws : List Value} (h : AllSame vs us) (hperm : us.Perm ws) :
      Alike (.frozenset vs) (.frozenset ws)
  | criterion {v w : Value} {m : Option MatchMode} {c : Option Connective} (h : v.same w = true) :
      Alike (.criterion v m c) (.criterion w m c)
  | comparison {v w : Value} {vs ws : List Value} {o : Operator} {folds : Bool}
      (h : v.same w = true) (hs : AllSame vs ws) :
      Alike (.comparison v o vs folds) (.comparison w o ws folds)
  | junction {vs ws : List Value} {how : Connective} (h : AllSame vs ws) :
      Alike (.junction how vs) (.junction how ws)
  | noKey {v w : Value} (h : v.fingerprint? = none ∨ w.fingerprint? = none) : Alike v w

variable {v w : Value} {vs ws : List Value} {f g : Fingerprint} {fs gs : List Fingerprint}

theorem same_iff : v.same w = true ↔ v.equal w = .ok true := by
  unfold same
  cases v.equal w <;> simp

theorem equalItems_ok : equalItems vs ws = .ok true ↔ AllSame vs ws := by
  unfold AllSame
  induction vs generalizing ws with
  | nil => cases ws <;> simp [equalItems]
  | cons v vs ih =>
    cases ws with
    | nil => simp [equalItems]
    | cons w ws =>
      rw [equalItems, List.forall₂_cons, same_iff, ← ih]
      split
      · next h => simp [h]
      · next h => exact iff_of_false h fun hboth => h hboth.1

theorem same_int (n : Int) : (int n).same (int n) = true := by
  simp only [same_iff, equal, magnitude?, Magnitude.scaled]
  split <;> simp [Magnitude.equal]

theorem same_sortKey (field : String) (direction : Option Int) :
    (sortKey field direction).same (sortKey field direction) = true := by
  simp [same, equal]

theorem same_tuple : (tuple vs).same (tuple ws) = true ↔ AllSame vs ws := by
  rw [same_iff, equal, equalItems_ok]

/-- Items are paired off with equal ones, each with another. -/
theorem exists_of_itemsPaired (h : itemsPaired vs ws = true) :
    ∃ us, AllSame vs us ∧ us.Perm ws := by
  induction vs generalizing ws with
  | nil =>
    rw [itemsPaired, List.isEmpty_iff] at h
    exact ⟨[], .nil, h ▸ .refl []⟩
  | cons v vs ih =>
    rw [itemsPaired, Bool.and_eq_true] at h
    have hfound : ws.any v.same = true := h.1
    have hrest : itemsPaired vs (ws.eraseP v.same) = true := h.2
    obtain ⟨w, hw, hsame⟩ := List.any_eq_true.mp hfound
    obtain ⟨u, front, back, _, hu, hws, herased⟩ := List.exists_of_eraseP hw hsame
    obtain ⟨us, hus, hperm⟩ := ih hrest
    refine ⟨u :: us, .cons hu hus, ?_⟩
    rw [herased] at hperm
    rw [hws]
    exact (hperm.cons u).trans List.perm_middle.symm

theorem fingerprints?_eq_some :
    fingerprints? vs = some fs ↔ List.Forall₂ (fun v f => v.fingerprint? = some f) vs fs := by
  induction vs generalizing fs with
  | nil => cases fs <;> simp [fingerprints?]
  | cons v vs ih =>
    cases fs with
    | nil => rw [fingerprints?]; split <;> simp
    | cons f fs =>
      rw [fingerprints?, List.forall₂_cons, ← ih]
      split <;> simp_all

theorem fingerprint?_of_magnitude {p : Magnitude} (h : v.magnitude? = some p) :
    v.fingerprint? = p.fingerprint? := by
  cases v <;> simp_all [magnitude?, fingerprint?]

/-- Numbers that are equal are one number, and neither signals. -/
theorem Magnitude.eq_of_equal {p q : Magnitude} (h : p.equal q = .ok true) :
    p = q ∧ ∃ bits, p.fingerprint? = some (.number bits) := by
  cases p with
  | finite c e =>
    cases q with
    | finite d f =>
      obtain ⟨rfl, rfl⟩ : c = d ∧ e = f := by simpa [Magnitude.equal] using h
      exact ⟨rfl, _, rfl⟩
    | _ => cases h
  | infinite s =>
    cases q with
    | infinite t =>
      obtain rfl : s = t := by simpa [Magnitude.equal] using h
      cases s <;> exact ⟨rfl, _, rfl⟩
    | _ => cases h
  | notANumber => cases q <;> cases h
  | signal => cases h

theorem alike_of_magnitudes {p q : Magnitude} (hv : v.magnitude? = some p)
    (hw : w.magnitude? = some q) (h : p.equal q = .ok true) : Alike v w := by
  obtain ⟨rfl, bits, hbits⟩ := Magnitude.eq_of_equal h
  exact .plain ((fingerprint?_of_magnitude hv).trans hbits)
    ((fingerprint?_of_magnitude hw).trans hbits) (by simp [agrees])

theorem alike_of_equal (h : v.equal w = .ok true) : Alike v w := by
  -- the cases are those of `equal`, in its order
  unfold equal at h
  split at h
  · exact .plain rfl rfl rfl
  · obtain rfl := of_decide_eq_true (Except.ok.inj h)
    exact .plain rfl rfl (agrees_ofText _)
  · obtain rfl := of_decide_eq_true (Except.ok.inj h)
    exact .plain rfl rfl (agrees_ofBytes _)
  · obtain rfl := of_decide_eq_true (Except.ok.inj h)
    exact .plain rfl rfl (agrees_ofBytes _)
  · next s t =>
    have hsame := ofDatetime_of_same (Except.ok.inj h)
    exact .plain rfl (congrArg some hsame.symm) (agrees_ofDatetime s)
  · exact .noKey (.inl rfl)
  · exact .tuple (equalItems_ok.mp h)
  · exact .noKey (.inl rfl)
  · exact .noKey (.inl rfl)
  · exact .noKey (.inr rfl)
  · obtain ⟨us, hus, hperm⟩ := exists_of_itemsPaired (Except.ok.inj h)
    exact .frozenset hus hperm
  · exact .noKey (.inl rfl)
  · obtain rfl := of_decide_eq_true (Except.ok.inj h)
    exact .plain rfl rfl (agrees_ofText _)
  · obtain rfl := of_decide_eq_true (Except.ok.inj h)
    exact .plain rfl rfl (agrees_ofText _)
  · obtain rfl := of_decide_eq_true (Except.ok.inj h)
    exact .plain rfl rfl (agrees_ofText _)
  · next field direction other order =>
    obtain ⟨rfl, rfl⟩ : field = other ∧ direction = order := by simpa using h
    exact .plain rfl rfl (agrees_sortKey _ _)
  · obtain ⟨r, hr, hparts⟩ := map_ok.mp h
    obtain ⟨⟨rfl, rfl⟩, rfl⟩ : (r = true ∧ _) ∧ _ := by simpa using hparts
    exact .criterion (same_iff.mpr hr)
  · split at h
    · next hfield =>
      split at h
      · next ho =>
        subst ho
        obtain ⟨r, hr, hparts⟩ := map_ok.mp h
        obtain ⟨rfl, rfl⟩ : r = true ∧ _ := by simpa using hparts
        exact .comparison (same_iff.mpr hfield) (equalItems_ok.mp hr)
      · cases h
    · next hother => exact absurd h hother
  · split at h
    · next hhow =>
      subst hhow
      exact .junction (equalItems_ok.mp h)
    · cases h
  · split at h
    · next hp hq => exact alike_of_magnitudes hp hq h
    · cases h

def keyParts : Value → List Value
  | tuple items | frozenset items | junction _ items => items
  | criterion v _ _ => [v]
  | comparison field _ operands _ => field :: operands
  | _ => []

theorem sizeOf_lt_of_mem_keyParts (h : w ∈ v.keyParts) : sizeOf w < sizeOf v := by
  cases v with
  | tuple items | frozenset items | junction _ items =>
    have hlt := List.sizeOf_lt_of_mem (show w ∈ items from h)
    simp only [tuple.sizeOf_spec, frozenset.sizeOf_spec, junction.sizeOf_spec]
    omega
  | criterion v _ _ =>
    rw [List.mem_singleton.mp h, criterion.sizeOf_spec]
    omega
  | comparison field _ operands _ =>
    rw [comparison.sizeOf_spec]
    rcases List.mem_cons.mp h with rfl | h
    · omega
    · have hlt := List.sizeOf_lt_of_mem h
      omega
  | _ => cases h

theorem keyParts_induction {P : Value → Prop} (step : ∀ v, (∀ w ∈ v.keyParts, P w) → P v)
    (v : Value) : P v :=
  step v fun w _ => keyParts_induction step w
termination_by sizeOf v
decreasing_by exact sizeOf_lt_of_mem_keyParts ‹_›

def Consistent (v : Value) : Prop :=
  ∀ w f g, v.same w = true → v.fingerprint? = some f → w.fingerprint? = some g → f.agrees g = true

theorem agree_of_allSame (hfound : ∀ v ∈ vs, v.Consistent) (h : AllSame vs ws)
    (hfs : fingerprints? vs = some fs) (hgs : fingerprints? ws = some gs) : Agree fs gs := by
  rw [fingerprints?_eq_some] at hfs hgs
  induction h generalizing fs gs with
  | nil =>
    cases hfs
    cases hgs
    exact .nil
  | cons hsame _ ih =>
    obtain ⟨hv, hvs⟩ := List.forall_mem_cons.mp hfound
    cases hfs with
    | cons hf hfs =>
      cases hgs with
      | cons hg hgs => exact .cons (hv _ _ _ hsame hf hg) (ih hvs hfs hgs)

theorem fingerprint?_tuple (h : (tuple vs).fingerprint? = some f) :
    ∃ fs, fingerprints? vs = some fs ∧ f = ofRow fs := by
  rw [fingerprint?, Option.map_eq_some_iff] at h
  obtain ⟨fs, hfs, rfl⟩ := h
  exact ⟨fs, hfs, rfl⟩

theorem fingerprint?_criterion {m : Option MatchMode} {c : Option Connective}
    (h : (criterion v m c).fingerprint? = some f) :
    ∃ p, v.fingerprint? = some p ∧
      f = ofRow [p, ofLabel? (m.map MatchMode.label), ofLabel? (c.map Connective.label)] := by
  rw [fingerprint?, Option.map_eq_some_iff] at h
  obtain ⟨p, hp, rfl⟩ := h
  exact ⟨p, hp, rfl⟩

theorem fingerprint?_comparison {o : Operator} {folds : Bool}
    (h : (comparison v o vs folds).fingerprint? = some f) :
    ∃ p fs, v.fingerprint? = some p ∧ fingerprints? vs = some fs ∧
      f = ofRow [p, ofLabel o.label, ofRow fs, ofBool folds] := by
  rw [fingerprint?] at h
  split at h
  · next p fs hp hfs => exact ⟨p, fs, hp, hfs, (Option.some.inj h).symm⟩
  · cases h

theorem agrees_of_alike (hfound : ∀ u ∈ v.keyParts, u.Consistent) (h : Alike v w)
    (hf : v.fingerprint? = some f) (hg : w.fingerprint? = some g) : f.agrees g = true := by
  cases h with
  | plain hv hw hsame =>
    obtain rfl := Option.some.inj (hv.symm.trans hf)
    obtain rfl := Option.some.inj (hw.symm.trans hg)
    exact hsame
  | tuple h =>
    obtain ⟨fs, hfs, rfl⟩ := fingerprint?_tuple hf
    obtain ⟨gs, hgs, rfl⟩ := fingerprint?_tuple hg
    exact agrees_ofRow (agree_of_allSame hfound h hfs hgs)
  | frozenset h hperm =>
    rw [fingerprint?, Option.map_eq_some_iff] at hf hg
    obtain ⟨fs, hfs, rfl⟩ := hf
    obtain ⟨gs, hgs, rfl⟩ := hg
    obtain ⟨hs, hhs, hmoved⟩ := List.perm_comp_forall₂ hperm (fingerprints?_eq_some.mp hgs)
    have hus := fingerprints?_eq_some.mpr hhs
    exact agrees_ofBag (agree_of_allSame hfound h hfs hus) hmoved
  | criterion h =>
    obtain ⟨p, hp, rfl⟩ := fingerprint?_criterion hf
    obtain ⟨q, hq, rfl⟩ := fingerprint?_criterion hg
    have hpq := hfound _ List.mem_cons_self _ p q h hp hq
    exact agrees_ofRow (.cons hpq (.cons (agrees_ofLabel? _) (.cons (agrees_ofLabel? _) .nil)))
  | comparison h hs =>
    obtain ⟨p, fs, hp, hfs, rfl⟩ := fingerprint?_comparison hf
    obtain ⟨q, gs, hq, hgs, rfl⟩ := fingerprint?_comparison hg
    obtain ⟨hfield, hoperands⟩ := List.forall_mem_cons.mp hfound
    have hpq := hfield _ p q h hp hq
    have hrow := agrees_ofRow (agree_of_allSame hoperands hs hfs hgs)
    exact agrees_ofRow
      (.cons hpq (.cons (agrees_ofText _) (.cons hrow (.cons (agrees_ofBool _) .nil))))
  | junction h =>
    rw [fingerprint?, Option.map_eq_some_iff] at hf hg
    obtain ⟨fs, hfs, rfl⟩ := hf
    obtain ⟨gs, hgs, rfl⟩ := hg
    have hparts := agrees_ofRow (agree_of_allSame hfound h hfs hgs)
    exact agrees_ofRow (.cons (agrees_ofText _) (.cons hparts .nil))
  | noKey h =>
    rcases h with h | h
    · cases h.symm.trans hf
    · cases h.symm.trans hg

theorem agrees_of_same (h : v.same w = true) (hf : v.fingerprint? = some f)
    (hg : w.fingerprint? = some g) : f.agrees g = true := by
  have hall : ∀ v : Value, v.Consistent := keyParts_induction fun v hfound w f g hsame hf hg =>
    agrees_of_alike hfound (alike_of_equal (same_iff.mp hsame)) hf hg
  exact hall v w f g h hf hg

end Value

end TableQuery
