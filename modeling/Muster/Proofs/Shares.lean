import Muster.Proofs.Entitlement
import Muster.Proofs.Exchange
import Muster.Proofs.Sizes

/-!
# Shares

How many models carry a selection once an option for one model in every `n` has been applied. The
option entitles to a share of the squad, of which the models that other groups have taken through it
are gone. The group that carries the selection is brought to what is left of the share, as far as it
and the lead group have models for that. It grows, or it shrinks where the squad has become smaller,
and it may have been there before, set apart by another option. However that is, the option counts
no more models afterwards than its share.

The group is then found where it was put, and it has what it is to have, or the lead group is empty.
So the option changes nothing when it is applied again.
-/

namespace Muster.Squad

variable {x : Codex} {s s' : Squad} {g : Group} {t : Sheet}

/-! ## The group that models move to -/

/-- The place of a group among the others: that of the one equipped like it, or behind all. -/
def placeOf (s : Squad) (g : Group) : Nat := (s.existing? g).getD s.others.length

/-- A group that models move to is found in its place, and those besides it stay as they are. -/
theorem exists_others_regroup (hmanned : ∀ g ∈ s.others, 0 < g.count) (leadCount : Nat)
    {count : Nat} (hpos : 0 < count) :
    ∃ k, (s.regroup (s.existing? g) g leadCount count).others[s.placeOf g]? = some k ∧
      k.look s.gear = g.look s.gear ∧ k.count = count ∧
      (s.regroup (s.existing? g) g leadCount count).others.eraseIdx (s.placeOf g) =
        s.besides (s.existing? g) := by
  unfold placeOf
  cases h : s.existing? g with
  | none =>
    refine ⟨{ g with count }, ?_, rfl, rfl, ?_⟩
    all_goals rw [others_regroup_none hmanned leadCount hpos]
    · simp
    · simp [besides, List.eraseIdx_append_of_length_le]
  | some i =>
    obtain ⟨hi, hlike, -⟩ := List.findIdx?_eq_some_iff_getElem.mp h
    refine ⟨{ s.others[i] with count }, ?_, Group.equippedLike_iff.mp hlike, rfl, ?_⟩
    all_goals rw [others_regroup_some hmanned leadCount hi hpos]
    · simp [hi]
    · simp [besides, List.eraseIdx_set_eq]

/-- It is found in its place from then on. -/
theorem existing?_regroup (hmanned : ∀ g ∈ s.others, 0 < g.count) (leadCount : Nat) {count : Nat}
    (hpos : 0 < count) :
    (s.regroup (s.existing? g) g leadCount count).existing? g = some (s.placeOf g) := by
  have hgear (existing : Option Nat) : (s.regroup existing g leadCount count).gear = s.gear := rfl
  rw [existing?_eq_findIdx?, hgear, placeOf]
  -- the number of models makes no difference to what a group looks like
  cases h : s.existing? g with
  | none =>
    have hlook : Group.look s.gear { g with count } = g.look s.gear := rfl
    rw [others_regroup_none hmanned leadCount hpos, List.map_append, List.findIdx?_append,
      ← existing?_eq_findIdx?, h, List.map_singleton, hlook]
    simp
  | some i =>
    obtain ⟨hi, -, -⟩ := List.findIdx?_eq_some_iff_getElem.mp h
    have hlooks : i < (s.others.map (Group.look s.gear)).length := by rwa [List.length_map]
    have hlook : Group.look s.gear { s.others[i] with count } =
        (s.others.map (Group.look s.gear))[i] := (List.getElem_map (Group.look s.gear)).symm
    rw [others_regroup_some hmanned leadCount hi hpos, List.map_set, hlook,
      List.set_getElem_self, ← existing?_eq_findIdx?, h]
    rfl

/-- A group that looks like models that take the selection is of the lead group's type and carries
what they do. -/
theorem LeadPlain.of_look_eq_variant (h : s.LeadPlain)
    (hlook : g.look s.gear = (s.variant t).look s.gear) :
    g.kind = s.lead.kind ∧
      (g.loadout s.gear).agrees (s.gear.dropAll t.gear ++ t.selected) = true := by
  have hkind : g.kind = (s.variant t).kind := congrArg Prod.fst hlook
  have hbag : (g.loadout s.gear).bag = ((s.variant t).loadout s.gear).bag :=
    congrArg Prod.snd hlook
  rw [h.variant_eq] at hkind
  rw [h.loadout_variant] at hbag
  exact ⟨hkind, Loadout.agrees_iff.mpr hbag⟩

/-- Once models have moved, an option counts those that it counted in the other groups, and at most
the group that they have moved to. -/
theorem carvedBy_regroup_le (s : Squad) (t : Sheet) (g : Group) (leadCount count : Nat) :
    (s.regroup (s.existing? g) g leadCount count).carvedBy t none ≤
      count + s.carvedBy t (s.existing? g) := by
  obtain ⟨k, -, -, hperm⟩ := others_regroup_perm s g leadCount count
  have hcounts : (s.regroup (s.existing? g) g leadCount count).counts t = s.counts t := rfl
  rw [carvedBy_eq, carvedBy_eq, hcounts]
  change headcount (List.filter _ (s.regroup (s.existing? g) g leadCount count).others) ≤ _
  rw [headcount_eq_of_perm (hperm.filter _), List.filter_comm, headcount_filter, List.filter_cons]
  split
  · exact Nat.le_refl _
  · exact Nat.le_add_left _ _

/-! ## The law -/

/-- An option for a number of models asks for what is left of its share. -/
theorem target_eq_of_modelsPer {existing : Option Nat} {current target : Nat}
    (hper : 1 < t.offer.modelsPer) (h : s.target t existing current = .ok target) :
    s.carvedBy t existing < s.size / t.offer.modelsPer ∧
      target = s.size / t.offer.modelsPer - s.carvedBy t existing := by
  unfold Squad.target at h
  rw [Offer.perModel_eq_false hper, if_neg Bool.false_ne_true] at h
  dsimp only at h
  split at h
  · cases h
  · next hleft =>
    cases h
    exact ⟨Nat.not_le.mp hleft, rfl⟩

/-- Where carving changes the squad, the group that carries the selection is brought to what is left
of the share as far as there are models, and some there are. -/
theorem carved_share (hper : 1 < t.offer.modelsPer) {existing : Option Nat}
    (hexisting : existing = s.existing? (s.variant t)) (h : Carved s t s') (hchanged : s' ≠ s) :
    s.carvedBy t existing < s.size / t.offer.modelsPer ∧
      0 < s.currentCount existing + s.lead.count ∧
      ∃ leadCount, s' = s.regroup existing (s.variant t) leadCount
        (min (s.size / t.offer.modelsPer - s.carvedBy t existing)
          (s.currentCount existing + s.lead.count)) := by
  cases h with
  | kept => exact absurd rfl hchanged
  | @regrouped existing' current target moved returned _ hexisting' hcurrent htarget hmoved
      hreturned hsome =>
    obtain rfl : existing' = existing := hexisting'.trans hexisting.symm
    obtain ⟨hleft, htarget⟩ := target_eq_of_modelsPer hper htarget
    have hcount : current + moved - returned =
        min (s.size / t.offer.modelsPer - s.carvedBy t existing')
          (s.currentCount existing' + s.lead.count) := by
      omega
    exact ⟨hleft, by omega, _, by rw [hcount]⟩

/-- Where an option for a number of models changes the squad, the group that carries the selection
is brought to what is left of the share, as far as it and the lead group have models, and the groups
besides it stay as they are. The option then counts no more models than its share. -/
theorem equip_share (h : Reachable x s) (hper : 1 < t.offer.modelsPer)
    (hok : s.perform (equip t) = (s', .ok ())) (hchanged : s' ≠ s) :
    let existing := s.existing? (s.variant t)
    let place := s.placeOf (s.variant t)
    let share := s.size / t.offer.modelsPer
    let taken := s.carvedBy t existing
    taken < share ∧
      (∃ k, s'.others[place]? = some k ∧ k.kind = s.lead.kind ∧
        (k.loadout s'.gear).agrees (s.gear.dropAll t.gear ++ t.selected) = true ∧
        k.count = min (share - taken) (s.currentCount existing + s.lead.count)) ∧
      s'.others.eraseIdx place = s.besides existing ∧
      s'.size = s.size ∧ s'.carvedBy t none ≤ share := by
  intro existing place share taken
  obtain ⟨role, unit, u, -, hstanding⟩ := h.standing
  have hequipped := (equipped_of_ok hok).2
  have hsize := size_of_equipped hstanding.manned h.leadPlain hequipped
  cases hequipped with
  | unpicked => exact absurd rfl hchanged
  | whole _ hwhole => exact absurd (.inl hper) hwhole
  | apart _ _ hcarve =>
    obtain ⟨hleft, hsome, leadCount, rfl⟩ :=
      carved_share hper rfl (carved_of_ok hcarve) (h.upToDate.ne_of_refresh_ne hchanged)
    have hpos : 0 < min (share - taken) (s.currentCount existing + s.lead.count) :=
      Nat.lt_min.mpr ⟨Nat.sub_pos_of_lt hleft, hsome⟩
    obtain ⟨k, hk, hlook, hcount, hbesides⟩ :=
      exists_others_regroup hstanding.manned leadCount hpos
    obtain ⟨hkind, hloadout⟩ := h.leadPlain.of_look_eq_variant hlook
    refine ⟨hleft, ⟨k, hk, hkind, hloadout, hcount⟩, hbesides, hsize, ?_⟩
    have hle := carvedBy_regroup_le s t (s.variant t) leadCount
      (min (share - taken) (s.currentCount existing + s.lead.count))
    have hmin := Nat.min_le_left (share - taken) (s.currentCount existing + s.lead.count)
    calc
      _ ≤ min (share - taken) (s.currentCount existing + s.lead.count) + taken := hle
      _ ≤ share - taken + taken := Nat.add_le_add_right hmin taken
      _ = share := Nat.sub_add_cancel hleft.le

/-- Of eight guards two have taken a bow each while there were four. Two of the four that eight
guards entitle to are left for guards with two bows each. -/
theorem equip_share_guards :
    let s := { Guards.squad ["Axe"] [Guards.axe] 6 108 with
      others := [⟨"Guards", 2, 10, [Guards.bow], [Guards.axe], none⟩] }
    let t := Guards.sheet [⟨1, 2⟩]
    Reachable (Guards.codex ["Axe"]) s ∧ s.carvedBy t (s.existing? (s.variant t)) = 2 ∧
      ∃ s', s.perform (equip t) = (s', .ok ()) ∧ s' ≠ s ∧
        (∃ k, s'.others[1]? = some k ∧ k.count = 2) ∧ s'.size = 8 ∧ s'.carvedBy t none ≤ 4 := by
  intro s t
  have hreach : Reachable (Guards.codex ["Axe"]) s :=
    ⟨.troops, "Guards", Guards.squad ["Axe"] [Guards.axe] 1 13,
      [.resize 4, .equip (Guards.sheet [⟨1, 1⟩]), .resize 8],
      by with_unfolding_all rfl, by with_unfolding_all rfl⟩
  have htaken : s.carvedBy t (s.existing? (s.variant t)) = 2 := by with_unfolding_all rfl
  let s' := { Guards.squad ["Axe"] [Guards.axe] 4 122 with
    others := [⟨"Guards", 2, 10, [Guards.bow], [Guards.axe], none⟩,
      ⟨"Guards", 2, 10, [.item ⟨"Bow", 2, 5, .ranged⟩], [Guards.axe], none⟩] }
  have hok : s.perform (equip t) = (s', .ok ()) := by
    dsimp only [s, t, s']
    with_unfolding_all rfl
  have hchanged : s' ≠ s := by
    intro hsame
    have hpoints : 122 = 108 := congrArg Squad.points hsame
    omega
  obtain ⟨-, ⟨k, hk, -, -, hcount⟩, -, hsize, hshare⟩ :=
    equip_share hreach (by decide) hok hchanged
  have hplace : s.placeOf (s.variant t) = 1 := by with_unfolding_all rfl
  have hleft : min (s.size / t.offer.modelsPer - s.carvedBy t (s.existing? (s.variant t)))
      (s.currentCount (s.existing? (s.variant t)) + s.lead.count) = 2 := by
    with_unfolding_all rfl
  have hentitled : s.size / t.offer.modelsPer = 4 := by decide
  exact ⟨hreach, htaken, s', hok, hchanged, ⟨k, hplace ▸ hk, hcount.trans hleft⟩, hsize,
    hentitled ▸ hshare⟩

/-! ## Applying an option again -/

/-- The group that carries the selection is there and has what is left of the share, as far as it
and the lead group have models for that. -/
structure Sated (s : Squad) (t : Sheet) (i : Nat) : Prop where
  other : (s.variant t).equippedLike s.lead s.gear = false
  place : s.existing? (s.variant t) = some i
  left : s.carvedBy t (some i) < s.size / t.offer.modelsPer
  count : s.currentCount (some i) = min (s.size / t.offer.modelsPer - s.carvedBy t (some i))
    (s.currentCount (some i) + s.lead.count)

/-- Bringing the points up to date leaves a selection sated. -/
theorem Sated.refresh {i : Nat} (h : s.Sated t i) : s.refresh.Sated t i :=
  ⟨h.other, h.place, h.left, h.count⟩

/-- Carving for a number of models leaves the group that carries the selection sated. -/
theorem sated_of_carved (hmanned : ∀ g ∈ s.others, 0 < g.count) (hper : 1 < t.offer.modelsPer)
    (h : Carved s t s') (hchanged : s' ≠ s) : s'.Sated t (s.placeOf (s.variant t)) := by
  obtain ⟨-, n, hmoves, -⟩ := moves_of_carved hmanned h
  have hsize := hmoves.size_eq
  cases h with
  | kept => exact absurd rfl hchanged
  | @regrouped existing current target moved returned hlike hexisting hcurrent htarget hmoved
      hreturned hsome =>
    subst hexisting hcurrent
    obtain ⟨hleft, rfl⟩ := target_eq_of_modelsPer hper htarget
    have hpos : 0 < s.currentCount (s.existing? (s.variant t)) + moved - returned := by omega
    generalize hcount : s.currentCount (s.existing? (s.variant t)) + moved - returned = count at *
    generalize hlead : s.lead.count - moved + returned = leadCount at *
    obtain ⟨k, hk, -, hkcount, hbesides⟩ :=
      exists_others_regroup (g := s.variant t) hmanned leadCount hpos
    let s' := s.regroup (s.existing? (s.variant t)) (s.variant t) leadCount count
    have htaken : s'.carvedBy t (some (s.placeOf (s.variant t))) =
        s.carvedBy t (s.existing? (s.variant t)) := by
      rw [carvedBy_eq, carvedBy_eq, ← hbesides]
      rfl
    have hplace : s'.currentCount (some (s.placeOf (s.variant t))) = count := by
      simp [s', currentCount, hk, hkcount]
    exact {
      other := hlike
      place := existing?_regroup hmanned leadCount hpos
      left := by
        rw [htaken, hsize]
        exact hleft
      count := by
        rw [htaken, hsize, hplace]
        change count = min _ (count + leadCount)
        omega }

/-- Where a group is sated, carving changes nothing. It fails if the group has less than is left of
the share, and the lead group is empty then. -/
theorem Sated.perform_carve_eq {i : Nat} (h : s.Sated t i) (hmanned : ∀ g ∈ s.others, 0 < g.count)
    (hper : 1 < t.offer.modelsPer) :
    s.perform (carve t) = (s, .ok ()) ∨
      s.lead.count = 0 ∧ s.perform (carve t) = (s, .error (.noModelsAvailable s.name)) := by
  have hlike : ¬ (s.variant t).equippedLike s.lead s.gear = true := by
    rw [h.other]
    exact Bool.false_ne_true
  have htarget : s.target t (some i) (s.currentCount (some i)) =
      .ok (s.size / t.offer.modelsPer - s.carvedBy t (some i)) := by
    rw [target, Offer.perModel_eq_false hper, if_neg Bool.false_ne_true]
    exact if_neg (Nat.not_le.mpr h.left)
  have hcount := h.count
  rw [perform_carve, if_neg hlike, h.place]
  dsimp only
  rw [htarget]
  dsimp only
  generalize s.size / t.offer.modelsPer - s.carvedBy t (some i) = target at *
  split
  next hshort => exact .inr ⟨hshort.2, rfl⟩
  next hfull =>
    have hlead : s.lead.count - min (target - s.currentCount (some i)) s.lead.count +
        (s.currentCount (some i) - target) = s.lead.count := by
      omega
    have hsame : s.currentCount (some i) + min (target - s.currentCount (some i)) s.lead.count -
        (s.currentCount (some i) - target) = s.currentCount (some i) := by
      omega
    rw [hlead, hsame, regroup_eq_self hmanned h.place]
    exact .inl rfl

/-- Where an option for a number of models has been applied, applying it again leaves the whole
squad as it is, however often. It succeeds once more, or it finds the lead group empty. -/
theorem equip_share_again (h : Reachable x s) (hper : 1 < t.offer.modelsPer)
    (hok : s.perform (equip t) = (s', .ok ())) :
    (s'.perform (equip t) = (s', .ok ()) ∨
        s'.lead.count = 0 ∧ s'.perform (equip t) = (s', .error (.noModelsAvailable s'.name))) ∧
      ∀ n, s'.run (List.replicate n (.equip t)) = s' := by
  have honce : s'.perform (equip t) = (s', .ok ()) ∨
      s'.lead.count = 0 ∧ s'.perform (equip t) = (s', .error (.noModelsAvailable s'.name)) := by
    by_cases hsame : s' = s
    · rw [hsame] at hok ⊢
      exact .inl hok
    obtain ⟨role, unit, u, -, hstanding⟩ := h.standing
    obtain ⟨henough, hequipped⟩ := equipped_of_ok hok
    have hsize := size_of_equipped hstanding.manned h.leadPlain hequipped
    have hmanned := (hstanding.equipped hequipped).manned
    cases hequipped with
    | unpicked => exact absurd rfl hsame
    | whole _ hwhole => exact absurd (.inl hper) hwhole
    | apart hpicked _ hcarve =>
      have hsated := sated_of_carved hstanding.manned hper (carved_of_ok hcarve)
        (h.upToDate.ne_of_refresh_ne hsame)
      rw [← hsize] at henough
      rw [perform_equip_apart (checkPicks_of_equip_ok hok) hpicked henough (.inl hper)]
      rcases hsated.refresh.perform_carve_eq hmanned hper with hkept | ⟨hlead, hshort⟩
      · exact .inl (by rw [hkept]; rfl)
      · exact .inr ⟨hlead, by rw [hshort]⟩
  have hstep : (s'.perform (equip t)).1 = s' := by
    rcases honce with hkept | ⟨-, hshort⟩
    · rw [hkept]
    · rw [hshort]
  refine ⟨honce, fun n => ?_⟩
  induction n with
  | zero => rfl
  | succ n ih =>
    change (s'.perform (equip t)).1.run (List.replicate n (.equip t)) = s'
    rw [hstep, ih]

/-- Of five guards with both weapons two have kept the axe and two the bow, so that one is left to
take two axes where the share is two. Applying this again fails for want of models, and changes
nothing. -/
theorem equip_share_again_guards :
    let s := { Guards.squad ["Axe", "Bow"] [Guards.axe, Guards.bow] 1 74 with
      others := [⟨"Guards", 2, 10, [Guards.axe], [Guards.axe, Guards.bow], none⟩,
        ⟨"Guards", 2, 10, [Guards.bow], [Guards.axe, Guards.bow], none⟩] }
    let t := Guards.sheet [⟨0, 2⟩]
    Reachable (Guards.codex ["Axe", "Bow"]) s ∧ 1 < t.offer.modelsPer ∧
      ∃ s', s.perform (equip t) = (s', .ok ()) ∧ s'.groups.map Group.count = [0, 2, 2, 1] ∧
        (s'.perform (equip t)).2 = .error (.noModelsAvailable "Guards") ∧
        ∀ n, s'.run (List.replicate n (.equip t)) = s' := by
  intro s t
  have hreach : Reachable (Guards.codex ["Axe", "Bow"]) s :=
    ⟨.troops, "Guards", Guards.squad ["Axe", "Bow"] [Guards.axe, Guards.bow] 1 18,
      [.resize 5, .equip (Guards.sheet [⟨0, 1⟩]), .equip (Guards.sheet [⟨1, 1⟩])],
      by with_unfolding_all rfl, by with_unfolding_all rfl⟩
  let s' := { Guards.squad ["Axe", "Bow"] [Guards.axe, Guards.bow] 0 72 with
    others := [⟨"Guards", 2, 10, [Guards.axe], [Guards.axe, Guards.bow], none⟩,
      ⟨"Guards", 2, 10, [Guards.bow], [Guards.axe, Guards.bow], none⟩,
      ⟨"Guards", 1, 10, [.item ⟨"Axe", 2, 3, .melee⟩], [Guards.axe, Guards.bow], none⟩] }
  have hok : s.perform (equip t) = (s', .ok ()) := by
    dsimp only [s, t, s']
    with_unfolding_all rfl
  obtain ⟨-, hrun⟩ := equip_share_again hreach (by decide) hok
  exact ⟨hreach, by decide, s', hok, rfl, by dsimp only [s, t, s']; with_unfolding_all rfl, hrun⟩

end Muster.Squad
