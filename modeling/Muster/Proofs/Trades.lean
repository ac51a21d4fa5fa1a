import Muster.Proofs.Exchange

/-!
# Trades

What an exchange for the whole squad comes to for models that do not carry the piece that is given
up. It is made in the base gear and not in the groups: every group carries the base gear but for
what its record says it has exchanged, and the records stay as they are. So a group is left alone
only as far as it has exchanged whatever the trade takes out and brings in. One that has given up
the piece for another, or models of a further type, which give up all base gear there is when they
join, take up what they have not exchanged, although they have nothing to give for it.
-/

namespace Muster

namespace Group

/-- How often a group carries a piece: as often as the base gear has it less what is exchanged, and
as often as its own gear. -/
theorem count_loadout (g : Group) (base : Loadout) (a : Likeness) :
    (g.loadout base).bag.count a =
      base.bag.count a - g.exchanged.bag.count a + g.gear.bag.count a := by
  rw [bag_loadout, Multiset.count_add, Multiset.count_sub]

/-- Wherever two base loadouts differ, the group has exchanged all that there is in either. -/
def Shuns (g : Group) (base base' : Loadout) : Prop :=
  ∀ a, base'.bag.count a ≠ base.bag.count a →
    base.bag.count a ≤ g.exchanged.bag.count a ∧ base'.bag.count a ≤ g.exchanged.bag.count a

/-- That is what it takes to carry the same over both. -/
theorem loadout_agrees_iff (g : Group) (base base' : Loadout) :
    (g.loadout base').agrees (g.loadout base) = true ↔ g.Shuns base base' := by
  rw [Loadout.agrees_iff, Multiset.ext]
  refine forall_congr' fun a => ?_
  rw [count_loadout, count_loadout]
  omega

/-- A group that does not carry a piece has exchanged all there is of it. -/
theorem count_le_of_not_carries {g : Group} {base : Loadout} {piece : Gear}
    (h : (g.loadout base).carries piece = false) :
    base.bag.count piece.likeness ≤ g.exchanged.bag.count piece.likeness := by
  rw [← Bool.not_eq_true, Loadout.carries_iff, ← Multiset.count_eq_zero, count_loadout] at h
  omega

/-- A group that carries nothing of what is taken out of the base gear, and has exchanged nothing of
what is brought in, gains all that is brought in. -/
theorem bag_loadout_dropAll_append {g : Group} {base gone gained : Loadout}
    (hgone : ∀ held ∈ base.givenUp gone, (g.loadout base).carries held = false)
    (hgained : ∀ piece ∈ gained, g.exchanged.carries piece = false) :
    (g.loadout (base.dropAll gone ++ gained)).bag = (g.loadout base).bag + gained.bag := by
  refine Multiset.ext.mpr fun a => ?_
  have hsplit := congrArg (Multiset.count a) (Loadout.bag_eq_of_perm (base.perm_givenUp gone))
  rw [Loadout.bag_append, Multiset.count_add] at hsplit
  have hout : (base.givenUp gone).bag.count a = 0 ∨
      base.bag.count a ≤ g.exchanged.bag.count a := by
    by_cases ha : a ∈ (base.givenUp gone).bag
    · obtain ⟨held, hheld, rfl⟩ := List.mem_map.mp ha
      exact .inr (count_le_of_not_carries (hgone held hheld))
    · exact .inl (Multiset.count_eq_zero.mpr ha)
  have hin : gained.bag.count a = 0 ∨ g.exchanged.bag.count a = 0 := by
    by_cases ha : a ∈ gained.bag
    · obtain ⟨piece, hpiece, rfl⟩ := List.mem_map.mp ha
      refine .inr (Multiset.count_eq_zero.mpr fun hmem => ?_)
      rw [← Loadout.carries_iff, hgained piece hpiece] at hmem
      cases hmem
    · exact .inl (Multiset.count_eq_zero.mpr ha)
  rw [Multiset.count_add, count_loadout, count_loadout, Loadout.bag_append, Multiset.count_add]
  omega

end Group

namespace Squad

variable {x : Codex} {s s' : Squad} {sheet t : Sheet} {piece : Gear}

/-- An option for the whole squad that is listed as an exchange of a piece of gear. -/
structure Trade (x : Codex) (s : Squad) (sheet : Sheet) (piece : Gear) : Prop where
  reachable : Reachable x s
  whole : ¬ s.SetsApart sheet
  exchanged : sheet.offer.exchanged? s.bearer = some piece
  listed : ∃ (k : Nat) (l : Listing), s.sheetList[k]? = some sheet ∧ s.listings[k]? = some l ∧
    l.exchange = some piece.label

/-- One of the guards and a scout, who has no gear, where the unit may exchange an axe for a bow. -/
def scouted : Squad :=
  { Guards.patroller "Axe/Bow" (Guards.scout none) ["Scout"] with
    others := [⟨"Scout", 1, 7, [], [Guards.axe], none⟩]
    sheets := some [Guards.drillSheet "Axe/Bow" [Guards.axe, Guards.bow] [Guards.axe]]
    points := 20 }

/-- The trade of the scouted guards is one that a reachable squad can make. -/
theorem trade_scouted :
    Trade (Guards.patrol "Axe/Bow" (Guards.scout none) ["Scout"]) scouted
      (Guards.drillSheet "Axe/Bow" [Guards.axe, Guards.bow] [Guards.axe]) Guards.axe where
  reachable := by
    let s := Guards.patroller "Axe/Bow" (Guards.scout none) ["Scout"]
    let sized : Squad :=
      { s with others := [⟨"Scout", 1, 7, [], [Guards.axe], none⟩], points := 20 }
    have hsized : (s.perform (resizeModels [1, 1])).1 = sized := by with_unfolding_all rfl
    have hsheets : freshSheets sized =
        .ok [Guards.drillSheet "Axe/Bow" [Guards.axe, Guards.bow] [Guards.axe]] := by
      with_unfolding_all rfl
    refine ⟨.troops, "Guards", s, [.resizeModels [1, 1], .list], by with_unfolding_all rfl, ?_⟩
    rw [run, List.foldl_cons, List.foldl_cons, List.foldl_nil, Call.action, Call.action, hsized,
      perform_ensureSheets, perform_readSheets, hsheets]
    rfl
  whole := by decide
  exchanged := rfl
  listed := ⟨0, _, rfl, rfl, rfl⟩

/-- Applying an option for the whole squad leaves all groups as they are. If something is picked,
the base gear gives up what is on offer for it. -/
theorem LeadPlain.equip_whole (h : s.LeadPlain) (hwhole : ¬ s.SetsApart t) :
    (s.perform (equip t)).1.groups = s.groups ∧
      ((s.perform (equip t)).2 = .ok () → t.selected ≠ [] →
        (s.perform (equip t)).1.gear = s.gear.dropAll t.gear ++ t.selected) ∧
      (t.selected = [] → (s.perform (equip t)).1 = s) := by
  rw [← and_assoc]
  refine ⟨?_, perform_equip_unpicked⟩
  rcases hequip : s.perform (equip t) with ⟨s', e | _⟩
  · obtain rfl := equip_failed hequip
    exact ⟨rfl, nofun⟩
  · obtain ⟨-, hequipped⟩ := equipped_of_ok hequip
    cases hequipped with
    | unpicked hnone => exact ⟨rfl, fun _ hpicked => absurd hnone hpicked⟩
    | apart _ hapart => exact absurd hapart hwhole
    | whole hpicked =>
      rw [h.equipAll_eq]
      exact ⟨rfl, fun _ _ => rfl⟩

/-- Whatever is picked, applying a trade changes no group. A group without the piece that is given
up carries the same as before, up to order, if and only if it has exchanged all that the base gear
has, before and after, of whatever the base gear then has more or less of. In particular, where the
piece is all that is taken out of the base gear, a group without it that has exchanged nothing of
the selection gains all of the selection. -/
theorem trade_keeps_iff (h : Trade x s sheet piece) (picks : List Pick) :
    let t := { sheet with picks }
    let s' := (s.perform (equip t)).1
    s'.groups = s.groups ∧
      ((s.perform (equip t)).2 = .ok () → t.selected ≠ [] →
        s'.gear = s.gear.dropAll sheet.gear ++ t.selected) ∧
      ∀ g ∈ s.groups, (g.loadout s.gear).carries piece = false →
        ((g.loadout s'.gear).agrees (g.loadout s.gear) = true ↔ g.Shuns s.gear s'.gear) ∧
        ((s.perform (equip t)).2 = .ok () → (s.gear.givenUp sheet.gear).length ≤ 1 →
          (∀ chosen ∈ t.selected, g.exchanged.carries chosen = false) →
          (g.loadout s'.gear).bag = (g.loadout s.gear).bag + t.selected.bag) := by
  intro t s'
  have hwhole : ¬ s.SetsApart t := h.whole
  obtain ⟨hgroups, hgear, hnone⟩ := h.reachable.leadPlain.equip_whole hwhole
  refine ⟨hgroups, hgear, fun g _ hwithout => ⟨g.loadout_agrees_iff _ _, ?_⟩⟩
  intro hok hone hchosen
  by_cases hpicked : t.selected = []
  · have hsame : s' = s := hnone hpicked
    rw [hsame, hpicked, Loadout.bag_nil, add_zero]
  · have hafter : s'.gear = s.gear.dropAll sheet.gear ++ t.selected := hgear hok hpicked
    rw [hafter]
    refine Group.bag_loadout_dropAll_append (fun held hheld => ?_) hchosen
    -- what is taken out counts as the piece
    obtain ⟨held', -, hsame, hgiven⟩ := givenUp_eq_singleton h.exchanged hone
    rw [hgiven] at hheld
    obtain rfl := List.mem_singleton.mp hheld
    rw [← Bool.not_eq_true, Loadout.carries_iff] at hwithout ⊢
    rwa [Gear.same_iff.mp hsame]

/-- A scout without an axe has a bow once the squad's axe is exchanged for a bow. -/
theorem trade_keeps_iff_scouted :
    let t := { Guards.drillSheet "Axe/Bow" [Guards.axe, Guards.bow] [Guards.axe] with
      picks := [⟨1, 1⟩] }
    let s' := (scouted.perform (equip t)).1
    ∃ g ∈ scouted.groups, (g.loadout scouted.gear).carries Guards.axe = false ∧
      s'.groups = scouted.groups ∧ s'.gear = [Guards.bow] ∧
      (g.loadout s'.gear).bag = (g.loadout scouted.gear).bag + Loadout.bag [Guards.bow] := by
  intro t s'
  let g : Group := ⟨"Scout", 1, 7, [], [Guards.axe], none⟩
  have hmem : g ∈ scouted.groups := List.mem_cons_of_mem _ List.mem_cons_self
  have hwithout : (g.loadout scouted.gear).carries Guards.axe = false := by decide
  obtain ⟨hgroups, hgear, hkeeps⟩ := trade_keeps_iff trade_scouted [⟨1, 1⟩]
  obtain ⟨-, hgains⟩ := hkeeps g hmem hwithout
  exact ⟨g, hmem, hwithout, hgroups, hgear rfl (List.cons_ne_nil _ _),
    hgains rfl (by decide) (by decide)⟩

/-- It did not carry the axe that is given up, and does not carry what it carried before. -/
theorem trade_equips_scouted :
    let sheet := Guards.drillSheet "Axe/Bow" [Guards.axe, Guards.bow] [Guards.axe]
    let s' := (scouted.perform (equip { sheet with picks := [⟨1, 1⟩] })).1
    Trade (Guards.patrol "Axe/Bow" (Guards.scout none) ["Scout"]) scouted sheet Guards.axe ∧
      ∃ g ∈ scouted.groups, (g.loadout scouted.gear).carries Guards.axe = false ∧
        g ∈ s'.groups ∧ (g.loadout s'.gear).agrees (g.loadout scouted.gear) = false := by
  intro sheet s'
  let g : Group := ⟨"Scout", 1, 7, [], [Guards.axe], none⟩
  have hmem : g ∈ scouted.groups := List.mem_cons_of_mem _ List.mem_cons_self
  exact ⟨trade_scouted, g, hmem, by decide, hmem, by decide⟩

end Squad

end Muster
