import Mathlib.Data.Multiset.Range
import Muster.Proofs.Exchange
import Muster.Proofs.Selections

/-!
# Choosing again

Nothing remembers what an option has given to a squad. When it is applied again with another
selection, what the first one has left is found by comparing it with what is on offer, of which one
piece each is taken out. So the second selection takes the place of the first if and only if the
first is made of such pieces. That is so if no single item is picked more than once: where it is,
the pieces are one item in a larger quantity, which is not what is on offer and stays.
-/

namespace Muster

/-! ## Taking out what is on offer -/

namespace Loadout

/-- Nothing is left if and only if all is among what is taken out. -/
theorem dropAll_eq_nil_iff {l gone : Loadout} : l.dropAll gone = [] ↔ l.bag ≤ gone.bag := by
  rw [← bag_eq_zero, bag_dropAll, tsub_eq_zero_iff_le]

/-- Of gear that is there once nothing is left. -/
theorem not_carries_dropAll {l gone : Loadout} {g : Gear} (hg : g ∈ gone)
    (hone : (l.countP fun held => held.same g) ≤ 1) : (l.dropAll gone).carries g = false := by
  have hgone : 1 ≤ gone.bag.count g.likeness :=
    Multiset.one_le_count_iff_mem.mpr (List.mem_map_of_mem hg)
  rw [← count_bag] at hone
  rw [← Bool.not_eq_true, carries_iff, bag_dropAll, ← Multiset.count_pos, Multiset.count_sub]
  omega

/-- What is taken out of two loadouts, the first of which has nothing of it, is taken out of the
second. -/
theorem dropAll_append {l gone : Loadout} (hnone : ∀ g ∈ gone, l.carries g = false)
    (m : Loadout) : (l ++ m).dropAll gone = l ++ m.dropAll gone := by
  induction gone generalizing m with
  | nil => rfl
  | cons g gone ih =>
    obtain ⟨hg, hrest⟩ := List.forall_mem_cons.mp hnone
    have hfirst : drop (l ++ m) g = l ++ m.drop g :=
      List.eraseP_append_right m (List.any_eq_false.mp hg)
    change (drop (l ++ m) g).dropAll gone = l ++ (m.drop g).dropAll gone
    rw [hfirst, ih hrest]

/-- Loadouts that have the rest in common agree if and only if nothing is left besides. -/
theorem agrees_append_iff (l left m : Loadout) :
    (l ++ left ++ m).agrees (l ++ m) = true ↔ left = [] := by
  simp only [agrees_iff, bag_append, add_left_inj, add_eq_left, bag_eq_zero]

end Loadout

/-! ## Likenesses of what is picked -/

namespace Sheet

variable {t : Sheet}

/-- The likeness of a choice on offer. -/
def likenessAt? (t : Sheet) (index : Nat) : Option Likeness := (t.gear[index]?).map Gear.likeness

/-- The bag of what is on offer has the likenesses of its places. -/
theorem bag_gear (t : Sheet) :
    t.gear.bag = (Multiset.range t.gear.length).filterMap t.likenessAt? := by
  have hall (l : Loadout) :
      (List.range l.length).filterMap (fun i => (l[i]?).map Gear.likeness) =
        l.map Gear.likeness := by
    induction l with
    | nil => rfl
    | cons g l ih => simp [List.range_succ_eq_map, List.filterMap_map, ih]
  exact congrArg _ (hall t.gear).symm

/-- Single items are picked at most once. A bundle may be picked more often. -/
def SinglesOnce (t : Sheet) : Prop :=
  ∀ p ∈ t.picks, 1 < p.count → ∃ b, t.gear[p.index]? = some (.bundle b)

/-- A bundle that is picked more than once counts as the same as the one on offer. -/
theorem SinglesOnce.bag_selected (h : t.SinglesOnce) :
    t.selected.bag = (↑t.picked : Multiset Nat).filterMap t.likenessAt? := by
  have hlike : ∀ p ∈ t.picks, (t.gearOf? p).map Gear.likeness = t.likenessAt? p.index := by
    intro p hp
    rw [gearOf?, likenessAt?, Option.map_map]
    by_cases hmany : 1 < p.count
    · obtain ⟨b, hb⟩ := h p hp hmany
      rw [hb, Option.map_some, Option.map_some, Function.comp_apply, if_pos hmany]
      rfl
    · congr 1
      funext g
      rw [Function.comp_apply, if_neg hmany]
  have hmap : t.selected.map Gear.likeness = t.picked.filterMap t.likenessAt? := by
    rw [selected, List.map_filterMap, picked, List.filterMap_map]
    exact List.filterMap_congr hlike
  exact congrArg _ hmap

/-- So what is picked is part of what is on offer. -/
theorem Proper.bag_selected_le (h : t.Proper) (hsingles : t.SinglesOnce) :
    t.selected.bag ≤ t.gear.bag := by
  have hpicked : (↑t.picked : Multiset Nat) ≤ Multiset.range t.gear.length :=
    (Multiset.le_iff_subset (Multiset.coe_nodup.mpr h.nodup)).mpr
      fun i hi => Multiset.mem_range.mpr (h.offered i hi)
  rw [hsingles.bag_selected, bag_gear]
  exact Multiset.filterMap_le_filterMap _ hpicked

end Sheet

/-! ## The second selection -/

namespace Squad

variable {x : Codex} {s : Squad} {sheet t t₁ t₂ : Sheet} {cs cs₁ cs₂ : List Choice}

/-- What is picked on a copy of an option for the whole squad is taken in place of what is on
offer. -/
theorem perform_equip_pickEach (hplain : s.LeadPlain) (hwhole : ¬ s.SetsApart sheet)
    (henough : sheet.offer.modelsPer ≤ s.size) (h : sheet.clear.pickEach cs = .ok t)
    (hcs : cs ≠ []) :
    s.perform (equip t) =
      (refresh { s with gear := s.gear.dropAll sheet.gear ++ t.selected }, .ok ()) := by
  obtain ⟨hoffer, hgear, hproper, hwithin⟩ := Sheet.proper_of_pickEach h
  have hpicked := hproper.selected_ne_nil (Sheet.picks_ne_nil_of_pickEach (.inr hcs) h)
  have hwhole' : ¬ s.SetsApart t := by
    unfold SetsApart
    rwa [hoffer]
  rw [perform_equip_whole hwithin hpicked (hoffer ▸ henough) hwhole', hplain.equipAll_eq, hgear]

/-- After another selection, what is on offer is taken out of this too. -/
theorem perform_equip_twice (hplain : s.LeadPlain) (hwhole : ¬ s.SetsApart sheet)
    (hone : ∀ g ∈ sheet.gear, (s.gear.countP fun held => held.same g) ≤ 1)
    (henough : sheet.offer.modelsPer ≤ s.size) (h₁ : sheet.clear.pickEach cs₁ = .ok t₁)
    (h₂ : sheet.clear.pickEach cs₂ = .ok t₂) (hcs₂ : cs₂ ≠ []) :
    (s.perform (equip t₁)).1.perform (equip t₂) =
      (refresh { s with gear := s.gear.dropAll sheet.gear ++ t₁.selected.dropAll sheet.gear ++
        t₂.selected }, .ok ()) := by
  by_cases hcs₁ : cs₁ = []
  · -- nothing is selected at first
    subst hcs₁
    cases h₁
    have hnone : Sheet.selected sheet.clear = [] := rfl
    have hleft : Loadout.dropAll [] sheet.gear = [] :=
      Loadout.dropAll_eq_nil_iff.mpr (Multiset.zero_le _)
    rw [perform_equip_unpicked hnone, perform_equip_pickEach hplain hwhole henough h₂ hcs₂, hnone,
      hleft, List.append_nil]
  · let first := refresh { s with gear := s.gear.dropAll sheet.gear ++ t₁.selected }
    have hgear : first.gear.dropAll sheet.gear =
        s.gear.dropAll sheet.gear ++ t₁.selected.dropAll sheet.gear :=
      Loadout.dropAll_append (fun g hg => Loadout.not_carries_dropAll hg (hone g hg)) t₁.selected
    have hsecond : first.perform (equip t₂) =
        (refresh { first with gear := first.gear.dropAll sheet.gear ++ t₂.selected }, .ok ()) :=
      perform_equip_pickEach hplain hwhole henough h₂ hcs₂
    rw [hgear] at hsecond
    rw [perform_equip_pickEach hplain hwhole henough h₁ hcs₁]
    exact hsecond

/-- An option for the whole squad is applied with one selection and then with another, where of
each piece on offer the squad has one at most. It ends with the gear that the second selection alone
gives it if and only if there is nothing in the first but what is on offer, one piece each, or the
squad has too few models for either. It then is the same squad. That is so wherever no single item
is picked more than once at first. -/
theorem equip_again (h : Reachable x s) (hwhole : ¬ s.SetsApart sheet)
    (hone : ∀ g ∈ sheet.gear, (s.gear.countP fun held => held.same g) ≤ 1)
    (h₁ : sheet.clear.pickEach cs₁ = .ok t₁) (h₂ : sheet.clear.pickEach cs₂ = .ok t₂)
    (hcs₂ : cs₂ ≠ []) :
    let both := (s.perform (equip t₁)).1.perform (equip t₂)
    let alone := s.perform (equip t₂)
    let rest := s.gear.dropAll sheet.gear
    let left := t₁.selected.dropAll sheet.gear
    both.2 = alone.2 ∧
      (sheet.offer.modelsPer ≤ s.size → both.2 = .ok () ∧
        alone.1.gear = rest ++ t₂.selected ∧ both.1.gear = rest ++ left ++ t₂.selected) ∧
      (both.1.gear.agrees alone.1.gear = true ↔ s.size < sheet.offer.modelsPer ∨ left = []) ∧
      (s.size < sheet.offer.modelsPer ∨ left = [] → both.1 = alone.1) ∧
      (t₁.SinglesOnce → left = []) := by
  intro both alone rest left
  obtain ⟨hoffer, hgear, hproper, -⟩ := Sheet.proper_of_pickEach h₁
  have hsingles (hsingle : t₁.SinglesOnce) : left = [] :=
    Loadout.dropAll_eq_nil_iff.mpr (hgear ▸ hproper.bag_selected_le hsingle)
  by_cases henough : sheet.offer.modelsPer ≤ s.size
  · have hboth : both = (refresh { s with gear := rest ++ left ++ t₂.selected }, .ok ()) :=
      perform_equip_twice h.leadPlain hwhole hone henough h₁ h₂ hcs₂
    have halone : alone = (refresh { s with gear := rest ++ t₂.selected }, .ok ()) :=
      perform_equip_pickEach h.leadPlain hwhole henough h₂ hcs₂
    rw [hboth, halone]
    refine ⟨rfl, fun _ => ⟨rfl, rfl, rfl⟩, ?_, ?_, hsingles⟩
    · have hagrees := Loadout.agrees_append_iff rest left t₂.selected
      exact hagrees.trans (or_iff_right (Nat.not_lt.mpr henough)).symm
    · rintro (hfew | hnone)
      · exact absurd hfew (Nat.not_lt.mpr henough)
      · rw [hnone, List.append_nil]
  · have hfew : s.size < sheet.offer.modelsPer := Nat.not_le.mp henough
    have hfirst : (s.perform (equip t₁)).1 = s := perform_equip_of_lt (hoffer ▸ hfew)
    have hboth : both = alone := by
      dsimp only [both, alone]
      rw [hfirst]
    rw [hboth]
    exact ⟨rfl, fun h => absurd h henough,
      iff_of_true (Loadout.agrees_iff.mpr rfl) (.inl hfew), fun _ => rfl, hsingles⟩

/-- A guard who has changed the axe for a bow and changes back is as it was. -/
theorem equip_again_recruit :
    let s := Guards.recruit 5 ["Axe"] "Axe/Bow" [Guards.axe, Guards.bow] [Guards.axe] 13
    let sheet := Guards.drillSheet "Axe/Bow" [Guards.axe, Guards.bow] [Guards.axe]
    Reachable (Guards.drill 5 ["Axe"] "Axe/Bow") s ∧ ¬ s.SetsApart sheet ∧
      ∃ t₁ t₂, sheet.clear.pickEach [.index 1] = .ok t₁ ∧
        sheet.clear.pickEach [.index 0] = .ok t₂ ∧
        (s.perform (equip t₁)).1.gear = [Guards.bow] ∧
        ((s.perform (equip t₁)).1.perform (equip t₂)).1 = (s.perform (equip t₂)).1 := by
  intro s sheet
  have hreach : Reachable (Guards.drill 5 ["Axe"] "Axe/Bow") s := reachable_recruit
  have hwhole : ¬ s.SetsApart sheet := by decide
  have h₁ : sheet.clear.pickEach [.index 1] = .ok (sheet.once 1) := rfl
  have h₂ : sheet.clear.pickEach [.index 0] = .ok (sheet.once 0) := rfl
  have hsingles : (sheet.once 1).SinglesOnce := by
    intro p hp hmany
    cases List.mem_singleton.mp hp
    exact absurd hmany (Nat.lt_irrefl 1)
  obtain ⟨-, -, -, hsame, hleft⟩ :=
    equip_again hreach hwhole (by decide) h₁ h₂ (List.cons_ne_nil _ _)
  exact ⟨hreach, hwhole, _, _, h₁, h₂, by decide, hsame (.inr (hleft hsingles))⟩

/-- A guard who picks the axe twice has two axes, and keeps them besides the bow; and a guard who
picks nothing keeps the bow that it has picked before. -/
theorem equip_again_stays :
    let s := Guards.recruit 5 ["Axe"] "Axe/Bow" [Guards.axe, Guards.bow] [Guards.axe] 13
    let sheet := Guards.drillSheet "Axe/Bow" [Guards.axe, Guards.bow] [Guards.axe]
    Reachable (Guards.drill 5 ["Axe"] "Axe/Bow") s ∧ sheet ∈ s.sheetList ∧ ¬ s.SetsApart sheet ∧
      (∀ g ∈ sheet.gear, (s.gear.countP fun held => held.same g) ≤ 1) ∧
      (∃ t₁ t₂, sheet.clear.pickEach [.index 0, .index 0] = .ok t₁ ∧
        sheet.clear.pickEach [.index 1] = .ok t₂ ∧
        ((s.perform (equip t₁)).1.perform (equip t₂)).1.gear.labels = ["2 Axes", "Bow"] ∧
        ((s.perform (equip t₁)).1.perform (equip t₂)).1.points = 21 ∧
        (s.perform (equip t₂)).1.gear.labels = ["Bow"] ∧
        (s.perform (equip t₂)).1.points = 15) ∧
      (∃ t₁ t₂, sheet.clear.pickEach [.index 1] = .ok t₁ ∧ sheet.clear.pickEach [] = .ok t₂ ∧
        ((s.perform (equip t₁)).1.perform (equip t₂)).1.gear = [Guards.bow] ∧
        (s.perform (equip t₂)).1.gear = [Guards.axe]) := by
  intro s sheet
  refine ⟨reachable_recruit, List.mem_singleton_self _, by decide, by decide, ?_, ?_⟩
  · exact ⟨_, _, rfl, rfl, by decide, by decide, by decide, by decide⟩
  · exact ⟨_, _, rfl, rfl, by decide, by decide⟩

end Squad

end Muster
