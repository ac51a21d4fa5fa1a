import Mathlib.Tactic.Ring
import Muster.Proofs.Moving
import Muster.Proofs.Picks

/-!
# Exchanges

What models give up for an option and what they take in its place. An option for the whole squad and
one that sets models apart come to the same gear, piece by piece, although the one takes gear out of
the base gear and the other records what a group has exchanged.

A listing shows the price of a choice beyond the piece that is exchanged, which is the left-most
piece on offer that is carried. What is paid is the price of the choice beyond all that is given up
for it: of every piece on offer that is carried, one. The two are the same where one piece is given
up and its price is the one that is shown.
-/

namespace Muster

/-! ## What is taken out of a loadout -/

namespace Loadout

/-- The pieces that taking out each of `gone` in turn takes out. -/
def givenUp : Loadout → Loadout → Loadout
  | _, [] => []
  | l, g :: gone => (l.find? fun held => held.same g).toList ++ givenUp (l.drop g) gone

/-- What is carried after a piece is dropped was carried before. -/
theorem carries_of_carries_drop {l : Loadout} {g h : Gear} (hcarries : (l.drop g).carries h = true) :
    l.carries h = true := by
  rw [carries_iff, bag_drop] at hcarries
  exact carries_iff.mpr (Multiset.mem_of_mem_erase hcarries)

/-- Gear that is not there need not be taken out. -/
theorem dropAll_filter {l : Loadout} (carried : Gear → Bool) (gone : Loadout)
    (h : ∀ g, l.carries g = true → carried g = true) :
    l.dropAll (gone.filter carried) = l.dropAll gone := by
  induction gone generalizing l with
  | nil => rfl
  | cons g gone ih =>
    have hdropped : (l.drop g).dropAll (gone.filter carried) = (l.drop g).dropAll gone :=
      ih fun g' hg' => h g' (carries_of_carries_drop hg')
    by_cases hg : carried g = true
    · rw [List.filter_cons_of_pos hg]
      exact hdropped
    · have hnone : l.carries g = false := by
        rw [← Bool.not_eq_true]
        exact fun hl => hg (h g hl)
      have hstay : l.drop g = l := drop_of_not_carries hnone
      have hstep : l.dropAll (g :: gone) = (l.drop g).dropAll gone := rfl
      rw [hstay] at hdropped hstep
      rw [List.filter_cons_of_neg hg, hdropped, hstep]

/-- A loadout is the piece that is dropped, if any, and what is left. -/
theorem perm_drop (l : Loadout) (g : Gear) :
    l.Perm ((l.find? fun held => held.same g).toList ++ l.drop g) := by
  induction l with
  | nil => exact .refl _
  | cons h l ih =>
    by_cases hsame : h.same g = true
    · simp only [List.find?_cons, hsame, drop_cons, if_true]
      exact .refl _
    · simp only [List.find?_cons, hsame, drop_cons]
      exact (ih.cons h).trans List.perm_middle.symm

/-- A loadout is what is taken out of it and what is left. -/
theorem perm_givenUp (l gone : Loadout) : l.Perm (l.givenUp gone ++ l.dropAll gone) := by
  induction gone generalizing l with
  | nil => exact .refl _
  | cons g gone ih =>
    have hrest := (ih (l.drop g)).append_left (l.find? fun held => held.same g).toList
    rw [givenUp, List.append_assoc]
    exact (perm_drop l g).trans hrest

/-- The order of a loadout makes no difference to its bag. -/
theorem bag_eq_of_perm {l m : Loadout} (h : l.Perm m) : l.bag = m.bag :=
  Multiset.coe_eq_coe.mpr (h.map Gear.likeness)

/-- What is taken out is what the loadout has in common with what is to go. -/
theorem bag_givenUp (l gone : Loadout) : (l.givenUp gone).bag = l.bag ∩ gone.bag := by
  have hsplit := bag_eq_of_perm (perm_givenUp l gone)
  rw [bag_append, bag_dropAll] at hsplit
  refine Multiset.ext.mpr fun a => ?_
  have hcount := congrArg (Multiset.count a) hsplit
  rw [Multiset.count_add, Multiset.count_sub] at hcount
  rw [Multiset.count_inter]
  omega

/-- Two loadouts together are worth what both of them are worth. -/
theorem worth_append (l m : Loadout) : (l ++ m).worth = l.worth + m.worth := by
  simp [worth]

/-- Nothing of the price is lost. -/
theorem worth_givenUp (l gone : Loadout) :
    l.worth = (l.givenUp gone).worth + (l.dropAll gone).worth := by
  have hperm := (perm_givenUp l gone).map Gear.worth
  rw [worth, Amount.sum_eq_of_perm hperm, ← worth, worth_append]

end Loadout

/-! ## What is exchanged -/

namespace Offer

/-- The piece that is exchanged is on offer and is carried. -/
theorem exchanged_carried {o : Offer} {b : Bearer} {x : Gear} (h : o.exchanged? b = some x) :
    x ∈ o.gear ∧ b.gear.carries x = true := by
  unfold exchanged? at h
  split at h
  · exact ⟨List.mem_of_find?_eq_some h, List.find?_some h⟩
  · cases h

end Offer

namespace Squad

variable {x : Codex} {s : Squad}

/-! ## The same gear either way -/

/-- The group that is carved carries the base gear without what is on offer, and then what is
selected. -/
theorem LeadPlain.loadout_variant (h : s.LeadPlain) (t : Sheet) :
    (s.variant t).loadout s.gear = s.gear.dropAll t.gear ++ t.selected := by
  have hfilter := Loadout.dropAll_filter (l := s.gear) s.gear.carries t.gear fun _ hg => hg
  rw [h.variant_eq, ← hfilter]
  rfl

/-- A model that is set apart by an option carries what every model would carry if the option were
for the whole squad, in the same order. -/
theorem loadout_variant_eq_gear_equipAll (h : Reachable x s) (t : Sheet) :
    (s.variant t).loadout s.gear = (s.equipAll t).gear := by
  rw [h.leadPlain.loadout_variant, h.leadPlain.equipAll_eq]

/-- Guards with two axes and a bow give up one of the axes and the bow, and take a bow. -/
theorem loadout_variant_guards :
    let s := Guards.squad ["Axe", "Axe", "Bow"] [Guards.axe, Guards.axe, Guards.bow] 4 84
    Reachable (Guards.codex ["Axe", "Axe", "Bow"]) s ∧
      (s.variant (Guards.sheet [⟨1, 1⟩])).loadout s.gear = [Guards.axe, Guards.bow] ∧
      (s.variant (Guards.sheet [⟨1, 1⟩])).loadout s.gear =
        (s.equipAll (Guards.sheet [⟨1, 1⟩])).gear := by
  intro s
  have hreach : Reachable (Guards.codex ["Axe", "Axe", "Bow"]) s :=
    ⟨.troops, "Guards", Guards.squad ["Axe", "Axe", "Bow"] [Guards.axe, Guards.axe, Guards.bow] 1 21,
      [.resize 4], by with_unfolding_all rfl, by with_unfolding_all rfl⟩
  exact ⟨hreach, by decide, loadout_variant_eq_gear_equipAll hreach _⟩

/-! ## What is shown and what is paid -/

variable {u : UnitTemplate} {sheet : Sheet} {i k : Nat} {g : Gear}

/-- What applying an option adds to the exact points of a squad. -/
def paid (s : Squad) (t : Sheet) : Int := (s.perform (equip t)).1.worth - s.worth

/-- Where all models are in the lead group, they are all of the squad. -/
theorem Standing.others_eq_nil (h : Standing x u s) (halone : s.othersCount = 0) :
    s.others = [] := by
  cases hothers : s.others with
  | nil => rfl
  | cons g gs =>
    have hcount : s.othersCount = headcount (g :: gs) := by rw [← hothers]; rfl
    have hpos : 0 < g.count := h.manned g (by rw [hothers]; exact List.mem_cons_self)
    rw [halone, headcount_cons] at hcount
    omega

/-- A squad of one plain group is worth its models, each at its points and the base gear. -/
theorem worth_of_others_eq_nil (hplain : s.LeadPlain) (hothers : s.others = []) :
    s.worth = s.size * (s.lead.basePoints + s.gear.worth) := by
  have hsize : s.size = s.lead.count := by
    rw [size_eq, othersCount_eq_zero hothers, Nat.add_zero]
  have hload : s.lead.loadout s.gear = s.gear := hplain.loadout_eq
  have hgroups : s.groups = [s.lead] := by rw [groups, hothers]
  rw [worth, hgroups, hsize, List.map_singleton, Amount.sum, Amount.sum, Group.worth, hload]
  exact Nat.add_zero _

/-- What is picked on an option for the whole squad is applied. -/
theorem perform_equip_whole {t : Sheet} (hpicks : t.Within) (hpicked : t.selected ≠ [])
    (henough : t.offer.modelsPer ≤ s.size) (hwhole : ¬ s.SetsApart t) :
    s.perform (equip t) = ((s.equipAll t).refresh, .ok ()) := by
  have hnot : ¬ t.offer.modelsPer > s.size := Nat.not_lt.mpr henough
  have hsome : ¬ t.selected.isEmpty = true := fun h => hpicked (List.isEmpty_iff.mp h)
  rw [perform_equip, Sheet.checkPicks_eq_ok_iff.mpr hpicks]
  dsimp only
  rw [if_neg hnot, if_neg hsome]
  exact if_neg hwhole

/-- One pick on an option for the whole squad is applied. -/
theorem perform_equip_once (h : Standing x u s) (hsheet : sheet ∈ s.sheetList)
    (hg : sheet.gear[i]? = some g) (hwhole : ¬ s.SetsApart sheet) (hsize : s.size ≠ 0) :
    s.perform (equip (sheet.once i)) = ((s.equipAll (sheet.once i)).refresh, .ok ()) := by
  obtain ⟨clause, -, hread⟩ := h.sheets sheet hsheet
  have hwithin : (sheet.once i).Within := (Offer.one_le_of_read hread).1
  have hpicked : (sheet.once i).selected ≠ [] := by
    rw [Sheet.selected_once hg]
    exact List.cons_ne_nil g []
  have hper : ¬ sheet.offer.modelsPer > 1 := fun hper => hwhole (.inl hper)
  have henough : (sheet.once i).offer.modelsPer ≤ s.size := by
    change sheet.offer.modelsPer ≤ s.size
    omega
  exact perform_equip_whole hwithin hpicked henough hwhole

/-- A squad without the models that an option needs cannot take it up. -/
theorem perform_equip_of_lt (h : s.size < sheet.offer.modelsPer) :
    (s.perform (equip sheet)).1 = s := by
  rcases hequip : s.perform (equip sheet) with ⟨s', e | _⟩
  · exact equip_failed hequip
  · exact absurd (equipped_of_ok hequip).1 (Nat.not_le.mpr h)

/-- Where nothing is picked, nothing is done. -/
theorem perform_equip_unpicked (hnone : sheet.selected = []) :
    (s.perform (equip sheet)).1 = s := by
  rcases hequip : s.perform (equip sheet) with ⟨s', e | _⟩
  · exact equip_failed hequip
  · cases (equipped_of_ok hequip).2 with
    | unpicked => rfl
    | apart hpicked => exact absurd hnone hpicked
    | whole hpicked => exact absurd hnone hpicked

/-- Each model pays for the choice beyond all that it gives up. -/
theorem paid_once (h : Standing x u s) (halone : s.othersCount = 0) (hsheet : sheet ∈ s.sheetList)
    (hg : sheet.gear[i]? = some g) (hwhole : ¬ s.SetsApart sheet) :
    s.paid (sheet.once i) =
      s.size * ((g.worth : Int) - (s.gear.givenUp sheet.gear).worth) := by
  by_cases hsize : s.size = 0
  · obtain ⟨clause, -, hread⟩ := h.sheets sheet hsheet
    have hper : 1 ≤ (sheet.once i).offer.modelsPer := (Offer.one_le_of_read hread).2
    have hfew : s.size < (sheet.once i).offer.modelsPer := hsize ▸ hper
    rw [paid, perform_equip_of_lt hfew, hsize]
    simp
  · -- all models are in the lead group before and after, so the base gear makes the difference
    have hothers := h.others_eq_nil halone
    have hsplit := Loadout.worth_givenUp s.gear sheet.gear
    have hbefore := worth_of_others_eq_nil h.leadPlain hothers
    let s' := { s with gear := s.gear.dropAll sheet.gear ++ [g] }
    have hafter : (s.perform (equip (sheet.once i))).1.worth = s'.worth := by
      rw [perform_equip_once h hsheet hg hwhole hsize, h.leadPlain.equipAll_eq,
        Sheet.selected_once hg]
      rfl
    have hworth : s'.worth = s.size * (s.lead.basePoints + s'.gear.worth) :=
      worth_of_others_eq_nil (s := s') h.leadPlain hothers
    have hgear : s'.gear.worth = (s.gear.dropAll sheet.gear).worth + g.worth :=
      Loadout.worth_append _ _
    rw [paid, hafter, hworth, hbefore, hgear, hsplit]
    push_cast
    ring

/-- What is listed in a place is the listing of the sheet in that place. -/
theorem exists_of_listing {l : Listing} (h : s.listings[k]? = some l) :
    ∃ sheet, s.sheetList[k]? = some sheet ∧ l = sheet.listing k s.bearer := by
  unfold listings at h
  rw [List.getElem?_map, List.getElem?_zipIdx] at h
  cases hsheet : s.sheetList[k]? with
  | none =>
    rw [hsheet] at h
    cases h
  | some sheet =>
    rw [hsheet] at h
    cases h
    exact ⟨sheet, rfl, by simp⟩

/-- A net price is that of a choice beyond the piece that is exchanged. -/
theorem exists_of_net {index : Nat} {line : Line} {d : Int}
    (hline : (sheet.listing index s.bearer).choices[i]? = some line) (hnet : line.net = some d) :
    ∃ choice exchanged, sheet.gear[i]? = some choice ∧
      sheet.offer.exchanged? s.bearer = some exchanged ∧
      d = (choice.cost : Int) - exchanged.cost := by
  change (Offer.linesFrom _ 0 sheet.gear)[i]? = some line at hline
  rw [Offer.getElem?_linesFrom, Option.map_eq_some_iff] at hline
  obtain ⟨choice, hchoice, rfl⟩ := hline
  obtain ⟨exchanged, hexchanged, rfl⟩ := Option.map_eq_some_iff.mp hnet
  exact ⟨choice, exchanged, hchoice, hexchanged, rfl⟩

/-- Where one piece is given up at most, it is the one that is exchanged. -/
theorem givenUp_eq_singleton (hexchanged : sheet.offer.exchanged? s.bearer = some g)
    (hone : (s.gear.givenUp sheet.gear).length ≤ 1) :
    ∃ held ∈ s.gear, held.same g = true ∧ s.gear.givenUp sheet.gear = [held] := by
  obtain ⟨hoffered, hcarried⟩ := Offer.exchanged_carried hexchanged
  have hmem : g.likeness ∈ (s.gear.givenUp sheet.gear).bag := by
    rw [Loadout.bag_givenUp]
    exact Multiset.mem_inter.mpr ⟨Loadout.carries_iff.mp hcarried, List.mem_map_of_mem hoffered⟩
  have hperm := Loadout.perm_givenUp s.gear sheet.gear
  cases hgiven : s.gear.givenUp sheet.gear with
  | nil =>
    rw [hgiven] at hmem
    cases hmem
  | cons held rest =>
    rw [hgiven] at hmem hone hperm
    have hrest : rest = [] := List.length_eq_zero_iff.mp (by simpa using hone)
    subst hrest
    refine ⟨held, hperm.mem_iff.mpr List.mem_cons_self, ?_, rfl⟩
    exact Gear.same_iff.mpr (List.mem_singleton.mp hmem).symm

/-- A choice of an option for the whole of a squad in one group, and the net price it is listed
with. -/
structure Quote (x : Codex) (s : Squad) (sheet : Sheet) (i : Nat) (d : Int) : Prop where
  reachable : Reachable x s
  alone : s.othersCount = 0
  whole : ¬ s.SetsApart sheet
  listed : ∃ (k : Nat) (l : Listing) (line : Line), s.sheetList[k]? = some sheet ∧
    s.listings[k]? = some l ∧ l.choices[i]? = some line ∧ line.net = some d

/-- A guard who has read its option is quoted what it lists. -/
theorem quote_recruit {bowCost points : Nat} {wargear : List String} {option : String}
    {offered : List Gear} {gear : Loadout} {d : Int}
    (hmuster : muster (Guards.drill bowCost wargear option) .troops "Guards" =
      .ok { Guards.recruit bowCost wargear option offered gear points with sheets := none })
    (hsheets : freshSheets { Guards.recruit bowCost wargear option offered gear points with
      sheets := none } = .ok [Guards.drillSheet option offered gear])
    (hnet : ((Offer.lines ⟨none, .squad, .choice offered⟩ ⟨gear, .squad⟩)[i]?).bind Line.net =
      some d) :
    Quote (Guards.drill bowCost wargear option)
      (Guards.recruit bowCost wargear option offered gear points)
      (Guards.drillSheet option offered gear) i d where
  reachable := by
    refine ⟨.troops, "Guards", _, [.list], hmuster, ?_⟩
    rw [run, List.foldl_cons, List.foldl_nil, Call.action, perform_ensureSheets,
      perform_readSheets, hsheets]
    rfl
  alone := rfl
  whole := by
    rintro (hper | ⟨hper, -⟩)
    · exact absurd hper (Nat.lt_irrefl 1)
    · cases hper
  listed := by
    obtain ⟨line, hline, hnet⟩ := Option.bind_eq_some_iff.mp hnet
    exact ⟨0, _, line, rfl, rfl, hline, hnet⟩

/-- The guard has been mustered and has listed its options. -/
theorem reachable_recruit :
    Reachable (Guards.drill 5 ["Axe"] "Axe/Bow")
      (Guards.recruit 5 ["Axe"] "Axe/Bow" [Guards.axe, Guards.bow] [Guards.axe] 13) :=
  (quote_recruit (d := 2) (i := 1) (by with_unfolding_all rfl) (by with_unfolding_all rfl)
    rfl).reachable

/-- A choice can be picked once, and if there are models it is applied. What is paid for it is the
net price it is listed with if and only if there are no models or its exact price beyond that of all
gear given up for it is. That is so where a single piece is given up and the prices of the two are
shown exactly. -/
theorem paid_eq_net_iff {d : Int} (h : Quote x s sheet i d) :
    ∃ choice exchanged, sheet.gear[i]? = some choice ∧
      sheet.offer.exchanged? s.bearer = some exchanged ∧
      sheet.clear.pick (.index i) .refuse = .ok (sheet.once i) ∧
      (s.size ≠ 0 → (s.perform (equip (sheet.once i))).2 = .ok ()) ∧
      (s.paid (sheet.once i) = s.size * d ↔
        s.size = 0 ∨ (choice.worth : Int) - (s.gear.givenUp sheet.gear).worth = d) ∧
      ((s.gear.givenUp sheet.gear).length ≤ 1 →
        (∀ held ∈ s.gear, held.same exchanged = true → held.worth = exchanged.cost) →
        choice.worth ≤ Amount.cap → s.paid (sheet.once i) = s.size * d) := by
  obtain ⟨k, l, line, hat, hlisting, hline, hnet⟩ := h.listed
  have hsheet : sheet ∈ s.sheetList := List.mem_of_getElem? hat
  obtain ⟨sheet', hat', rfl⟩ := exists_of_listing hlisting
  obtain rfl : sheet = sheet' := Option.some.inj (hat.symm.trans hat')
  obtain ⟨choice, exchanged, hchoice, hexchanged, rfl⟩ := exists_of_net hline hnet
  obtain ⟨role, unit, u, -, hstanding⟩ := h.reachable.standing
  have hpaid := paid_once hstanding h.alone hsheet hchoice h.whole
  have hpick : sheet.clear.pick (.index i) .refuse = .ok (sheet.once i) := by
    obtain ⟨clause, -, hread⟩ := hstanding.sheets sheet hsheet
    obtain ⟨hoffered, -⟩ := List.getElem?_eq_some_iff.mp hchoice
    exact Sheet.pick_clear_eq_once hoffered (Offer.one_le_of_read hread).1 .refuse
  refine ⟨choice, exchanged, hchoice, hexchanged, hpick, fun hsize => ?_, ?_,
    fun hone hheld hcap => ?_⟩
  · rw [perform_equip_once hstanding hsheet hchoice h.whole hsize]
  · rw [hpaid, mul_eq_mul_left_iff, or_comm, Int.natCast_eq_zero]
  · obtain ⟨held, hmem, hsame, hgiven⟩ := givenUp_eq_singleton hexchanged hone
    have hshown : choice.cost = choice.worth := by
      rw [choice.cost_eq_clamp, Amount.clamp_of_le hcap]
    have hloss : (s.gear.givenUp sheet.gear).worth = exchanged.cost := by
      rw [hgiven, ← hheld held hmem hsame]
      exact Nat.add_zero _
    rw [hpaid, hloss, hshown]

/-- A guard with an axe may have a bow for 2 points more, and that is what it pays. -/
theorem paid_eq_net_recruit :
    let s := Guards.recruit 5 ["Axe"] "Axe/Bow" [Guards.axe, Guards.bow] [Guards.axe] 13
    let t := Guards.drillSheet "Axe/Bow" [Guards.axe, Guards.bow] [Guards.axe]
    Quote (Guards.drill 5 ["Axe"] "Axe/Bow") s t 1 2 ∧ s.paid (t.once 1) = 2 := by
  intro s t
  have hquote : Quote (Guards.drill 5 ["Axe"] "Axe/Bow") s t 1 2 :=
    quote_recruit (by with_unfolding_all rfl) (by with_unfolding_all rfl) rfl
  obtain ⟨choice, exchanged, hchoice, hexchanged, -, -, -, hpaid⟩ := paid_eq_net_iff hquote
  obtain rfl : Guards.bow = choice := Option.some.inj hchoice
  obtain rfl : Guards.axe = exchanged := Option.some.inj hexchanged
  exact ⟨hquote, hpaid (by decide) (by decide) (by decide)⟩

/-- A guard with both weapons keeps the axe for nothing, as listed, and still gives up the bow; one
with a kit of two axes is shown what a kit of one axe costs and gives up its own; and a price above
the largest amount is not shown in full. -/
theorem paid_ne_net_recruits :
    (let s := Guards.recruit 5 ["Axe", "Bow"] "Axe/Bow" [Guards.axe, Guards.bow]
        [Guards.axe, Guards.bow] 18
      let t := Guards.drillSheet "Axe/Bow" [Guards.axe, Guards.bow] [Guards.axe, Guards.bow]
      Quote (Guards.drill 5 ["Axe", "Bow"] "Axe/Bow") s t 0 0 ∧ s.paid (t.once 0) = -5) ∧
    (let s := Guards.recruit 5 ["2*Axe+Bow"] "Axe+Bow/Bow" [Guards.kit 1, Guards.bow]
        [Guards.kit 2] 21
      let t := Guards.drillSheet "Axe+Bow/Bow" [Guards.kit 1, Guards.bow] [Guards.kit 2]
      Quote (Guards.drill 5 ["2*Axe+Bow"] "Axe+Bow/Bow") s t 1 (-3) ∧ s.paid (t.once 1) = -6) ∧
    (let bows := Gear.item ⟨"Bow", 2, 4294967295, .ranged⟩
      let s := Guards.recruit 4294967295 ["Axe"] "Axe/2*Bow" [Guards.axe, bows] [Guards.axe] 13
      let t := Guards.drillSheet "Axe/2*Bow" [Guards.axe, bows] [Guards.axe]
      Quote (Guards.drill 4294967295 ["Axe"] "Axe/2*Bow") s t 1 4294967292 ∧
        s.paid (t.once 1) = 8589934587) := by
  refine ⟨⟨?_, by decide⟩, ?_, ⟨?_, by decide⟩⟩
  · exact quote_recruit (by with_unfolding_all rfl) (by with_unfolding_all rfl) rfl
  · intro s t
    have hexchanged : Offer.exchanged? ⟨none, .squad, .choice [Guards.kit 1, Guards.bow]⟩
        ⟨[Guards.kit 2], .squad⟩ = some (Guards.kit 1) := by
      simp [Offer.exchanged?, Offer.hasChoice, Offer.gear, Menu.gear, Loadout.carries,
        Guards.kit_same]
    have hquote : Quote (Guards.drill 5 ["2*Axe+Bow"] "Axe+Bow/Bow") s t 1 (-3) := by
      refine quote_recruit (by with_unfolding_all rfl) (by with_unfolding_all rfl) ?_
      rw [Offer.lines, hexchanged]
      rfl
    have hgiven : s.gear.givenUp t.gear = [Guards.kit 2] := by
      change Loadout.givenUp [Guards.kit 2] [Guards.kit 1, Guards.bow] = _
      simp [Loadout.givenUp, Loadout.drop_cons, Guards.kit_same]
    obtain ⟨role, unit, u, -, hstanding⟩ := hquote.reachable.standing
    have hpaid := paid_once hstanding hquote.alone List.mem_cons_self (i := 1) (g := Guards.bow) rfl
      hquote.whole
    rw [hgiven] at hpaid
    exact ⟨hquote, hpaid⟩
  · exact quote_recruit (by with_unfolding_all rfl) (by with_unfolding_all rfl) rfl

end Squad

end Muster
