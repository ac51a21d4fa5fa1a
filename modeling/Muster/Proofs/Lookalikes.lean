import Mathlib.Algebra.BigOperators.Group.Multiset.Basic
import Muster.Proofs.Exchange
import Muster.Proofs.Limits

/-!
# Gear that counts as the same

Single items count as the same where name, quantity and price agree, so they read the same and cost
the same. Bundles count as the same where the names of their members do, so that two axes and a bow
pass for an axe and a bow.

This shows where a choice is picked by the gear that it offers, which picks the first choice that
counts as the same, and where models that are set apart are put to a group that is equipped like
them, at the points of this group. Both keep to label and price as far as there are no bundles that
count as the same at different prices.
-/

namespace Muster

/-! ## Prices of gear that counts as the same -/

namespace Gear

/-- Whether a piece of gear joins several items. -/
def isBundle : Gear → Bool
  | item _ => false
  | bundle _ => true

/-- What counts as the same as a single item is one, and it reads and costs the same. -/
theorem label_cost_of_same_item {g : Gear} {i : Item} (h : g.same (item i) = true) :
    g.label = (item i).label ∧ g.cost = (item i).cost := by
  cases g with
  | bundle b => cases h
  | item j =>
    have hsame : (j.name = i.name ∧ j.quantity = i.quantity) ∧ j.cost = i.cost := by
      simpa [same, Item.same] using h
    obtain ⟨⟨hname, hquantity⟩, hcost⟩ := hsame
    refine ⟨?_, hcost⟩
    change j.label = i.label
    rw [Item.label, Item.label, hname, hquantity]

/-- Pieces that count as the same as a third count as the same. -/
theorem same_trans {f g h : Gear} (hf : f.same g = true) (hg : g.same h = true) :
    f.same h = true :=
  same_iff.mpr ((same_iff.mp hf).trans (same_iff.mp hg))

/-- Counting as the same goes both ways. -/
theorem same_symm {g h : Gear} (hg : g.same h = true) : h.same g = true :=
  same_iff.mpr (same_iff.mp hg).symm

end Gear

/-- The price that all gear of one likeness shares. Bundles share none. -/
def Likeness.cost : Likeness → Nat
  | item _ _ cost => cost
  | bundle _ => 0

namespace Loadout

/-- The exact total of the prices of single items. -/
def itemCost (l : Loadout) : Nat := Amount.sum ((l.filter fun g => !g.isBundle).map Gear.cost)

/-- The exact total of the prices of bundles. -/
def bundleCost (l : Loadout) : Nat := Amount.sum ((l.filter Gear.isBundle).map Gear.cost)

/-- A loadout costs its items and its bundles. -/
theorem sum_cost (l : Loadout) : Amount.sum (l.map Gear.cost) = l.itemCost + l.bundleCost := by
  have hsplit := (List.filter_append_perm Gear.isBundle l).map Gear.cost
  rw [← Amount.sum_eq_of_perm hsplit, List.map_append, Amount.sum_append, Nat.add_comm]
  rfl

/-- What single items cost can be told from the bag. -/
theorem itemCost_eq (l : Loadout) : l.itemCost = (l.bag.map Likeness.cost).sum := by
  induction l with
  | nil => rfl
  | cons g l ih =>
    rw [bag_cons, Multiset.map_cons, Multiset.sum_cons, ← ih]
    cases g with
    | item i => rfl
    | bundle b => exact (Nat.zero_add _).symm

/-- What is taken out and what is left make up the loadout. -/
theorem exists_perm_drop {l : Loadout} {g : Gear} (h : l.carries g = true) :
    ∃ held, held.same g = true ∧ l.Perm (held :: l.drop g) := by
  obtain ⟨held, hmem, hsame⟩ := List.any_eq_true.mp h
  obtain ⟨first, before, after, -, hfirst, hl, hdrop⟩ :=
    List.exists_of_eraseP (p := fun held => held.same g) hmem hsame
  refine ⟨first, hfirst, ?_⟩
  rw [drop, hdrop]
  exact hl ▸ List.perm_middle

/-- Loadouts that agree show the same pieces if each piece of the one looks like what it matches in
the other. -/
theorem perm_map_of_bag_eq {β : Type} {f : Gear → β} {l m : Loadout} (hbag : l.bag = m.bag)
    (hf : ∀ p ∈ l, ∀ q ∈ m, q.same p = true → f p = f q) : (l.map f).Perm (m.map f) := by
  induction l generalizing m with
  | nil =>
    obtain rfl : m = [] := bag_eq_zero.mp hbag.symm
    exact .refl _
  | cons p l ih =>
    have hcarried : m.carries p = true := by
      rw [carries_iff, ← hbag, bag_cons]
      exact Multiset.mem_cons_self _ _
    obtain ⟨q, hsame, hperm⟩ := exists_perm_drop hcarried
    have hrest : bag l = (m.drop p).bag := by
      rw [bag_drop, ← hbag, bag_cons, Multiset.erase_cons_head]
    have hfirst : f p = f q :=
      hf p List.mem_cons_self q (hperm.mem_iff.mpr List.mem_cons_self) hsame
    have hall := ih hrest fun p' hp' q' hq' =>
      hf p' (List.mem_cons_of_mem _ hp') q' (hperm.mem_iff.mpr (List.mem_cons_of_mem _ hq'))
    rw [List.map_cons, hfirst]
    exact (hall.cons (f q)).trans (hperm.map f).symm

/-- Loadouts that agree cost the same if each piece of the one costs what it matches in the other
does. -/
theorem sum_cost_eq_of_bag_eq {l m : Loadout} (hbag : l.bag = m.bag)
    (hcost : ∀ p ∈ l, ∀ q ∈ m, q.same p = true → p.cost = q.cost) :
    Amount.sum (l.map Gear.cost) = Amount.sum (m.map Gear.cost) :=
  Amount.sum_eq_of_perm (perm_map_of_bag_eq hbag hcost)

end Loadout

namespace Group

variable {g h : Group} {base : Loadout}

/-- The points of one model are stopped once. -/
theorem pointsEach_eq_clamp (g : Group) (base : Loadout) :
    g.pointsEach base =
      Amount.clamp (g.basePoints + Amount.sum ((g.loadout base).map Gear.cost)) := by
  rw [pointsEach, Loadout.cost, Amount.total_eq_clamp_sum, Amount.add, Amount.clamp_add_clamp]

/-- Models with the same points without gear, whose single items cost the same, are as many points
if and only if their bundles cost the same or both are stopped. -/
theorem pointsEach_eq_iff (hpoints : g.basePoints = h.basePoints)
    (hitems : (g.loadout base).itemCost = (h.loadout base).itemCost) :
    g.pointsEach base = h.pointsEach base ↔
      (g.loadout base).bundleCost = (h.loadout base).bundleCost ∨
        g.pointsEach base = Amount.cap ∧ h.pointsEach base = Amount.cap := by
  rw [g.pointsEach_eq_clamp, h.pointsEach_eq_clamp, Loadout.sum_cost, Loadout.sum_cost, hpoints,
    hitems]
  simp only [Amount.clamp, Amount.cap]
  omega

/-- Models with the same points without gear that carry gear that counts as the same are as many
points if bundles that count as the same cost the same. -/
theorem pointsEach_eq_of_bundles (hpoints : g.basePoints = h.basePoints)
    (hbag : (g.loadout base).bag = (h.loadout base).bag)
    (hbundles : ∀ p q, .bundle p ∈ g.loadout base → .bundle q ∈ h.loadout base →
      p.same q = true → p.cost = q.cost) :
    g.pointsEach base = h.pointsEach base := by
  rw [g.pointsEach_eq_clamp, h.pointsEach_eq_clamp, hpoints, Loadout.sum_cost_eq_of_bag_eq hbag]
  intro p hp q hq hsame
  cases p with
  | item i => exact (Gear.label_cost_of_same_item hsame).2.symm
  | bundle b =>
    cases q with
    | item j => cases hsame
    | bundle c => exact hbundles b c hp hq (Gear.same_symm hsame)

end Group

/-! ## Picking a choice by its gear -/

namespace Sheet

variable {s : Sheet} {g first : Gear} {i j : Nat}

/-- The choice at `j` is the first that counts as the same as `g`, and it offers `first`. -/
structure FirstAlike (s : Sheet) (g : Gear) (j : Nat) (first : Gear) : Prop where
  offered : s.gear[j]? = some first
  alike : first.same g = true
  least : ∀ k other, s.gear[k]? = some other → other.same g = true → j ≤ k

/-- The place that is found for a piece is the first one that counts as the same. -/
theorem indexOf?_eq_some_iff : s.indexOf? g = some j ↔ ∃ first, s.FirstAlike g j first := by
  rw [indexOf?, List.findIdx?_eq_some_iff_getElem]
  constructor
  · rintro ⟨hj, halike, hbefore⟩
    refine ⟨s.gear[j], List.getElem?_eq_getElem hj, halike, fun k other hother hsame => ?_⟩
    obtain ⟨hk, rfl⟩ := List.getElem?_eq_some_iff.mp hother
    exact Nat.not_lt.mp fun hlt => hbefore k hlt hsame
  · rintro ⟨first, hoffered, halike, hleast⟩
    obtain ⟨hj, rfl⟩ := List.getElem?_eq_some_iff.mp hoffered
    refine ⟨hj, halike, fun k hlt hsame => ?_⟩
    exact absurd (hleast k _ (List.getElem?_eq_getElem _) hsame) (Nat.not_le.mpr hlt)

/-- Gear on offer has a first choice that counts as the same. -/
theorem exists_firstAlike (h : s.gear[i]? = some g) :
    ∃ j first, j ≤ i ∧ s.FirstAlike g j first := by
  have hself : g.same g = true := Gear.same_iff.mpr rfl
  cases hindex : s.indexOf? g with
  | none =>
    have hnone := List.findIdx?_eq_none_iff.mp hindex g (List.mem_of_getElem? h)
    rw [hself] at hnone
    cases hnone
  | some j =>
    obtain ⟨first, hfirst⟩ := indexOf?_eq_some_iff.mp hindex
    exact ⟨j, first, hfirst.least i g h hself, hfirst⟩

/-- The first choice is picked. -/
theorem FirstAlike.pick_eq (h : s.FirstAlike g j first) (hpicks : s.picks = [])
    (hallowed : 1 ≤ s.offer.picksAllowed) :
    s.pick (.gear g) .refuse = .ok (s.once j) ∧ (s.once j).selected = [first] := by
  obtain ⟨hj, -⟩ := List.getElem?_eq_some_iff.mp h.offered
  have hresolve : s.resolve (.gear g) = .ok j :=
    resolve_eq_ok_iff.mpr ⟨indexOf?_eq_some_iff.mpr ⟨first, h⟩, hj⟩
  exact ⟨pick_eq_once hpicks hallowed hresolve .refuse, selected_once h.offered⟩

/-- Gear that counts as the same has the same first choice. -/
theorem FirstAlike.of_same {g' : Gear} (h : s.FirstAlike g j first) (hsame : g.same g' = true) :
    s.FirstAlike g' j first where
  offered := h.offered
  alike := Gear.same_trans h.alike hsame
  least k other hother hk := h.least k other hother (Gear.same_trans hk (Gear.same_symm hsame))

/-- Picking by a piece of gear picks one piece, which reads and costs the same. -/
def PicksLike (s : Sheet) (g : Gear) : Prop :=
  ∃ t chosen, s.pick (.gear g) .refuse = .ok t ∧ t.selected = [chosen] ∧
    chosen.label = g.label ∧ chosen.cost = g.cost

/-- What is picked is what the first choice offers. -/
theorem FirstAlike.picksLike_iff (h : s.FirstAlike g j first) (hpicks : s.picks = [])
    (hallowed : 1 ≤ s.offer.picksAllowed) :
    s.PicksLike g ↔ first.label = g.label ∧ first.cost = g.cost := by
  obtain ⟨hpick, hselected⟩ := h.pick_eq hpicks hallowed
  constructor
  · rintro ⟨t, chosen, ht, hchosen, hlike⟩
    obtain rfl : s.once j = t := Except.ok.inj (hpick.symm.trans ht)
    obtain rfl : first = chosen := by simpa [hselected] using hchosen
    exact hlike
  · intro hlike
    exact ⟨s.once j, first, hpick, hselected, hlike⟩

/-- Picking by the gear of a choice on offer picks the first choice that counts as the same, which
is the choice itself or comes before it. Of a single item this reads and costs the same. It does so
of everything on offer if and only if bundles on offer that count as the same do. -/
theorem pick_gear_offered {a : Arsenal} {clause : String} {b : Bearer}
    (h : read a clause b = .ok s) :
    (∀ i g, s.gear[i]? = some g → ∃ j first, j ≤ i ∧ s.FirstAlike g j first ∧
        s.pick (.gear g) .refuse = .ok (s.once j) ∧ (s.once j).selected = [first]) ∧
      (∀ item, .item item ∈ s.gear → s.PicksLike (.item item)) ∧
      ((∀ g ∈ s.gear, s.PicksLike g) ↔
        ∀ p q, .bundle p ∈ s.gear → .bundle q ∈ s.gear → p.same q = true →
          p.label = q.label ∧ p.cost = q.cost) := by
  obtain ⟨hallowed, hpicks⟩ := fresh_of_read h
  have hfirst (g : Gear) (hg : g ∈ s.gear) : ∃ j first, s.FirstAlike g j first := by
    obtain ⟨i, hi⟩ := List.mem_iff_getElem?.mp hg
    obtain ⟨j, first, -, halike⟩ := exists_firstAlike hi
    exact ⟨j, first, halike⟩
  have hitem (item : Item) (hg : .item item ∈ s.gear) : s.PicksLike (.item item) := by
    obtain ⟨j, first, halike⟩ := hfirst _ hg
    exact (halike.picksLike_iff hpicks hallowed).mpr (Gear.label_cost_of_same_item halike.alike)
  refine ⟨fun i g hi => ?_, hitem, fun hall p q hp hq hsame => ?_, fun hbundles g hg => ?_⟩
  · obtain ⟨j, first, hle, halike⟩ := exists_firstAlike hi
    exact ⟨j, first, hle, halike, halike.pick_eq hpicks hallowed⟩
  · -- both bundles have the same first choice
    obtain ⟨j, first, halike⟩ := hfirst _ hp
    have halike' : s.FirstAlike (.bundle q) j first := halike.of_same hsame
    obtain ⟨hlabel, hcost⟩ := (halike.picksLike_iff hpicks hallowed).mp (hall _ hp)
    obtain ⟨hlabel', hcost'⟩ := (halike'.picksLike_iff hpicks hallowed).mp (hall _ hq)
    exact ⟨hlabel.symm.trans hlabel', hcost.symm.trans hcost'⟩
  · cases g with
    | item item => exact hitem item hg
    | bundle q =>
      obtain ⟨j, first, halike⟩ := hfirst _ hg
      refine (halike.picksLike_iff hpicks hallowed).mpr ?_
      cases first with
      | item item => cases halike.alike
      | bundle p => exact hbundles p q (List.mem_of_getElem? halike.offered) hg halike.alike

/-- Where a single bundle is on offer, it can be picked by what it is. -/
theorem pick_gear_offered_drill :
    let s := Guards.drillSheet "Axe/Axe+Bow" [Guards.axe, Guards.kit 1] []
    read (Guards.drill 5 [] "Axe/Axe+Bow").arsenal "Axe/Axe+Bow" ⟨[], .squad⟩ = .ok s ∧
      ∀ g ∈ s.gear, s.PicksLike g := by
  intro s
  have hread : read (Guards.drill 5 [] "Axe/Axe+Bow").arsenal "Axe/Axe+Bow" ⟨[], .squad⟩ =
      .ok s := by
    with_unfolding_all rfl
  obtain ⟨-, -, hall⟩ := pick_gear_offered hread
  refine ⟨hread, hall.mpr fun p q hp hq _ => ?_⟩
  have hkit (b : Bundle) (hb : .bundle b ∈ s.gear) : Gear.bundle b = Guards.kit 1 := by
    simpa [s, Guards.drillSheet, Sheet.gear, Offer.gear, Menu.gear, Guards.axe] using hb
  have hsame : Gear.bundle p = .bundle q := (hkit p hp).trans (hkit q hq).symm
  cases hsame
  exact ⟨rfl, rfl⟩

/-- An axe and a bow, behind two axes and a bow, pick these. -/
theorem pick_gear_passed_over :
    let s := Guards.drillSheet "2*Axe+Bow/Axe+Bow" [Guards.kit 2, Guards.kit 1] []
    read (Guards.drill 5 [] "2*Axe+Bow/Axe+Bow").arsenal "2*Axe+Bow/Axe+Bow" ⟨[], .squad⟩ =
        .ok s ∧
      s.gear[1]? = some (Guards.kit 1) ∧ (Guards.kit 1).label = "Axe & Bow" ∧
      (Guards.kit 1).cost = 8 ∧
      ∃ t, s.pick (.gear (Guards.kit 1)) .refuse = .ok t ∧ t.selected.labels = ["2 Axes & Bow"] ∧
        t.selected.cost = 11 := by
  intro s
  have halike : s.FirstAlike (Guards.kit 1) 0 (Guards.kit 2) :=
    ⟨rfl, Guards.kit_same 2 1, fun k _ _ _ => Nat.zero_le k⟩
  obtain ⟨hpick, hselected⟩ := halike.pick_eq rfl (Nat.le_refl 1)
  refine ⟨by with_unfolding_all rfl, rfl, by decide, by decide, s.once 0, hpick, ?_⟩
  rw [hselected]
  decide

end Sheet

/-! ## Groups that are equipped alike -/

namespace Squad

variable {x : Codex} {u : UnitTemplate} {s s' : Squad} {g : Group} {t : Sheet}

/-- A model of the group has the points of its type: the unit's own, or one that it lists. -/
def Priced (x : Codex) (u : UnitTemplate) (g : Group) : Prop :=
  g.kind = u.name ∧ g.basePoints = u.basePoints ∨
    g.kind ∈ u.models ∧ ∃ m, x.model g.kind = .ok m ∧ g.basePoints = m.points

/-- Models that take what they select are of the unit's own type, at its points. -/
theorem Standing.variant_eq (h : Standing x u s) (t : Sheet) :
    (s.variant t).kind = u.name ∧ (s.variant t).basePoints = u.basePoints := by
  rw [h.leadPlain.variant_eq, h.lead]
  exact ⟨rfl, rfl⟩

/-- The lead group has the points of the unit. -/
theorem Standing.priced_lead (h : Standing x u s) : Priced x u s.lead := by
  rw [h.lead]
  exact .inl ⟨rfl, rfl⟩

/-- Groups of further types have the points of their types. -/
theorem priced_of_mem_extraGroups (hstanding : Standing x u s) {counts : List Nat}
    {groups : List Group} (h : s.extraGroups counts = .ok groups) (hg : g ∈ groups) :
    Priced x u g := by
  obtain ⟨kind, count, hmem, hgroup⟩ := exists_of_mem_extraGroups h hg
  obtain ⟨m, hmodel, -, ⟨-, hnone⟩ | ⟨-, gear, hfound⟩⟩ := extraGroup_cases hgroup
  · cases hnone
  · cases hfound
    rw [hstanding.template] at hmem
    rw [hstanding.codex] at hmodel
    exact .inr ⟨(List.of_mem_zip hmem).1, m, hmodel, rfl⟩

/-- Writing back a group with the points of its type keeps all groups so. -/
theorem priced_regroup (h : ∀ k ∈ s.others, Priced x u k) (hg : Priced x u g)
    (leadCount count : Nat) :
    ∀ k ∈ (s.regroup (s.existing? g) g leadCount count).others, Priced x u k := by
  intro k hk
  obtain ⟨k, n, hold | rfl, rfl⟩ := exists_of_mem_regroup hk
  · exact h k hold
  · exact hg

/-- Models that are set apart keep their type and its points. -/
theorem priced_of_equipped (hstanding : Standing x u s) (h : ∀ g ∈ s.others, Priced x u g)
    (hequipped : Equipped s t s') : ∀ g ∈ s'.others, Priced x u g := by
  cases hequipped with
  | unpicked => exact h
  | whole =>
    rw [hstanding.leadPlain.equipAll_eq]
    exact h
  | apart _ _ hcarve =>
    cases carved_of_ok hcarve with
    | kept => exact h
    | @regrouped existing current target moved returned _ hexisting =>
      subst hexisting
      exact priced_regroup h (.inl (hstanding.variant_eq t)) (s.lead.count - moved + returned)
        (current + moved - returned)

/-- A step keeps the points of all groups those of their types. -/
theorem priced_step (hstanding : Standing x u s) (h : ∀ g ∈ s.others, Priced x u g)
    (hstep : Step s s') : ∀ g ∈ s'.others, Priced x u g := by
  cases hstep with
  | read => exact h
  | mark => exact h
  | clearPicks => exact h
  | rename => exact h
  | resize => exact h
  | equipped _ hequipped => exact priced_of_equipped hstanding h hequipped
  | resizeModels _ _ hgroups =>
    intro g hg
    rcases List.mem_append.mp hg with hown | hextra
    · exact h g (List.mem_of_mem_filter hown)
    · exact priced_of_mem_extraGroups hstanding hgroups hextra
  | reset hreset =>
    obtain ⟨gear, -, rfl⟩ := exists_of_ofTemplate hreset
    exact fun g hg => absurd hg List.not_mem_nil

/-- In every squad that can be come by, every model has the points of its type. -/
theorem Reachable.priced (h : Reachable x s) : ∀ g ∈ s.groups, Priced x s.template g := by
  obtain ⟨role, unit, s₀, calls, hmuster, rfl⟩ := h
  obtain ⟨u, -, htemplate⟩ := exists_of_muster hmuster
  have hstanding := standing_ofTemplate htemplate
  have hstart : ∀ g ∈ s₀.others, Priced x u g := by
    rw [(leadPlain_of_muster hmuster).2]
    exact fun g hg => absurd hg List.not_mem_nil
  have hothers : ∀ g ∈ (s₀.run calls).others, Priced x u g :=
    hstanding.keep (fun _ _ hs hpriced hstep => priced_step hs hpriced hstep) hstart calls
  rw [(hstanding.run calls).template]
  exact List.forall_mem_cons.mpr ⟨(hstanding.run calls).priced_lead, hothers⟩

/-- A group of the unit's own type has the points of its template, unless it is of a further type
that goes by the same name. -/
theorem Reachable.basePoints_eq (h : Reachable x s) (hg : g ∈ s.groups)
    (hkind : g.kind = s.template.name)
    (hown : g = s.lead ∨ ∀ m, s.template.name ∈ s.template.models →
      x.model s.template.name = .ok m → m.points = s.template.basePoints) :
    g.basePoints = s.template.basePoints := by
  obtain ⟨role, unit, u, -, hstanding⟩ := h.standing
  rcases hown with rfl | hown
  · rw [hstanding.lead, hstanding.template]
    rfl
  · rcases h.priced g hg with ⟨-, hpoints⟩ | ⟨hlisted, m, hmodel, hpoints⟩
    · exact hpoints
    · rw [hkind] at hlisted hmodel
      exact hpoints.trans (hown m hlisted hmodel)

/-- Where what models take for an option makes them equipped like a group, the two have the same
points without gear, and their single items cost the same. So a model of the one is as many points
as a model of the other if and only if their bundles cost the same or both are stopped at the
largest amount, and in any case if bundles that count as the same do. -/
theorem pointsEach_variant_eq_iff (h : Reachable x s) (t : Sheet) (hg : g ∈ s.groups)
    (hlike : (s.variant t).equippedLike g s.gear = true)
    (hown : g = s.lead ∨ ∀ m, s.template.name ∈ s.template.models →
      x.model s.template.name = .ok m → m.points = s.template.basePoints) :
    let before := g.loadout s.gear
    let after := (s.variant t).loadout s.gear
    (s.variant t).basePoints = g.basePoints ∧ after.itemCost = before.itemCost ∧
      ((s.variant t).pointsEach s.gear = g.pointsEach s.gear ↔
        after.bundleCost = before.bundleCost ∨
          (s.variant t).pointsEach s.gear = Amount.cap ∧ g.pointsEach s.gear = Amount.cap) ∧
      ((∀ p q, .bundle p ∈ after → .bundle q ∈ before → p.same q = true → p.cost = q.cost) →
        (s.variant t).pointsEach s.gear = g.pointsEach s.gear) := by
  intro before after
  obtain ⟨role, unit, u, -, hstanding⟩ := h.standing
  obtain ⟨hname, hpoints⟩ := hstanding.variant_eq t
  rw [← hstanding.template] at hname hpoints
  have hlook := Group.equippedLike_iff.mp hlike
  have hkind : (s.variant t).kind = g.kind := congrArg Prod.fst hlook
  have hbag : after.bag = before.bag := congrArg Prod.snd hlook
  have hbase : (s.variant t).basePoints = g.basePoints :=
    hpoints.trans (h.basePoints_eq hg (hkind.symm.trans hname) hown).symm
  have hitems : after.itemCost = before.itemCost := by
    rw [Loadout.itemCost_eq, Loadout.itemCost_eq, hbag]
  exact ⟨hbase, hitems, Group.pointsEach_eq_iff hbase hitems,
    Group.pointsEach_eq_of_bundles hbase hbag⟩

/-- A guard who takes a bow joins those who have one, at 15 points as they are. -/
theorem pointsEach_variant_guards :
    let s := { Guards.squad ["Axe"] [Guards.axe] 2 56 with
      others := [⟨"Guards", 2, 10, [Guards.bow], [Guards.axe], none⟩] }
    let t := Guards.sheet [⟨1, 1⟩]
    Reachable (Guards.codex ["Axe"]) s ∧ ∃ g ∈ s.groups, g ≠ s.lead ∧
      (s.variant t).equippedLike g s.gear = true ∧ g.pointsEach s.gear = 15 ∧
      (s.variant t).pointsEach s.gear = g.pointsEach s.gear := by
  intro s t
  let g : Group := ⟨"Guards", 2, 10, [Guards.bow], [Guards.axe], none⟩
  have hreach : Reachable (Guards.codex ["Axe"]) s :=
    ⟨.troops, "Guards", Guards.squad ["Axe"] [Guards.axe] 1 13,
      [.resize 4, .equip (Guards.sheet [⟨1, 1⟩])],
      by with_unfolding_all rfl, by with_unfolding_all rfl⟩
  have hg : g ∈ s.groups := List.mem_cons_of_mem _ List.mem_cons_self
  have hlike : (s.variant t).equippedLike g s.gear = true := by decide
  have hown : ∀ m, s.template.name ∈ s.template.models →
      (Guards.codex ["Axe"]).model s.template.name = .ok m → m.points = s.template.basePoints :=
    fun m hlisted _ => absurd hlisted List.not_mem_nil
  obtain ⟨-, -, -, heq⟩ := pointsEach_variant_eq_iff hreach t hg hlike (.inr hown)
  have hbundles : ∀ p q, .bundle p ∈ (s.variant t).loadout s.gear →
      .bundle q ∈ g.loadout s.gear → p.same q = true → p.cost = q.cost := by
    intro p q hp
    have hloadout : (s.variant t).loadout s.gear = [Guards.bow] := by decide
    rw [hloadout] at hp
    cases List.mem_singleton.mp hp
  exact ⟨hreach, g, hg, by decide, hlike, by decide, heq hbundles⟩

/-- Guards with an axe and a bow who take two axes and a bow are taken to have them already, at 18
points and not at 21; and one who takes two axes and a bow besides its axe is put to those who have
taken an axe and a bow, at 21 points and not at 24. -/
theorem pointsEach_variant_ne_drilled :
    (let option := "2*Axe+Bow/Bow-"
      let s := Guards.drilled ["Axe+Bow"] option [Guards.kit 1] 2 36
      let t := (Guards.modelSheet option [Guards.kit 2, Guards.bow] [Guards.kit 1]).once 0
      Reachable s.codex s ∧ s.template.options = [option] ∧
        Offer.read s.codex.arsenal option = .ok t.offer ∧ t.checkPicks = .ok () ∧
        (s.variant t).equippedLike s.lead s.gear = true ∧ s.perform (carve t) = (s, .ok ()) ∧
        (s.variant t).pointsEach s.gear = 21 ∧ s.lead.pointsEach s.gear = 18) ∧
    (let option := "Axe+Bow/2*Axe+Bow-"
      let sheet := Guards.modelSheet option [Guards.kit 1, Guards.kit 2] [Guards.axe]
      let g : Group := ⟨"Guards", 1, 10, [Guards.kit 1], [], none⟩
      let s := { Guards.drilled ["Axe"] option [Guards.axe] 1 34 with others := [g] }
      let t := sheet.once 1
      Reachable s.codex s ∧ s.template.options = [option] ∧
        Offer.read s.codex.arsenal option = .ok t.offer ∧ t.checkPicks = .ok () ∧
        s.existing? (s.variant t) = some 0 ∧
        (s.variant t).pointsEach s.gear = 24 ∧ g.pointsEach s.gear = 21) := by
  constructor
  · intro option s t
    have hreach : Reachable s.codex s :=
      ⟨.troops, "Guards", Guards.drilled ["Axe+Bow"] option [Guards.kit 1] 1 18, [.resize 2],
        by with_unfolding_all rfl, by with_unfolding_all rfl⟩
    have hread : Offer.read s.codex.arsenal option = .ok t.offer := by
      dsimp only [s, t, option]
      with_unfolding_all rfl
    have hloadout : (s.variant t).loadout s.gear = [Guards.kit 2] := by
      rw [hreach.leadPlain.loadout_variant]
      change Loadout.dropAll [Guards.kit 1] [Guards.kit 2, Guards.bow] ++ [Guards.kit 2] = _
      simp only [Loadout.dropAll, List.foldl_cons, List.foldl_nil, Loadout.drop_cons,
        Guards.kit_same, if_true]
      rfl
    have hlike : (s.variant t).equippedLike s.lead s.gear = true := by
      rw [Group.equippedLike_iff, Group.look, hloadout, hreach.leadPlain.variant_eq]
      rfl
    refine ⟨hreach, rfl, hread, rfl, hlike, ?_, ?_, by decide⟩
    · rw [perform_carve, if_pos hlike]
    · rw [Group.pointsEach, hloadout, hreach.leadPlain.variant_eq]
      decide
  · intro option sheet g s t
    have hreach : Reachable s.codex s := by
      refine ⟨.troops, "Guards", Guards.drilled ["Axe"] option [Guards.axe] 1 13,
        [.resize 2, .equip (sheet.once 0)], by with_unfolding_all rfl, ?_⟩
      dsimp only [s, sheet, option, g]
      with_unfolding_all rfl
    have hread : Offer.read s.codex.arsenal option = .ok t.offer := by
      dsimp only [s, t, sheet, option]
      with_unfolding_all rfl
    have hloadout : (s.variant t).loadout s.gear = [Guards.axe, Guards.kit 2] := by
      rw [hreach.leadPlain.loadout_variant]
      rfl
    have hlike : g.equippedLike (s.variant t) s.gear = true := by
      rw [Group.equippedLike_iff, Group.look, Group.look, hloadout, hreach.leadPlain.variant_eq]
      rfl
    refine ⟨hreach, rfl, hread, rfl, ?_, ?_, by decide⟩
    · change List.findIdx? _ [g] = _
      rw [List.findIdx?_cons, hlike, if_pos rfl]
    · rw [Group.pointsEach, hloadout, hreach.leadPlain.variant_eq]
      decide

end Squad

end Muster
