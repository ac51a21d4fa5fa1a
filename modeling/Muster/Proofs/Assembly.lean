import Muster.Proofs.Points

/-!
# Assembled gear

Gear is assembled from the entries of an arsenal by giving quantities, multiplying, and bundling.
When two pieces are joined, their members go into one new bundle. An item takes its quantity along,
since the quantity is the member's own; how many bundles there were is not kept. What a joined piece
costs is therefore told from the prices of one of each, and these are compared with the prices of
the pieces themselves.
-/

namespace Muster

open Amount (cap clamp)

namespace Gear

/-- The gear that can be made from the entries of an arsenal. -/
inductive Assembled (a : Arsenal) : Gear → Prop where
  | entry {name : String} {e : Entry} : a.lookup? name = some e → Assembled a (.item e.toItem)
  | withQuantity {i : Item} (quantity : Nat) :
      Assembled a (.item i) → Assembled a (.item (i.withQuantity quantity))
  | times {g : Gear} (factor : Nat) : Assembled a g → Assembled a (g.times factor)
  | join {g h : Gear} : Assembled a g → Assembled a h → Assembled a (g.join h)
  | ofMembers {items : List Item} {b : Bundle} :
      (∀ i ∈ items, Assembled a (.item i)) → Bundle.ofMembers? items = some b →
      Assembled a (.bundle b)

/-- How many bundles there are. An item is one piece in whatever quantity. -/
def bundles : Gear → Nat
  | item _ => 1
  | bundle b => b.quantity

/-- One bundle, where there are several. -/
def once : Gear → Gear
  | item i => item i
  | bundle b => bundle { b with quantity := 1 }

/-- There are several bundles, and they are not free. -/
def Multiplied (g : Gear) : Prop := 1 < g.bundles ∧ 0 < g.cost

variable {a : Arsenal} {g h : Gear}

/-- Two pieces joined are one bundle. -/
theorem bundles_join (g h : Gear) : (g.join h).bundles = 1 := by
  cases g <;> cases h <;> rfl

/-- What is assembled from an arsenal is there at least once. -/
theorem Assembled.one_le_bundles (hg : Assembled a g) : 1 ≤ g.bundles := by
  cases hg with
  | entry => exact Nat.le_refl 1
  | withQuantity => exact Nat.le_refl 1
  | @times g factor _ =>
    cases g with
    | item => exact Nat.le_refl 1
    | bundle => exact Nat.le_max_right _ 1
  | join => exact Nat.le_of_eq (bundles_join _ _).symm
  | @ofMembers items b _ hmade =>
    rcases items with _ | ⟨i, _ | ⟨j, more⟩⟩ <;> cases hmade
    exact Nat.le_refl 1

/-! ## What joining adds up -/

/-- One of a piece is worth what its members come to. -/
theorem worth_once (g : Gear) : g.once.worth = Amount.sum (g.members.map Item.worth) := by
  cases g with
  | item => rfl
  | bundle => exact Nat.one_mul _

/-- A joined piece is there once. -/
theorem once_join (g h : Gear) : (g.join h).once = g.join h := by
  cases g <;> cases h <;> rfl

/-- A joined piece is worth its two parts taken once each. -/
theorem worth_join (g h : Gear) : (g.join h).worth = g.once.worth + h.once.worth := by
  calc
    (g.join h).worth = (g.join h).once.worth := by rw [once_join]
    _ = Amount.sum ((g.members ++ h.members).map Item.worth) := by rw [worth_once, members_join]
    _ = g.once.worth + h.once.worth := by
      rw [List.map_append, Amount.sum_append, worth_once, worth_once]

/-- A joined piece costs its two parts taken once each, stopped at the largest amount. -/
theorem cost_join (g h : Gear) : (g.join h).cost = clamp (g.once.cost + h.once.cost) := by
  rw [cost_eq_clamp, worth_join, cost_eq_clamp g.once, cost_eq_clamp h.once,
    Amount.clamp_clamp_add, Amount.clamp_add_clamp]

/-! ## One piece and all of it -/

/-- A piece is worth its one bundle as often as it is there. -/
theorem worth_eq_bundles_mul (g : Gear) : g.worth = g.bundles * g.once.worth := by
  cases g with
  | item => exact (Nat.one_mul _).symm
  | bundle b => rw [worth_once]; rfl

/-- A piece costs its one bundle as often as it is there, stopped once. -/
theorem cost_eq_bundles_mul (g : Gear) : g.cost = clamp (g.bundles * g.once.cost) := by
  rw [cost_eq_clamp g.once, Amount.clamp_mul_clamp, ← worth_eq_bundles_mul, cost_eq_clamp]

/-- Taking a piece once never costs more. -/
theorem cost_once_le (hg : 1 ≤ g.bundles) : g.once.cost ≤ g.cost := by
  have hcap : g.once.cost ≤ cap := cost_eq_clamp g.once ▸ Amount.clamp_le_cap _
  rw [cost_eq_bundles_mul g]
  exact Nat.le_min.mpr ⟨Nat.le_mul_of_pos_left _ hg, hcap⟩

/-- A piece that is not multiplied costs the same taken once. -/
theorem cost_once_eq (hg : 1 ≤ g.bundles) (hone : ¬g.Multiplied) : g.once.cost = g.cost := by
  by_cases hseveral : 1 < g.bundles
  · -- several bundles that are free
    have hfree : g.cost = 0 := Nat.eq_zero_of_not_pos fun hcost => hone ⟨hseveral, hcost⟩
    rw [hfree]
    exact Nat.le_zero.mp (hfree ▸ cost_once_le hg)
  · have hbundles : g.bundles = 1 := Nat.le_antisymm (Nat.le_of_not_lt hseveral) hg
    rw [cost_eq_bundles_mul g, hbundles, Nat.one_mul, cost_eq_clamp g.once, Amount.clamp,
      Amount.clamp, Nat.min_assoc, Nat.min_self]

/-- Several bundles cost more than one, unless one is at the largest amount already. -/
theorem cost_once_lt (hg : g.Multiplied) (hcap : g.once.cost < cap) : g.once.cost < g.cost := by
  obtain ⟨hseveral, hcost⟩ := hg
  rw [cost_eq_bundles_mul g] at hcost ⊢
  have hpos : 0 < g.once.cost :=
    Nat.pos_of_mul_pos_left (Nat.lt_of_lt_of_le hcost (Nat.min_le_left _ _))
  exact Nat.lt_min.mpr ⟨(Nat.lt_mul_iff_one_lt_left hpos).mpr hseveral, hcap⟩

/-! ## Joining and prices -/

/-- The price of joined gear is that of one of each piece together. It is the price of both pieces
together if and only if neither is several bundles that cost something, or one of each comes to the
largest amount already. -/
theorem cost_join_eq_add_iff (hg : Assembled a g) (hh : Assembled a h) :
    (g.join h).cost = clamp (g.once.cost + h.once.cost) ∧
      ((g.join h).cost = clamp (g.cost + h.cost) ↔
        (¬g.Multiplied ∧ ¬h.Multiplied) ∨ cap ≤ g.once.cost + h.once.cost) := by
  have hgle := cost_once_le hg.one_le_bundles
  have hhle := cost_once_le hh.one_le_bundles
  refine ⟨cost_join g h, ?_⟩
  rw [cost_join]
  constructor
  · intro hsame
    refine Classical.or_iff_not_imp_right.mpr fun hcap => ?_
    have hsum : g.once.cost + h.once.cost = g.cost + h.cost := by
      simp only [clamp] at hsame
      omega
    exact ⟨fun hseveral => Nat.ne_of_lt (cost_once_lt hseveral (by omega)) (by omega),
      fun hseveral => Nat.ne_of_lt (cost_once_lt hseveral (by omega)) (by omega)⟩
  · rintro (⟨hgone, hhone⟩ | hcap)
    · rw [cost_once_eq hg.one_le_bundles hgone, cost_once_eq hh.one_le_bundles hhone]
    · have hmore : cap ≤ g.cost + h.cost := Nat.le_trans hcap (Nat.add_le_add hgle hhle)
      rw [clamp, clamp, Nat.min_eq_right hcap, Nat.min_eq_right hmore]

/-- The axe of the example is assembled from its arsenal. -/
theorem assembled_axe : Assembled (Guards.codex []).arsenal Guards.axe :=
  .entry (show Arsenal.lookup? _ "Axe" = some ⟨"Axe", 3, .melee⟩ by with_unfolding_all rfl)

/-- The bow of the example is assembled from its arsenal. -/
theorem assembled_bow : Assembled (Guards.codex []).arsenal Guards.bow :=
  .entry (show Arsenal.lookup? _ "Bow" = some ⟨"Bow", 5, .ranged⟩ by with_unfolding_all rfl)

/-- Two axes joined with a kit of an axe and a bow: the quantity of the axes is kept. -/
theorem cost_join_two_axes :
    let a := (Guards.codex []).arsenal
    let axes := Guards.axe.times 2
    Assembled a axes ∧ Assembled a (Guards.kit 1) ∧ axes.cost = 6 ∧ (Guards.kit 1).cost = 8 ∧
      (axes.join (Guards.kit 1)).cost = 14 ∧
      (axes.join (Guards.kit 1)).cost = clamp (axes.cost + (Guards.kit 1).cost) := by
  intro a axes
  have hkit : Assembled a (Guards.kit 1) := assembled_axe.join assembled_bow
  have hone : ¬axes.Multiplied ∧ ¬(Guards.kit 1).Multiplied :=
    ⟨fun h => absurd h.1 (by decide), fun h => absurd h.1 (by decide)⟩
  exact ⟨assembled_axe.times 2, hkit, rfl, rfl, rfl,
    (cost_join_eq_add_iff (assembled_axe.times 2) hkit).2.mpr (.inl hone)⟩

/-- Two kits joined with a bow: one kit is lost, and its price with it. -/
theorem cost_join_two_kits :
    let a := (Guards.codex []).arsenal
    let kits := (Guards.kit 1).times 2
    Assembled a kits ∧ Assembled a Guards.bow ∧ (kits.join Guards.bow).cost = 13 ∧
      clamp (kits.cost + Guards.bow.cost) = 21 := by
  intro a kits
  exact ⟨(assembled_axe.join assembled_bow).times 2, assembled_bow, rfl, rfl⟩

end Gear

end Muster
