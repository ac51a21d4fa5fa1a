import Mathlib.Data.List.Perm.Basic
import Muster.Proofs.Bags

/-!
# Comparing groups

Two groups are compared by working down the loadout of the one and striking the first match of each
piece out of a copy of the other. Which match is struck out makes no difference, since pieces that
count as the same are alike in whatever they match. So comparing groups is an equivalence, it holds
where the loadouts are the same gear in some order, and what one group has gained over another is
the difference of their bags, piece by piece.
-/

namespace Muster

/-- What counts as the same gear falls into classes. -/
theorem Gear.same_equivalence : Equivalence fun g h : Gear => g.same h = true where
  refl _ := same_iff.mpr rfl
  symm h := same_iff.mpr (same_iff.mp h).symm
  trans h h' := same_iff.mpr ((same_iff.mp h).trans (same_iff.mp h'))

namespace Loadout

variable {l m : Loadout}

/-- The same gear in another order: in some order of the second loadout, each piece counts as the
same as the piece of the first in its place. -/
def Reorders (l m : Loadout) : Prop :=
  ∃ k, List.Forall₂ (fun g h => g.same h = true) l k ∧ k.Perm m

/-- Two loadouts count as the same piece by piece exactly where their lists of likenesses are
equal. -/
theorem forall₂_same_iff : List.Forall₂ (fun g h => g.same h = true) l m ↔
    l.map Gear.likeness = m.map Gear.likeness := by
  rw [← List.forall₂_eq_eq_eq, List.forall₂_map_left_iff, List.forall₂_map_right_iff]
  simp only [Gear.same_iff]

/-- Bags are equal if and only if the loadouts are the same gear in another order. -/
theorem bag_eq_iff_reorders : l.bag = m.bag ↔ l.Reorders m := by
  have horders := congrFun (congrFun (List.eq_map_comp_perm Gear.likeness) (l.map Gear.likeness)) m
  calc
    l.bag = m.bag ↔ (l.map Gear.likeness).Perm (m.map Gear.likeness) := Multiset.coe_eq_coe
    _ ↔ ∃ k : Loadout, l.map Gear.likeness = k.map Gear.likeness ∧ k.Perm m :=
      Iff.of_eq horders.symm
    _ ↔ l.Reorders m := by simp only [Reorders, forall₂_same_iff]

/-- Of each class of gear, what is left is what there is beyond the matches. -/
theorem countP_minus (l m : Loadout) (piece : Gear) :
    ((l.minus m).countP fun held => held.same piece) =
      (l.countP fun held => held.same piece) - m.countP fun held => held.same piece := by
  simp only [← count_bag, bag_minus, Multiset.count_sub]

end Loadout

namespace Group

variable {g h : Group} {base : Loadout}

/-- Being equipped alike is an equivalence of groups, over any base gear. -/
theorem equippedLike_equivalence (base : Loadout) :
    Equivalence fun g h : Group => g.equippedLike h base = true where
  refl _ := equippedLike_iff.mpr rfl
  symm h := equippedLike_iff.mpr (equippedLike_iff.mp h).symm
  trans h h' := equippedLike_iff.mpr ((equippedLike_iff.mp h).trans (equippedLike_iff.mp h'))

/-- Groups are equipped alike exactly where their kinds are equal and their gear is the same in
another order. -/
theorem equippedLike_iff_reorders :
    g.equippedLike h base = true ↔ g.kind = h.kind ∧ (g.loadout base).Reorders (h.loadout base) := by
  rw [equippedLike_iff, look, look, Prod.mk.injEq, Loadout.bag_eq_iff_reorders]

/-- Groups of one kind are equipped alike if neither has gained anything over the other. -/
theorem equippedLike_iff_gainedOver :
    g.equippedLike h base = true ↔
      g.kind = h.kind ∧ g.gainedOver h base = [] ∧ h.gainedOver g base = [] := by
  rw [equippedLike_iff, look, look, Prod.mk.injEq, gainedOver_eq_nil_iff, gainedOver_eq_nil_iff,
    ← le_antisymm_iff]

/-- Over every base loadout, being equipped alike is an equivalence; it is being of one kind with
the same gear in some order, and also being of one kind with nothing gained on either side; and what
a group has gained over another has of each class of gear what the first carries of it beyond the
second. -/
theorem equippedLike_exact (base : Loadout) :
    (Equivalence fun g h : Gear => g.same h = true) ∧
      (Equivalence fun g h : Group => g.equippedLike h base = true) ∧
      ∀ g h : Group,
        (g.equippedLike h base = true ↔
          g.kind = h.kind ∧ (g.loadout base).Reorders (h.loadout base)) ∧
        (g.equippedLike h base = true ↔
          g.kind = h.kind ∧ g.gainedOver h base = [] ∧ h.gainedOver g base = []) ∧
        ∀ piece : Gear, ((g.gainedOver h base).countP fun held => held.same piece) =
          ((g.loadout base).countP fun held => held.same piece) -
            (h.loadout base).countP fun held => held.same piece :=
  ⟨Gear.same_equivalence, equippedLike_equivalence base, fun _ _ =>
    ⟨equippedLike_iff_reorders, equippedLike_iff_gainedOver, Loadout.countP_minus _ _⟩⟩

end Group

end Muster
