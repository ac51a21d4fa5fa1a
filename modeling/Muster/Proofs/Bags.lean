import Mathlib.Algebra.Order.Sub.Basic
import Mathlib.Data.Multiset.Filter
import Mathlib.Data.Multiset.OrderedMonoid
import Muster.Squad.Group

/-!
# Loadouts as bags

Gear is compared by what counts as the same, and the order of a loadout does not matter. The bag of
a loadout forgets the rest: it counts how often each likeness of a piece is there. Taking out gear
takes it out of the bag, and loadouts agree if and only if their bags are equal, so that what two
groups have in common can be reckoned in bags.
-/

namespace Muster

/-- What all pieces that count as the same gear have in common. -/
inductive Likeness where
  | item (name : String) (quantity cost : Nat)
  | bundle (names : List String)
deriving DecidableEq

/-- What a piece of gear has in common with those that count as the same. -/
def Gear.likeness : Gear → Likeness
  | item i => .item i.name i.quantity i.cost
  | bundle b => .bundle b.sortedNames

/-- Two pieces count as the same exactly where their likenesses are equal. -/
theorem Gear.same_iff {g h : Gear} : g.same h = true ↔ g.likeness = h.likeness := by
  cases g <;> cases h <;>
    simp [same, likeness, Item.same, Bundle.same, and_assoc]

namespace Loadout

/-- How often each likeness occurs in a loadout. -/
def bag (l : Loadout) : Multiset Likeness := ↑(l.map Gear.likeness)

/-- An empty loadout holds nothing. -/
@[simp] theorem bag_nil : bag [] = 0 := rfl

/-- A piece in front of a loadout adds its likeness. -/
@[simp] theorem bag_cons (g : Gear) (l : Loadout) : bag (g :: l) = g.likeness ::ₘ bag l := rfl

/-- Two loadouts together hold what both of them hold. -/
@[simp] theorem bag_append (l m : Loadout) : bag (l ++ m) = bag l + bag m := by
  simp [bag]

/-- A loadout carries a piece exactly where its bag has the likeness of the piece. -/
theorem carries_iff {l : Loadout} {g : Gear} : l.carries g = true ↔ g.likeness ∈ l.bag := by
  simp only [carries, List.any_eq_true, Gear.same_iff, bag, Multiset.mem_coe, List.mem_map]

/-- A likeness is in a bag as often as pieces of the loadout count as the same. -/
theorem count_bag (l : Loadout) (g : Gear) :
    l.bag.count g.likeness = l.countP fun held => held.same g := by
  induction l with
  | nil => rfl
  | cons held l ih =>
    rw [bag_cons, Multiset.count_cons, ih, List.countP_cons]
    congr 1
    exact if_congr (eq_comm.trans Gear.same_iff.symm) rfl rfl

/-- Dropping a piece takes the first one that counts as the same. -/
theorem drop_cons (h : Gear) (l : Loadout) (g : Gear) :
    drop (h :: l) g = if h.same g then l else h :: l.drop g := by
  rw [drop, List.eraseP_cons]
  cases h.same g <;> rfl

/-- Dropping a piece that is not carried changes nothing. -/
theorem drop_of_not_carries {l : Loadout} {g : Gear} (h : l.carries g = false) : l.drop g = l :=
  List.eraseP_of_forall_not (List.any_eq_false.mp h)

/-- Dropping a piece takes its likeness out of the bag once, if it is there. -/
theorem bag_drop (l : Loadout) (g : Gear) : (l.drop g).bag = l.bag.erase g.likeness := by
  induction l with
  | nil => rfl
  | cons h l ih =>
    rw [drop_cons, bag_cons]
    split
    next hh => rw [Gear.same_iff.mp hh, Multiset.erase_cons_head]
    next hh =>
      have hne : h.likeness ≠ g.likeness := fun h' => hh (Gear.same_iff.mpr h')
      rw [bag_cons, ih, Multiset.erase_cons_tail _ hne]

/-- Dropping pieces in turn takes one bag from the other. -/
theorem bag_dropAll (l gone : Loadout) : (l.dropAll gone).bag = l.bag - gone.bag := by
  induction gone generalizing l with
  | nil => exact (Multiset.sub_zero _).symm
  | cons g gone ih =>
    rw [dropAll, List.foldl_cons, ← dropAll, ih, bag_drop, bag_cons, Multiset.sub_cons]

/-- The pieces of one loadout beyond another are the difference of their bags. -/
theorem bag_minus (l m : Loadout) : (l.minus m).bag = l.bag - m.bag := by
  induction l generalizing m with
  | nil => exact (Multiset.zero_sub _).symm
  | cons g l ih =>
    rw [minus]
    by_cases hg : m.carries g = true
    · have hmem := carries_iff.mp hg
      rw [if_pos hg, ih, bag_drop, bag_cons]
      conv_rhs => rw [← Multiset.cons_erase hmem, Multiset.sub_cons, Multiset.erase_cons_head]
    · have hmem : g.likeness ∉ m.bag := fun h => hg (carries_iff.mpr h)
      rw [if_neg hg, bag_cons, bag_cons, ih]
      refine Multiset.ext.mpr fun x => ?_
      by_cases hx : x = g.likeness
      · rw [hx, Multiset.count_cons_self, Multiset.count_sub, Multiset.count_sub,
          Multiset.count_cons_self, Multiset.count_eq_zero.mpr hmem]
        rfl
      · rw [Multiset.count_cons_of_ne hx, Multiset.count_sub, Multiset.count_sub,
          Multiset.count_cons_of_ne hx]

/-- A bag has as many members as its loadout has pieces. -/
theorem card_bag (l : Loadout) : l.bag.card = l.length := by
  rw [bag, Multiset.coe_card, List.length_map]

/-- A bag is empty exactly where its loadout is. -/
theorem bag_eq_zero {l : Loadout} : l.bag = 0 ↔ l = [] := by
  rw [← Multiset.card_eq_zero, card_bag, List.length_eq_zero_iff]

/-- Nothing is left if and only if all is matched. -/
theorem minus_eq_nil_iff {l m : Loadout} : l.minus m = [] ↔ l.bag ≤ m.bag := by
  rw [← bag_eq_zero, bag_minus, tsub_eq_zero_iff_le]

/-- Two loadouts agree exactly where their bags are equal. -/
theorem agrees_iff {l m : Loadout} : l.agrees m = true ↔ l.bag = m.bag := by
  rw [agrees, Bool.and_eq_true, beq_iff_eq, List.isEmpty_iff, minus_eq_nil_iff, ← card_bag,
    ← card_bag]
  constructor
  · rintro ⟨hlength, hle⟩
    exact Multiset.eq_of_le_of_card_le hle hlength.ge
  · intro h
    exact ⟨congrArg _ h, h.le⟩

/-- Pieces that are matched later find what the earlier ones leave. -/
theorem minus_append (l l' m : Loadout) :
    (l ++ l').minus m = l.minus m ++ l'.minus (m.dropAll l) := by
  induction l generalizing m with
  | nil => rfl
  | cons g l ih =>
    rw [List.cons_append, minus, minus, dropAll, List.foldl_cons, ← dropAll]
    by_cases hg : m.carries g = true
    · rw [if_pos hg, if_pos hg, ih]
    · have hkeep := drop_of_not_carries (Bool.not_eq_true _ ▸ hg)
      rw [if_neg hg, if_neg hg, ih, hkeep, List.cons_append]

/-- The pieces beyond another loadout are pieces of the loadout. -/
theorem mem_of_mem_minus {l m : Loadout} {g : Gear} (h : g ∈ l.minus m) : g ∈ l := by
  induction l generalizing m with
  | nil => exact h
  | cons g' l ih =>
    rw [minus] at h
    split at h
    · exact List.mem_cons_of_mem _ (ih h)
    · rcases List.mem_cons.mp h with rfl | h
      · exact List.mem_cons_self
      · exact List.mem_cons_of_mem _ (ih h)

/-- Gear that is taken out only if it is there is taken out as often. -/
theorem bag_sub_bag_filter (l gone : Loadout) :
    l.bag - bag (gone.filter l.carries) = l.bag - gone.bag := by
  have hbag : bag (gone.filter l.carries) = gone.bag.filter (· ∈ l.bag) := by
    have hkept : gone.filter l.carries = gone.filter fun g => decide (g.likeness ∈ l.bag) :=
      List.filter_congr fun g _ => Bool.eq_iff_iff.mpr (carries_iff.trans decide_eq_true_iff.symm)
    change _ = Multiset.filter _ (↑(gone.map Gear.likeness) : Multiset Likeness)
    rw [hkept, Multiset.filter_coe, List.filter_map]
    rfl
  refine Multiset.ext.mpr fun x => ?_
  rw [hbag, Multiset.count_sub, Multiset.count_sub]
  by_cases hx : x ∈ l.bag
  · rw [Multiset.count_filter_of_pos hx]
  · rw [Multiset.count_eq_zero.mpr hx, Nat.zero_sub, Nat.zero_sub]

end Loadout

namespace Group

/-- A group carries the base gear without what it has exchanged, and its own gear. -/
theorem bag_loadout (g : Group) (base : Loadout) :
    (g.loadout base).bag = base.bag - g.exchanged.bag + g.gear.bag := by
  rw [loadout, Loadout.bag_append, Loadout.bag_dropAll]

/-- What groups that are equipped alike have in common. -/
def look (base : Loadout) (g : Group) : String × Multiset Likeness := (g.kind, (g.loadout base).bag)

/-- Two groups are equipped alike exactly where their looks are equal. -/
theorem equippedLike_iff {g h : Group} {base : Loadout} :
    g.equippedLike h base = true ↔ g.look base = h.look base := by
  rw [equippedLike, Bool.and_eq_true, beq_iff_eq, Loadout.agrees_iff, look, look, Prod.mk.injEq]

/-- A group gains nothing over another exactly where its bag is contained in the other's. -/
theorem gainedOver_eq_nil_iff {g h : Group} {base : Loadout} :
    g.gainedOver h base = [] ↔ (g.loadout base).bag ≤ (h.loadout base).bag :=
  Loadout.minus_eq_nil_iff

end Group

end Muster
