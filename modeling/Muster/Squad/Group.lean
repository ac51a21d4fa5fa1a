import Muster.Gear

/-!
# Groups of models

The models of a squad that are equipped alike. Every model carries the base gear of its squad,
without what its group has given up, and besides it the gear of its group.
-/

namespace Muster

/-- Models that are equipped alike, and how they differ from the rest of the squad. -/
structure Group where
  /-- the type of model -/
  kind : String
  count : Nat
  /-- points for one model without gear -/
  basePoints : Nat
  gear : Loadout
  /-- base gear that the group has given up -/
  exchanged : Loadout
  /-- the most models of this type that the squad may include -/
  limit : Option Nat
deriving DecidableEq, Repr

namespace Group

/-- Models with the base gear only. -/
def plain (kind : String) (count basePoints : Nat) : Group :=
  ⟨kind, count, basePoints, [], [], none⟩

/-- What one model of the group carries. -/
def loadout (g : Group) (base : Loadout) : Loadout := base.dropAll g.exchanged ++ g.gear

/-- The points of one model. -/
def pointsEach (g : Group) (base : Loadout) : Nat :=
  Amount.add g.basePoints (g.loadout base).cost

/-- The points of all models of the group. -/
def points (g : Group) (base : Loadout) : Nat := Amount.mul g.count (g.pointsEach base)

/-- The same group, with gear that counts as the same. -/
def same (g h : Group) : Bool :=
  g.kind == h.kind && g.count == h.count && g.basePoints == h.basePoints && g.gear.same h.gear
    && g.exchanged.same h.exchanged && g.limit == h.limit

/-- The same type of model with the same gear in the end, in any order and however it was come
by. -/
def equippedLike (g h : Group) (base : Loadout) : Bool :=
  g.kind == h.kind && (g.loadout base).agrees (h.loadout base)

/-- The gear of the first group that the second has not, piece by piece. -/
def gainedOver (g h : Group) (base : Loadout) : Loadout := (g.loadout base).minus (h.loadout base)

/-- Gives up a piece that is carried: one of the group's own if it has one, else a base piece. -/
def giveUp (carried : Loadout) (g : Group) (piece : Gear) : Group :=
  if carried.carries piece then
    if g.gear.carries piece then { g with gear := g.gear.drop piece }
    else { g with exchanged := g.exchanged ++ [piece] }
  else g

end Group

end Muster
