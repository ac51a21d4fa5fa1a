import Muster.Gear

/-!
# Offers

What an option clause says: which gear is on offer, to how many models, and how many of the
choices may be taken.
-/

namespace Muster

/-- How far an option reaches. -/
inductive Reach where
  /-- the whole squad at once -/
  | squad
  /-- any one model at a time -/
  | anyModel
  /-- one model for every `n` -/
  | every (n : Nat)
deriving DecidableEq, Repr

/-- The gear on offer. -/
inductive Menu where
  /-- one piece, to take or leave -/
  | single (g : Gear)
  /-- alternatives in the order they are written -/
  | choice (gs : List Gear)
deriving DecidableEq, Repr

/-- A menu from the last piece and those before it, nearest first. -/
def Menu.ofReversed (last : Gear) : List Gear → Menu
  | [] => single last
  | before => choice (before.reverse ++ [last])

/-- The pieces of a menu, left to right. -/
def Menu.gear : Menu → List Gear
  | single g => [g]
  | choice gs => gs

/-- The reading of one option clause; `picks` is the number in front of a `#`. -/
structure Offer where
  picks : Option Nat
  reach : Reach
  menu : Menu
deriving DecidableEq, Repr

namespace Offer

/-- Everything the clause mentions, left to right. -/
def gear (o : Offer) : List Gear := o.menu.gear

/-- How many different choices may be taken. -/
def picksAllowed (o : Offer) : Nat := o.picks.getD 1

/-- The number of models that one use of the option needs. -/
def modelsPer (o : Offer) : Nat :=
  match o.reach with
  | .every n => n
  | _ => 1

/-- Whether any one model may take up the offer. -/
def perModel (o : Offer) : Bool := o.reach = .anyModel

/-- Whether the offer has alternatives. -/
def hasChoice (o : Offer) : Bool :=
  match o.menu with
  | .choice _ => true
  | .single _ => false

/-- The piece that a clause without operators on models or picks stands for. -/
def toGear? : Offer → Option Gear
  | ⟨none, .squad, .single g⟩ => some g
  | _ => none

end Offer

end Muster
