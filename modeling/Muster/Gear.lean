import Muster.Amount
import Muster.Text.Blank
import Muster.Text.Lowercase

/-!
# Gear

Single items and bundles: their prices, labels and catalog notation, when two pieces count as the
same gear, and loadouts as lists of gear. A bundle has its first two members as fields, so that it
always joins at least two items.
-/

namespace Muster

/-- The section of the armoury that an item is listed under. -/
inductive Category where
  | melee
  | ranged
  | other
deriving DecidableEq, Repr

namespace Category

/-- The name of a category as listings head it. -/
def name : Category → String
  | melee => "Melee"
  | ranged => "Ranged"
  | other => "Other"

/-- The place of a category in listings. -/
def rank : Category → Nat
  | melee => 0
  | ranged => 1
  | other => 2

/-- The words that name a category, upper or lower case, blanks around them ignored. -/
def ofText? (text : String) : Option Category :=
  let key := String.ofList (Text.asciiLower (Text.trim text.toList))
  if key = "melee" then some melee
  else if key = "ranged" ∨ key = "range" then some ranged
  else if key = "other" ∨ key = "other wargear" then some other
  else none

/-- What is said of a text that names no category. -/
def unknownMessage (text : String) : String :=
  "unknown armoury category '" ++ String.ofList (Text.asciiLower (Text.trim text.toList)) ++ "'"

end Category

/-- A number of equal pieces of equipment, each at `unitCost`. -/
structure Item where
  name : String
  quantity : Nat
  unitCost : Nat
  category : Category
deriving DecidableEq, Repr

namespace Item

/-- One piece. -/
def single (name : String) (unitCost : Nat) (category : Category) : Item :=
  ⟨name, 1, unitCost, category⟩

/-- The price of all pieces together. -/
def cost (i : Item) : Nat := Amount.mul i.quantity i.unitCost

/-- The same equipment in another quantity, at least one. -/
def withQuantity (i : Item) (quantity : Nat) : Item := { i with quantity := max quantity 1 }

/-- The equipment so many times over. -/
def times (i : Item) (factor : Nat) : Item := i.withQuantity (Amount.mul i.quantity factor)

/-- A plural takes an `s` unless the name ends in one. -/
def label (i : Item) : String :=
  if i.quantity = 1 then i.name
  else
    toString i.quantity ++ " " ++ i.name ++ (if i.name.toList.getLast? = some 's' then "" else "s")

/-- The notation that a catalog uses for the item: `Heat ray` or `2*Heat ray`. -/
def notated (i : Item) : String :=
  if i.quantity = 1 then i.name else toString i.quantity ++ "*" ++ i.name

/-- Two items count as the same gear: same name, quantity and cost, whatever their category. -/
def same (i j : Item) : Bool :=
  i.name == j.name && i.quantity == j.quantity && i.cost == j.cost

end Item

/-- Two or more items that are taken together. -/
structure Bundle where
  first : Item
  second : Item
  more : List Item
  quantity : Nat
deriving DecidableEq, Repr

namespace Bundle

/-- The items of one bundle. -/
def members (b : Bundle) : List Item := b.first :: b.second :: b.more

/-- One bundle of the members in order; fewer than two make none. -/
def ofMembers? : List Item → Option Bundle
  | first :: second :: more => some ⟨first, second, more, 1⟩
  | _ => none

/-- The price of all bundles together. -/
def cost (b : Bundle) : Nat := Amount.mul b.quantity (Amount.total (b.members.map Item.cost))

/-- A bundle is listed under melee if a member is, else under ranged if a member is. -/
def category (b : Bundle) : Category :=
  if b.members.any fun i => i.category == .melee then .melee
  else if b.members.any fun i => i.category == .ranged then .ranged
  else .other

/-- The bundle so many times over. -/
def times (b : Bundle) (factor : Nat) : Bundle :=
  { b with quantity := max (Amount.mul b.quantity factor) 1 }

/-- The labels after the first, with an ampersand before the last. -/
def labelTail : List Item → String
  | [] => ""
  | [last] => " & " ++ last.label
  | i :: rest => ", " ++ i.label ++ labelTail rest

/-- The labels of all members: `Voidblade, Dispersion shield & Hyperphase sword`. -/
def memberLabel (b : Bundle) : String := b.first.label ++ labelTail (b.second :: b.more)

/-- The labels of the members, in brackets behind the number of bundles if it is above one. -/
def label (b : Bundle) : String :=
  if b.quantity > 1 then toString b.quantity ++ " x (" ++ b.memberLabel ++ ")" else b.memberLabel

/-- Members in catalog notation joined by `+`; the quantity of the bundle is not written. -/
def notated (b : Bundle) : String := "+".intercalate (b.members.map Item.notated)

/-- The names of the members in order of their letters. -/
def sortedNames (b : Bundle) : List String :=
  (b.members.map Item.name).mergeSort fun s t => decide (s ≤ t)

/-- Two bundles count as the same gear: the same names, each as often, in any order. -/
def same (a b : Bundle) : Bool := a.sortedNames == b.sortedNames

end Bundle

/-- Whatever can be carried or offered. -/
inductive Gear where
  | item (i : Item)
  | bundle (b : Bundle)
deriving DecidableEq, Repr

namespace Gear

/-- The items that a piece of gear consists of. -/
def members : Gear → List Item
  | item i => [i]
  | bundle b => b.members

/-- The names of the members joined by `+`. -/
def name : Gear → String
  | item i => i.name
  | bundle b => "+".intercalate (b.members.map Item.name)

/-- The price of a piece of gear. -/
def cost : Gear → Nat
  | item i => i.cost
  | bundle b => b.cost

/-- The category that a piece of gear is listed under. -/
def category : Gear → Category
  | item i => i.category
  | bundle b => b.category

/-- A piece of gear as a player reads it. -/
def label : Gear → String
  | item i => i.label
  | bundle b => b.label

/-- A piece of gear in catalog notation. -/
def notated : Gear → String
  | item i => i.notated
  | bundle b => b.notated

/-- A piece of gear so many times over. -/
def times (g : Gear) (factor : Nat) : Gear :=
  match g with
  | item i => item (i.times factor)
  | bundle b => bundle (b.times factor)

/-- The gear made of the last item and those before it, nearest first. -/
def ofReversed (last : Item) (before : List Item) : Gear :=
  match before.reverse with
  | [] => item last
  | [first] => bundle ⟨first, last, [], 1⟩
  | first :: second :: more => bundle ⟨first, second, more ++ [last], 1⟩

/-- One bundle of the members of both, left before right. -/
def join : Gear → Gear → Gear
  | item i, item j => bundle ⟨i, j, [], 1⟩
  | item i, bundle b => bundle ⟨i, b.first, b.second :: b.more, 1⟩
  | bundle a, g => bundle ⟨a.first, a.second, a.more ++ g.members, 1⟩

/-- Joining loses no member and adds none. -/
theorem members_join (g h : Gear) : (g.join h).members = g.members ++ h.members := by
  cases g <;> cases h <;> simp [join, members, Bundle.members]

/-- The label with its price; an item that costs nothing shows none. -/
def priced : Gear → String
  | item i => if i.cost = 0 then i.label else i.label ++ " (" ++ toString i.cost ++ "pts)"
  | bundle b => b.label ++ " (" ++ toString b.cost ++ "pts)"

/-- Two pieces count as the same gear. -/
def same : Gear → Gear → Bool
  | item i, item j => i.same j
  | bundle a, bundle b => a.same b
  | _, _ => false

end Gear

/-- The gear of one model, or a part of it. -/
abbrev Loadout := List Gear

namespace Loadout

/-- The price of a loadout. -/
def cost (l : Loadout) : Nat := Amount.total (l.map Gear.cost)

/-- The labels of a loadout, piece by piece. -/
def labels (l : Loadout) : List String := l.map Gear.label

/-- Whether a piece that counts as the same gear is carried. -/
def carries (l : Loadout) (g : Gear) : Bool := l.any fun held => held.same g

/-- Takes out the first piece that counts as the same gear, if there is one. -/
def drop (l : Loadout) (g : Gear) : Loadout := l.eraseP fun held => held.same g

/-- Takes out each of `gone` in turn. -/
def dropAll (l gone : Loadout) : Loadout := gone.foldl drop l

/-- What is left of the first loadout after each piece of it that the second matches is struck out
together with its match. -/
def minus : Loadout → Loadout → Loadout
  | [], _ => []
  | g :: rest, other => if carries other g then minus rest (drop other g) else g :: minus rest other

/-- The same gear piece by piece, in the same order. -/
def same : Loadout → Loadout → Bool
  | [], [] => true
  | g :: rest, h :: rest' => g.same h && same rest rest'
  | _, _ => false

/-- The same pieces, each as often, in any order. -/
def agrees (a b : Loadout) : Bool := a.length == b.length && (minus a b).isEmpty

end Loadout

end Muster
