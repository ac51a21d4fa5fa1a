import Muster.Codex.Document
import Muster.Offer.Sheet

/-!
# Orders

What the bodies of requests ask for. An order is a JSON record, or the list of its fields in order.
-/

namespace Muster

/-- The largest index or count that a request may hold. -/
def Order.maxIndex : Nat := 18446744073709551615

/-- A squad to open, under a name of its own if one is given. -/
structure OpenOrder where
  role : String
  unit : String
  name : Option String
deriving DecidableEq, Repr

/-- A pick on an option. `indices`, if given, replaces all picks on it. -/
structure PickOrder where
  option : Nat
  index : Option Nat
  letter : Option Char
  item : Option String
  indices : Option (List Nat)
deriving DecidableEq, Repr

/-- A new size, or new counts for each type of model, which go before it. -/
structure SizeOrder where
  size : Option Nat
  counts : Option (List Nat)
deriving DecidableEq, Repr

open Record

/-- The order to open a squad that a value holds. -/
def OpenOrder.ofJson? (v : Json) : Option OpenOrder := do
  match fields? [["role"], ["unit"], ["name"]] v with
  | some [role, unit, name] =>
    let role ← required? text? role
    let unit ← required? text? unit
    let name ← default? none (optional? text?) name
    return { role, unit, name }
  | _ => none

/-- The order to pick that a value holds. -/
def PickOrder.ofJson? (v : Json) : Option PickOrder := do
  match fields? [["option"], ["index"], ["letter"], ["item"], ["indices"]] v with
  | some [option, index, letter, item, indices] =>
    let option ← required? (natural? Order.maxIndex) option
    let index ← default? none (optional? (natural? Order.maxIndex)) index
    let letter ← default? none (optional? char?) letter
    let item ← default? none (optional? text?) item
    let indices ← default? none (optional? (list? (natural? Order.maxIndex))) indices
    return { option, index, letter, item, indices }
  | _ => none

/-- The order to change the size that a value holds. -/
def SizeOrder.ofJson? (v : Json) : Option SizeOrder := do
  match fields? [["size"], ["counts"]] v with
  | some [size, counts] =>
    let size ← default? none (optional? (natural? Amount.cap)) size
    let counts ← default? none (optional? (list? (natural? Amount.cap))) counts
    return { size, counts }
  | _ => none

end Muster
