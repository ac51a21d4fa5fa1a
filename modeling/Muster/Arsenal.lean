import Muster.Gear
import Muster.Table

/-!
# The arsenal

Every item that can be had, with its price and category. An item is found by its exact name, or
else by its name with case and spacing ignored.
-/

namespace Muster

/-- One priced line of the arsenal. -/
structure Entry where
  name : String
  cost : Nat
  category : Category
deriving DecidableEq, Repr

/-- One piece of the entry's equipment. -/
def Entry.toItem (e : Entry) : Item := Item.single e.name e.cost e.category

/-- Entries by name, and for each spelling key the name that was last entered under it. -/
structure Arsenal where
  entries : Table String Entry
  spellings : Table String String
deriving Repr

namespace Arsenal

/-- What two spellings of one name share: lower-case words, one space between them. -/
def spellingKey (name : String) : String :=
  String.ofList ([' '].intercalate ((Text.words name.toList).map Text.lowercase))

/-- An arsenal without entries. -/
def empty : Arsenal := ⟨.empty, .empty⟩

/-- Enters an item under its trimmed name, in place of an entry of that name. -/
def insert (a : Arsenal) (name : String) (cost : Nat) (category : Category) : Arsenal :=
  let name := Text.trimmed name
  ⟨a.entries.insert name ⟨name, cost, category⟩, a.spellings.insert (spellingKey name) name⟩

/-- The exact name wins; otherwise the name last entered under the same spelling key. -/
def lookup? (a : Arsenal) (name : String) : Option Entry :=
  match a.entries.get? name with
  | some e => some e
  | none => (a.spellings.get? (spellingKey name)).bind a.entries.get?

/-- The number of entries. -/
def size (a : Arsenal) : Nat := a.entries.size

/-- All entries by category, and by name within one. -/
def listing (a : Arsenal) : List Entry :=
  [Category.melee, .ranged, .other].flatMap fun c => a.entries.values.filter fun e => e.category = c

end Arsenal

end Muster
