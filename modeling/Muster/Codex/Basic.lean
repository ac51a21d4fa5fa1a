import Muster.Arsenal
import Muster.Codex.Role

/-!
# Codices

Everything a faction may field: its arsenal, its units by role and name, and the further types of
model that units may include. Loadouts and options are kept as they are written; they are read when
a squad is built.
-/

namespace Muster

/-- A unit as the codex lists it. Sizes are kept in registers of 32 bits. -/
structure UnitTemplate where
  name : String
  /-- points for one model -/
  basePoints : Nat
  minSize : Nat
  maxSize : Nat
  wargear : List String
  options : List String
  /-- names of the further types of model -/
  models : List String
  minSize_le : minSize ≤ Amount.cap
  maxSize_le : maxSize ≤ Amount.cap
deriving DecidableEq, Repr

/-- A type of model that a unit may include besides its own. -/
structure ModelTemplate where
  name : String
  points : Nat
  /-- the most that one unit may include -/
  limit : Option Nat
  wargear : List String
  independent : Bool
deriving DecidableEq, Repr

/-- Where a unit is filed. -/
structure Post where
  role : Role
  name : String
deriving DecidableEq, Repr

/-- Posts are ordered by role, and by name within one. -/
instance : Ord Post where
  compare p q := (compare p.role q.role).then (compare p.name q.name)

/-- What cannot be found in a codex. -/
inductive CodexError where
  | unknownItem (name : String)
  | missingUnit (role : Role) (name : String)
  | missingModel (name : String)
  | unknownCategory (name : String)
deriving DecidableEq, Repr

namespace CodexError

/-- The text of an error. -/
def message : CodexError → String
  | unknownItem name => "'" ++ name ++ "' is not in the armoury"
  | missingUnit role name => "no unit named '" ++ role.name ++ "/" ++ name ++ "' in the catalog"
  | missingModel name => "no model named '" ++ name ++ "' in the catalog"
  | unknownCategory name => "unknown armoury category '" ++ name ++ "'"

/-- The codex has no template of that name. -/
def isMissing : CodexError → Bool
  | missingUnit .. | missingModel .. => true
  | _ => false

end CodexError

/-- The entry of an item, or the item that is not there. -/
def Arsenal.lookup (a : Arsenal) (name : String) : Except CodexError Entry :=
  match a.lookup? name with
  | some e => .ok e
  | none => .error (.unknownItem (Text.trimmed name))

/-- The arsenal of the sections, each a category with its prices. -/
def Arsenal.ofSections (sections : Table String (Table String Nat)) : Except CodexError Arsenal :=
  sections.rows.foldlM (fun a (name, prices) =>
    match Category.ofText? name with
    | none => .error (.unknownCategory name)
    | some c => .ok (prices.rows.foldl (fun a (item, cost) => a.insert item cost c) a)) .empty

/-- The units and models of one faction, and the arsenal that prices their gear. -/
structure Codex where
  faction : String
  arsenal : Arsenal
  units : Table Post UnitTemplate
  models : Table String ModelTemplate
deriving Repr

namespace Codex

/-- A codex with an arsenal only. -/
def ofArsenal (faction : String) (arsenal : Arsenal) : Codex := ⟨faction, arsenal, .empty, .empty⟩

/-- Files a unit under its role, in place of a unit of the same name there. -/
def addUnit (x : Codex) (role : Role) (t : UnitTemplate) : Codex :=
  { x with units := x.units.insert ⟨role, t.name⟩ t }

/-- Enters a type of model under its name, in place of one of that name. -/
def addModel (x : Codex) (t : ModelTemplate) : Codex :=
  { x with models := x.models.insert t.name t }

/-- A unit by role and name; named characters may be fielded in any role. -/
def unit (x : Codex) (role : Role) (name : String) : Except CodexError UnitTemplate :=
  match x.units.get? ⟨role, name⟩ with
  | some t => .ok t
  | none =>
    match x.units.get? ⟨.namedCharacters, name⟩ with
    | some t => .ok t
    | none => .error (.missingUnit role name)

/-- A further type of model by name. -/
def model (x : Codex) (name : String) : Except CodexError ModelTemplate :=
  match x.models.get? name with
  | some t => .ok t
  | none => .error (.missingModel name)

/-- All units with their roles, by role and then by name. -/
def unitListing (x : Codex) : List (Role × UnitTemplate) :=
  x.units.rows.map fun row => (row.1.role, row.2)

/-- All further types of model, by name. -/
def modelListing (x : Codex) : List ModelTemplate := x.models.values

/-- The number of units. -/
def unitCount (x : Codex) : Nat := x.units.size

end Codex

end Muster
