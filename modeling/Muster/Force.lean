import Muster.Squad.Report

/-!
# Forces

An army list: detachments of squads filed by role. Detachments are named after their kind and
numbered within it; a number is never given twice. Numbers and the totals of points are kept in
checked registers: where one has no room there is nothing, and the program aborts.
-/

namespace Muster

/-- A part of a force, with its squads. -/
structure Detachment where
  kind : String
  name : String
  /-- squads by role, in the order in which they came -/
  squads : Table Role (List Squad)
deriving Repr

namespace Detachment

/-- A detachment without squads. -/
def empty (kind name : String) : Detachment := ⟨kind, name, .empty⟩

/-- The squads filed under a role. -/
def filed (d : Detachment) (role : Role) : List Squad := (d.squads.get? role).getD []

/-- Files a squad under its role, after those already there. -/
def add (d : Detachment) (s : Squad) : Detachment :=
  { d with squads := d.squads.insert s.role (d.filed s.role ++ [s]) }

/-- Takes out a squad. -/
def remove (d : Detachment) (role : Role) (index : Nat) : Detachment × Option Squad :=
  match (d.filed role)[index]? with
  | none => (d, none)
  | some s => ({ d with squads := d.squads.insert role ((d.filed role).eraseIdx index) }, some s)

/-- Puts a changed squad in its place. -/
def replace (d : Detachment) (role : Role) (index : Nat) (s : Squad) : Detachment :=
  match (d.filed role)[index]? with
  | none => d
  | some _ => { d with squads := d.squads.insert role ((d.filed role).set index s) }

/-- All squads, by role. -/
def all (d : Detachment) : List Squad := d.squads.values.flatten

/-- The number of squads. -/
def count (d : Detachment) : Nat := d.all.length

/-- The points of all squads. -/
def points? (d : Detachment) : Option Nat := Amount.total? (fun s => some s.points) d.all

/-- Gives the detachment another name; its kind stays. -/
def rename (d : Detachment) (name : String) : Detachment := { d with name }

/-- The reports on all squads, by role. -/
def reports (d : Detachment) : List SquadReport := d.all.map Squad.report

end Detachment

/-- An army list. -/
structure Force where
  name : String
  faction : String
  detachments : List Detachment
  /-- how many detachments of each kind there have been -/
  numbering : Table String Nat
deriving Repr

namespace Force

/-- A force without detachments. -/
def empty (name faction : String) : Force := ⟨name, faction, [], .empty⟩

/-- Adds a detachment, named after its kind and the number of that kind so far: `Patrol 1`,
`Patrol 2`. -/
def addDetachment (f : Force) (kind : String) : Option (Force × String) :=
  (Amount.checked ((f.numbering.get? kind).getD 0 + 1)).map fun number =>
    let name := kind ++ " " ++ toString number
    ({ f with
      detachments := f.detachments ++ [.empty kind name]
      numbering := f.numbering.insert kind number }, name)

/-- Takes out a detachment. -/
def removeDetachment (f : Force) (index : Nat) : Force × Option Detachment :=
  ({ f with detachments := f.detachments.eraseIdx index }, f.detachments[index]?)

/-- Changes the detachment in a place. -/
def modifyDetachment (f : Force) (index : Nat) (change : Detachment → Detachment) : Force :=
  { f with detachments := f.detachments.modify index change }

/-- The points of all detachments. -/
def points? (f : Force) : Option Nat := Amount.total? Detachment.points? f.detachments

/-- Gives the force another name. -/
def rename (f : Force) (name : String) : Force := { f with name }

end Force

end Muster
