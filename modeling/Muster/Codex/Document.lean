import Muster.Codex.Basic
import Muster.Json.Reading
import Muster.Yaml.Node

/-!
# Codex documents

A codex as it is written down, in JSON or YAML: the faction, the arsenal by sections, the units by
role and the models. Reading a document and making a codex of it are separate steps.
-/

namespace Muster

/-- How a document is written. -/
inductive Format where
  | json
  | yaml
deriving DecidableEq, Repr

/-- The contents of a codex file. Sections and templates are in order of their names. -/
structure Document where
  faction : String
  arsenal : Table String (Table String Nat)
  units : Table String (Table String UnitTemplate)
  models : Table String ModelTemplate
deriving Repr

/-- Why a document is no codex. -/
inductive DocumentError where
  | malformed
  | codex (e : CodexError)
  | unknownRole (name : String)
deriving DecidableEq, Repr

namespace Document

open Record

variable {ν : Type} [Viewed ν]

/-- A natural number that is an amount. -/
def amount? (v : ν) : Option Nat := natural? Amount.cap v

/-- A list of texts; nothing in its place is the empty list. -/
def texts? (v : ν) : Option (List String) :=
  (optional? (list? text?) v).map fun list => list.getD []

/-- A map in order of its names; the last of two values of a name counts. -/
def table? (read : ν → Option α) (v : ν) : Option (Table String α) :=
  (entries? read v).map Table.ofList

/-- A unit; every field may be left out, and the size is a pair. -/
def unitTemplate? (v : ν) : Option UnitTemplate :=
  match fields? [["name"], ["base_points", "base_pts"], ["size"], ["wargear"], ["options"],
      ["models"]] v with
  | some [name, basePoints, size, wargear, options, models] => do
    let name ← default? "" text? name
    let basePoints ← default? 0 amount? basePoints
    let (minSize, maxSize) ← default? (⟨1, Amount.one_le_cap⟩, ⟨1, Amount.one_le_cap⟩)
      (pair? (bounded? Amount.cap)) size
    let wargear ← default? [] texts? wargear
    let options ← default? [] texts? options
    let models ← default? [] texts? models
    return {
      name, basePoints, wargear, options, models
      minSize := minSize.val
      maxSize := maxSize.val
      minSize_le := minSize.property
      maxSize_le := maxSize.property }
  | _ => none

/-- A further type of model; every field may be left out. -/
def modelTemplate? (v : ν) : Option ModelTemplate :=
  match fields? [["name"], ["points", "pts"], ["limit", "no_per_unit"], ["wargear"],
      ["independent", "indep"]] v with
  | some [name, points, limit, wargear, independent] => do
    let name ← default? "" text? name
    let points ← default? 0 amount? points
    let limit ← default? none (optional? amount?) limit
    let wargear ← default? [] texts? wargear
    let independent ← default? false flag? independent
    return { name, points, limit, wargear, independent }
  | _ => none

/-- The document that a value shows; every section may be left out. -/
def ofView? (v : ν) : Option Document :=
  match fields? [["faction"], ["armoury"], ["units"], ["models"]] v with
  | some [faction, arsenal, units, models] => do
    let faction ← default? "" text? faction
    let arsenal ← default? .empty (table? (table? amount?)) arsenal
    let units ← default? .empty (table? (table? unitTemplate?)) units
    let models ← default? .empty (table? modelTemplate?) models
    return { faction, arsenal, units, models }
  | _ => none

/-- The document that a text holds. -/
def read? (format : Format) (text : String) : Option Document :=
  match format with
  | .json => (Json.read? text).bind ofView?
  | .yaml => (Yaml.read? text).bind ofView?

/-- Files the units of one section. -/
def addSection (x : Codex) (heading : String) (units : Table String UnitTemplate) :
    Except DocumentError Codex :=
  match Role.ofText? heading with
  | none => .error (.unknownRole heading)
  | some role =>
    .ok (units.rows.foldl (fun x (name, t) => x.addUnit role { t with name := name }) x)

/-- The codex of a document. Templates take the names they are listed under. -/
def toCodex (d : Document) : Except DocumentError Codex :=
  match Arsenal.ofSections d.arsenal with
  | .error e => .error (.codex e)
  | .ok arsenal =>
    match d.units.rows.foldlM (fun x (heading, units) => addSection x heading units)
        (Codex.ofArsenal d.faction arsenal) with
    | .error e => .error e
    | .ok x =>
      .ok (d.models.rows.foldl (fun x (name, t) => x.addModel { t with name := name }) x)

end Document

/-- The codex that a text holds. -/
def Codex.read (format : Format) (text : String) : Except DocumentError Codex :=
  match Document.read? format text with
  | none => .error .malformed
  | some d => d.toCodex

end Muster
