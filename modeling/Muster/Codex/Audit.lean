import Muster.Codex.Basic
import Muster.Offer.Sheet

/-!
# Audits

What is wrong with a codex before any squad is built from it: every loadout, every option clause
and every model that a unit names is tried.
-/

namespace Muster

/-- How grave a finding is: only an error keeps a codex from being loaded. -/
inductive Severity where
  | error
  | warning
  | info
deriving DecidableEq, Repr

/-- The word for a severity in a finding. -/
def Severity.name : Severity → String
  | error => "error"
  | warning => "warning"
  | info => "info"

/-- One thing that an audit has to say. -/
structure Finding where
  severity : Severity
  /-- the template that it concerns -/
  context : String
  message : String
deriving DecidableEq, Repr

/-- A finding in one line: severity, template, message. -/
def Finding.line (f : Finding) : String :=
  "[" ++ f.severity.name ++ "] " ++ f.context ++ ": " ++ f.message

/-- Findings in the order in which they are made. -/
abbrev Audit := List Finding

namespace Audit

/-- The number of findings of a severity. -/
def count (a : Audit) (s : Severity) : Nat := (a.filter fun f => f.severity = s).length

/-- Whether an audit keeps the codex from being loaded. -/
def hasErrors (a : Audit) : Bool := a.any fun f => f.severity = .error

/-- The entries of a loadout that can be read. -/
def readable (a : Arsenal) (entries : List String) : Loadout :=
  entries.filterMap fun entry => (Gear.read a entry).toOption

/-- The entries of a loadout that cannot be read. -/
def ofLoadout (a : Arsenal) (context : String) (entries : List String) : Audit :=
  entries.filterMap fun entry =>
    match Gear.read a entry with
    | .ok _ => none
    | .error e => some ⟨.error, context, "wargear '" ++ entry ++ "': " ++ e.message⟩

/-- Clauses that cannot be read, or that need more models than there can be. -/
def ofOptions (a : Arsenal) (context : String) (entries : List String) (maxSize : Nat)
    (b : Bearer) : Audit :=
  (Sheet.readAll a entries b).filterMap fun (clause, reading) =>
    match reading with
    | .error e => some ⟨.error, context, "option '" ++ clause ++ "': " ++ e.message⟩
    | .ok s =>
      if s.offer.modelsPer > maxSize then
        some ⟨.warning, context, "option '" ++ clause ++ "' needs " ++ toString s.offer.modelsPer
          ++ " models but the unit tops out at " ++ toString maxSize⟩
      else none

/-- The audit of one unit: its sizes, its loadout, its options and the models it names. -/
def ofUnit (x : Codex) (role : Role) (t : UnitTemplate) : Audit :=
  let context := role.name ++ "/" ++ t.name
  let bearer : Bearer :=
    ⟨readable x.arsenal t.wargear, if t.maxSize > 1 then .squad else .model⟩
  (if t.minSize = 0 ∨ t.minSize > t.maxSize then
    [⟨.error, context,
      "invalid size range [" ++ toString t.minSize ++ ", " ++ toString t.maxSize ++ "]"⟩]
  else [])
  ++ ofLoadout x.arsenal context t.wargear
  ++ ofOptions x.arsenal context t.options t.maxSize bearer
  ++ t.models.filterMap (fun name =>
    match x.model name with
    | .ok _ => none
    | .error e => some ⟨.error, context, e.message⟩)
  ++ (if t.basePoints = 0 ∧ t.wargear = [] then
    [⟨.info, context, "unit has no points cost and no wargear"⟩]
  else [])

/-- The audit of one further type of model. -/
def ofModel (x : Codex) (t : ModelTemplate) : Audit :=
  let context := "model/" ++ t.name
  ofLoadout x.arsenal context t.wargear
  ++ (if t.limit = some 0 then
    [⟨.warning, context, "model limit of 0 means it can never be fielded"⟩]
  else [])

end Audit

/-- The audit of all units, and after it that of all models. -/
def Codex.audit (x : Codex) : Audit :=
  x.unitListing.flatMap (fun (role, t) => Audit.ofUnit x role t)
    ++ x.modelListing.flatMap (Audit.ofModel x)

end Muster
