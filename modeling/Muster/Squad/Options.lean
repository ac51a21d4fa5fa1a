import Muster.Squad.Basic

/-!
# Options of a squad

The clauses of the template are read when an option is first asked for, against the base gear of
that moment, and kept with their picks until the squad is reset.
-/

namespace Muster.Squad

/-- The clauses of all entries of the template, in order. -/
def clauses (s : Squad) : List String := s.template.options.flatMap Offer.clauses

/-- Sheets without picks for all clauses, or the first clause that cannot be read. -/
def freshSheets (s : Squad) : Except SquadError (List Sheet) :=
  s.clauses.mapM fun clause =>
    match Sheet.read s.codex.arsenal clause s.bearer with
    | .ok sheet => .ok sheet
    | .error e => .error (.offer s.template.name clause e)

/-- The sheets that have been read. -/
def sheetList (s : Squad) : List Sheet := s.sheets.getD []

/-- The sheets, which are read now if they have not been. -/
def readSheets : Action (List Sheet) := do
  let s ← get
  match s.sheets with
  | some sheets => pure sheets
  | none =>
    let sheets ← s.freshSheets
    set { s with sheets := some sheets }
    pure sheets

/-- Reads the sheets for what is to come. -/
def ensureSheets : Action Unit := do
  let _ ← readSheets
  pure ()

/-- Looks up a sheet. -/
def sheetAt (index : Nat) : Action Sheet := do
  let sheets ← readSheets
  match sheets[index]? with
  | some sheet => pure sheet
  | none => throw (.noSuchOption (← get).template.name index sheets.length)

/-- Changes the picks on one option. -/
def editSheet (index : Nat) (edit : Sheet → Except PickError Sheet) : Action Unit := do
  let sheet ← sheetAt index
  let sheet ← (edit sheet).mapError SquadError.pick
  modify fun s => { s with sheets := some (s.sheetList.set index sheet) }

/-- Every option as it reads to the squad at present. -/
def listings (s : Squad) : List Listing :=
  s.sheetList.zipIdx.map fun (sheet, index) => sheet.listing index s.bearer

/-- Whether something is picked on any option. -/
def hasPending (s : Squad) : Bool := s.sheetList.any Sheet.hasSelection

/-- Drops all picks. -/
def clearPicks (s : Squad) : Squad := { s with sheets := s.sheets.map (·.map Sheet.clear) }

end Muster.Squad
