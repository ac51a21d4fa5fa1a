import Muster.Squad.Equipping
import Muster.Squad.Sizing
import Muster.Squad.Report

/-!
# Editing a squad

The steps of an edit around one squad: its options are listed, choices are picked, the picks are
applied, and the edit goes back to viewing. A step that is out of turn is refused. Every step gives
the edit that follows, also when it fails.
-/

namespace Muster

/-- Where an edit stands. -/
inductive Stage where
  | viewing
  | listed
  | pending
  | applied
deriving DecidableEq, Repr

/-- The word for a stage in answers. -/
def Stage.name : Stage → String
  | viewing => "viewing"
  | listed => "options_listed"
  | pending => "selection_pending"
  | applied => "applied"

/-- The steps that are bound to a stage. -/
inductive Step where
  | list
  | pick
  | apply
  | finish
  | cancel
  | resize
deriving DecidableEq, Repr

namespace Step

/-- The words for a step in messages. -/
def name : Step → String
  | list => "list options"
  | pick => "select"
  | apply => "apply"
  | finish => "finish"
  | cancel => "cancel"
  | resize => "resize"

/-- The stages in which a step may be taken. -/
def stages : Step → List Stage
  | list => [.viewing, .listed, .pending]
  | pick => [.listed, .pending]
  | apply => [.pending]
  | finish => [.applied]
  | cancel => [.listed, .pending]
  | resize => [.viewing, .listed]

end Step

/-- Why a step fails: it is out of turn, or the squad refuses it. -/
inductive EditError where
  | outOfTurn (stage : Stage) (step : Step)
  | squad (e : SquadError)
deriving DecidableEq, Repr

/-- The text of an error. -/
def EditError.message : EditError → String
  | outOfTurn stage step => "cannot " ++ step.name ++ " while " ++ stage.name
  | squad e => e.message

/-- A squad that is being edited. -/
structure Edit where
  squad : Squad
  stage : Stage
deriving Repr

namespace Edit

/-- A new edit of a squad. -/
def start (s : Squad) : Edit := ⟨s, .viewing⟩

/-- Takes a step if it is in turn. -/
def inTurn (e : Edit) (step : Step) (act : Edit × Except EditError α) :
    Edit × Except EditError α :=
  if e.stage ∈ step.stages then act else (e, .error (.outOfTurn e.stage step))

/-- Works on the squad. If that succeeds, the edit goes on to a stage and gives what is shown of the
squad; if it fails, the stage stays. -/
def work (e : Edit) (act : Squad.Action Unit) (stage : Stage) (shown : Squad → α) :
    Edit × Except EditError α :=
  match e.squad.perform act with
  | (s, .error err) => (⟨s, e.stage⟩, .error (.squad err))
  | (s, .ok ()) => (⟨s, stage⟩, .ok (shown s))

/-- Lists the options. Picks that are already made stay. -/
def list (e : Edit) : Edit × Except EditError (List Listing) :=
  e.inTurn .list <|
    e.work Squad.ensureSheets (if e.stage = .viewing then .listed else e.stage) Squad.listings

/-- Changes the picks on one option. -/
def editSheet (e : Edit) (index : Nat) (change : Sheet → Except PickError Sheet) :
    Edit × Except EditError Unit :=
  e.inTurn .pick <| e.work (Squad.editSheet index change) .pending fun _ => ()

/-- Picks a choice of an option once. -/
def pick (e : Edit) (index : Nat) (c : Choice) : Edit × Except EditError Unit :=
  e.editSheet index fun sheet => sheet.pick c .refuse

/-- Replaces the picks on an option. -/
def pickList (e : Edit) (index : Nat) (indices : List Nat) : Edit × Except EditError Unit :=
  e.editSheet index fun sheet => sheet.pickList indices

/-- Applies all picks; where that fails they stay. -/
def apply (e : Edit) : Edit × Except EditError Nat :=
  e.inTurn .apply <| e.work Squad.equipPicked .applied Squad.points

/-- Back to viewing after picks were applied. -/
def finish (e : Edit) : Edit × Except EditError Unit :=
  e.inTurn .finish ({ e with stage := .viewing }, .ok ())

/-- Drops all picks and goes back to viewing. -/
def cancel (e : Edit) : Edit × Except EditError Unit :=
  e.inTurn .cancel (⟨e.squad.clearPicks, .viewing⟩, .ok ())

/-- Sets the number of models; the stage stays. -/
def resize (e : Edit) (size : Nat) : Edit × Except EditError Nat :=
  e.inTurn .resize <| e.work (Squad.resize size) e.stage Squad.points

/-- Sets the number of models of each type; the stage stays. -/
def resizeModels (e : Edit) (counts : List Nat) : Edit × Except EditError Nat :=
  e.inTurn .resize <| e.work (Squad.resizeModels counts) e.stage Squad.points

/-- Back to the template and to viewing, whatever the stage. -/
def reset (e : Edit) : Edit × Except EditError Unit :=
  e.work Squad.reset .viewing fun _ => ()

/-- Gives the squad a name, whatever the stage. -/
def rename (e : Edit) (name : String) : Edit := { e with squad := e.squad.rename name }

end Edit

end Muster
