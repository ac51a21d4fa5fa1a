import Muster.Squad.Options

/-!
# Equipping a squad

What becomes of a squad when the picks on an option are applied. An option for the whole squad
changes the base gear. An option for some models moves models from the lead group into a group that
carries the selection: one model at a time, or up to the number that the size of the squad entitles
to, which all groups set apart by the option share.
-/

namespace Muster.Squad

/-- Gives up a piece of base gear, or one of the lead group's own. -/
def giveUp (s : Squad) (piece : Gear) : Squad :=
  if s.gear.carries piece then { s with gear := s.gear.drop piece }
  else { s with lead := { s.lead with gear := s.lead.gear.drop piece } }

/-- Everything on offer is given up and the selection taken in its place. -/
def equipAll (s : Squad) (sheet : Sheet) : Squad :=
  let s := sheet.gear.foldl giveUp s
  { s with gear := s.gear ++ sheet.selected }

/-- A lead model that gives up what is on offer and takes the selection. -/
def variant (s : Squad) (sheet : Sheet) : Group :=
  let g := sheet.gear.foldl (Group.giveUp (s.lead.loadout s.gear)) { s.lead with count := 0 }
  { g with gear := g.gear ++ sheet.selected }

/-- The group besides the lead that is equipped like `g` already. -/
def existing? (s : Squad) (g : Group) : Option Nat :=
  s.others.findIdx? fun h => h.equippedLike g s.gear

/-- The number of models in the group at `existing`; none stands for a group yet to come. -/
def currentCount (s : Squad) (existing : Option Nat) : Nat :=
  ((existing.bind (s.others[·]?)).map Group.count).getD 0

/-- The models that already carry something of the option beyond the lead group's loadout, in all
groups but the one at `skip`. -/
def carvedBy (s : Squad) (sheet : Sheet) (skip : Option Nat) : Nat :=
  let names := sheet.gear.map Gear.name
  let groups := match skip with
    | some i => s.others.eraseIdx i
    | none => s.others
  let carved := groups.filter fun g =>
    g.kind == s.lead.kind && (g.gainedOver s.lead s.gear).any fun piece => names.contains piece.name
  Amount.sum (carved.map Group.count)

/-- The number of models that the group at `existing`, or a new one, is to have. -/
def target (s : Squad) (sheet : Sheet) (existing : Option Nat) (current : Nat) :
    Except SquadError Nat :=
  if sheet.offer.perModel then SquadError.register (current + 1)
  else
    let entitled := s.size / sheet.offer.modelsPer
    let taken := s.carvedBy sheet existing
    if taken ≥ entitled then .error (.entitlementUsed s.name sheet.source entitled)
    else .ok (entitled - taken)

/-- The squad with `count` models in the group at `existing`, or in a new group `g`; groups other
than the lead do not stay without models. -/
def regroup (s : Squad) (existing : Option Nat) (g : Group) (leadCount count : Nat) : Squad :=
  let others := match existing with
    | some i => s.others.modify i fun h => { h with count }
    | none => s.others ++ [{ g with count }]
  { s with
    lead := { s.lead with count := leadCount }
    others := others.filter fun h => h.count > 0 }

/-- Moves models between the lead group and the group that carries the selection. Nothing changes
if the selection is what the models carry already. -/
def carve (sheet : Sheet) : Action Unit := do
  let s ← get
  let g := s.variant sheet
  if g.equippedLike s.lead s.gear then return
  let existing := s.existing? g
  let current := s.currentCount existing
  let target ← s.target sheet existing current
  let wanted := target - current
  if wanted > 0 ∧ s.lead.count = 0 then throw (.noModelsAvailable s.name)
  let moved := min wanted s.lead.count
  let returned := current - target
  set (s.regroup existing g (s.lead.count - moved + returned) (current + moved - returned))

/-- Applies the picks on a sheet. -/
def equip (sheet : Sheet) : Action Unit := do
  let s ← get
  sheet.checkPicks.mapError SquadError.pick
  let required := sheet.offer.modelsPer
  if required > s.size then
    let shortfall := required - s.size
    throw (.insufficientModels required s.size shortfall
      (Amount.mul shortfall (s.lead.pointsEach s.gear)))
  if sheet.selected.isEmpty then return
  if required > 1 ∨ sheet.offer.perModel ∧ s.size > 1 then carve sheet
  else modify fun s => s.equipAll sheet
  modify refresh

/-- Applies several sheets in turn, up to the first that fails. -/
def equipInTurn : List Sheet → Action Unit
  | [] => pure ()
  | sheet :: rest => do
    equip sheet
    equipInTurn rest

/-- The squad with the gear, groups and points that it had before. -/
def restore (before s : Squad) : Squad :=
  { s with
    gear := before.gear
    lead := before.lead
    others := before.others
    points := before.points }

/-- Applies several sheets in turn, all or none. -/
def equipEach (sheets : List Sheet) : Action Unit := do
  let before ← get
  try equipInTurn sheets
  catch e =>
    modify (restore before)
    throw e

/-- The sheets with picks. -/
def pending (s : Squad) : List Sheet := s.sheetList.filter Sheet.hasSelection

/-- Applies all picks, if none goes beyond the number allowed, and drops them. -/
def equipPicked : Action Unit := do
  let pending := (← get).pending
  (pending.forM Sheet.checkPicks).mapError SquadError.pick
  equipEach pending
  modify clearPicks

end Muster.Squad
