import Muster.Squad.Basic

/-!
# Sizing a squad

Changing the number of models within the range of the template, in all or for each type of model.
-/

namespace Muster.Squad

/-- The number of models outside the lead group. -/
def othersCount (s : Squad) : Nat := Amount.sum (s.others.map Group.count)

/-- Whether the template allows that many models. -/
def checkRange (s : Squad) (requested : Nat) : Except SquadError Unit :=
  if requested < s.template.minSize ∨ requested > s.template.maxSize then
    .error (.invalidSize s.name requested s.template.minSize s.template.maxSize)
  else .ok ()

/-- Sets the number of models by changing the lead group. -/
def resize (size : Nat) : Action Unit := do
  let s ← get
  s.checkRange size
  if size < s.othersCount then
    throw (.invalidSize s.name size (max s.othersCount s.template.minSize) s.template.maxSize)
  set { s with lead := { s.lead with count := size - s.othersCount } }
  modify refresh

/-- A group of a further type of model, which carries its own gear in place of the base gear; no
group for no models. -/
def extraGroup (s : Squad) (kind : String) (count : Nat) : Except SquadError (Option Group) :=
  match s.codex.model kind with
  | .error e => .error (.codex e)
  | .ok t =>
    if t.limit.any fun limit => count > limit then
      .error (.tooManyModels s.name kind (t.limit.getD 0) count)
    else if count = 0 then .ok none
    else
      match readLoadout s.codex s.template.name t.wargear with
      | .error e => .error e
      | .ok gear => .ok (some ⟨kind, count, t.points, gear, s.gear, t.limit⟩)

/-- The groups of all further types of model, in the order of the template. -/
def extraGroups (s : Squad) (counts : List Nat) : Except SquadError (List Group) :=
  ((s.template.models.zip counts).mapM fun (kind, count) => s.extraGroup kind count).map
    (List.filterMap id)

/-- Groups other than the lead that are of the squad's own type of model. -/
def ownOthers (s : Squad) : List Group := s.others.filter fun g => g.kind = s.template.name

/-- Sets the number of models of each type: the squad's own first, then the further types in the
order of the template. -/
def resizeModels (counts : List Nat) : Action Unit := do
  let s ← get
  let expected := 1 + s.template.models.length
  match counts with
  | [] => throw (.modelCountMismatch s.name expected 0)
  | own :: extra =>
    if extra.length ≠ s.template.models.length then
      throw (.modelCountMismatch s.name expected counts.length)
    s.checkRange (← SquadError.register (own + Amount.sum extra))
    let groups ← s.extraGroups extra
    let kept := Amount.sum (s.ownOthers.map Group.count)
    if own < kept then throw (.invalidSize s.name own kept s.template.maxSize)
    set { s with
      lead := { s.lead with count := own - kept }
      others := s.ownOthers ++ groups }
    modify refresh

end Muster.Squad
