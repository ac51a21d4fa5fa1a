import Muster.Squad.Error
import Muster.Squad.Group

/-!
# Squads

A unit as it is fielded: its name, its base gear, its models in groups and the sheets of its options
once they have been read. The lead group holds the models that nothing has set apart; it is always
there, even with no model in it. An operation that can fail works on the squad in place: what it has
written before it fails stays, unless it is taken back.
-/

namespace Muster

/-- A unit as it is fielded. -/
structure Squad where
  codex : Codex
  template : UnitTemplate
  role : Role
  name : String
  /-- the base gear, carried by every model that has not given it up -/
  gear : Loadout
  lead : Group
  others : List Group
  /-- the options with their picks, once they have been read -/
  sheets : Option (List Sheet)
  /-- the points of the squad when it was last changed -/
  points : Nat
deriving Repr

/-- An operation on a squad in place, which gives a value or fails. -/
abbrev Squad.Action := ExceptT SquadError (StateM Squad)

namespace Squad

/-- Carries out an operation: the squad that it leaves behind, even if it fails, and its result. -/
def perform (s : Squad) (act : Action α) : Squad × Except SquadError α :=
  let (result, s) := Id.run (StateT.run (ExceptT.run act) s)
  (s, result)

section Perform

variable (s : Squad)

/-- An action that only answers leaves the squad as it was. -/
@[simp] theorem perform_pure (x : α) : s.perform (pure x) = (s, .ok x) := rfl

/-- An action that only refuses leaves the squad as it was. -/
@[simp] theorem perform_throw (e : SquadError) :
    s.perform (throw e : Action α) = (s, .error e) := rfl

/-- Reading the squad answers it and changes nothing. -/
@[simp] theorem perform_get : s.perform get = (s, .ok s) := rfl

/-- Writing a squad leaves that squad and answers nothing. -/
@[simp] theorem perform_set (s' : Squad) : s.perform (set s') = (s', .ok ()) := rfl

/-- A change leaves the changed squad and answers nothing. -/
@[simp] theorem perform_modify (f : Squad → Squad) : s.perform (modify f) = (f s, .ok ()) := rfl

/-- A check writes nothing. -/
@[simp] theorem perform_lift (x : Except SquadError α) : s.perform (liftM x) = (s, x) := rfl

/-- The second operation starts from the squad that the first leaves, if that succeeds. -/
theorem perform_bind (act : Action α) (next : α → Action β) :
    s.perform (act >>= next) =
      match s.perform act with
      | (s', .ok x) => s'.perform (next x)
      | (s', .error e) => (s', .error e) := by
  unfold perform
  simp only [ExceptT.run_bind, StateT.run_bind, Id.run_bind]
  generalize Id.run (StateT.run (ExceptT.run act) s) = outcome
  obtain ⟨x | e, s'⟩ := outcome <;> rfl

/-- The handler starts from the squad that the failed operation leaves. -/
theorem perform_tryCatch (act : Action α) (handle : SquadError → Action α) :
    s.perform (tryCatch act handle) =
      match s.perform act with
      | (s', .ok x) => (s', .ok x)
      | (s', .error e) => s'.perform (handle e) := by
  simp only [perform, tryCatch, tryCatchThe, MonadExceptOf.tryCatch, ExceptT.tryCatch,
    ExceptT.run_mk, StateT.run_bind, Id.run_bind]
  rw [show StateT.run act s = Id.run (StateT.run (ExceptT.run act) s) from rfl]
  generalize Id.run (StateT.run (ExceptT.run act) s) = outcome
  obtain ⟨x | e, s'⟩ := outcome <;> rfl

end Perform

/-- All groups, the lead first. -/
def groups (s : Squad) : List Group := s.lead :: s.others

/-- The number of models. -/
def size (s : Squad) : Nat := Amount.sum (s.groups.map Group.count)

/-- How the options address the squad: by the largest size, whatever the present one. -/
def scope (s : Squad) : Scope := if s.template.maxSize > 1 then .squad else .model

/-- Whom the options of the squad are offered to as it stands. -/
def bearer (s : Squad) : Bearer := ⟨s.gear, s.scope⟩

/-- The total over the groups at their present gear. -/
def tally (s : Squad) : Nat := Amount.total (s.groups.map fun g => g.points s.gear)

/-- Brings the points up to date. -/
def refresh (s : Squad) : Squad := { s with points := s.tally }

/-- Reads a loadout; a squad made from the template `unit` is blamed for the first bad entry. -/
def readLoadout (x : Codex) (unit : String) (entries : List String) : Except SquadError Loadout :=
  entries.mapM fun entry =>
    match Gear.read x.arsenal entry with
    | .ok g => .ok g
    | .error e => .error (.offer unit entry e)

/-- The squad that a template describes: smallest size, default gear, no option read. -/
def ofTemplate (x : Codex) (role : Role) (name : String) (t : UnitTemplate) :
    Except SquadError Squad :=
  match readLoadout x t.name t.wargear with
  | .error e => .error e
  | .ok gear =>
    .ok (refresh ⟨x, t, role, name, gear, .plain t.name t.minSize t.basePoints, [], none, 0⟩)

/-- A new squad of a unit of the codex, under the unit's name. -/
def muster (x : Codex) (role : Role) (unit : String) : Except SquadError Squad :=
  match x.unit role unit with
  | .error e => .error (.codex e)
  | .ok t => ofTemplate x role t.name t

/-- Back to what the template describes, under the present name. -/
def reset : Action Unit := do
  let s ← get
  set (← ofTemplate s.codex s.role s.name s.template)

/-- Gives the squad another name; its unit stays. -/
def rename (s : Squad) (name : String) : Squad := { s with name }

end Squad

end Muster
