import Muster.Squad.Basic

/-!
# Reports on a squad

What a squad consists of, and what makes it illegal as it stands.
-/

namespace Muster

/-- What is shown of a group. -/
structure GroupReport where
  kind : String
  count : Nat
  pointsEach : Nat
  loadout : List String
deriving DecidableEq, Repr

/-- What is shown of a squad. -/
structure SquadReport where
  name : String
  unit : String
  role : Role
  size : Nat
  minSize : Nat
  maxSize : Nat
  points : Nat
  wargear : List String
  models : List GroupReport
  problems : List String
deriving DecidableEq, Repr

namespace Squad

/-- The number of models of a type. -/
def countOf (s : Squad) (kind : String) : Nat :=
  Amount.sum ((s.groups.filter fun g => g.kind = kind).map Group.count)

/-- What is wrong with the size. -/
def sizeProblem? (s : Squad) : Option String :=
  if s.size < s.template.minSize ∨ s.size > s.template.maxSize then
    some (s.name ++ " has " ++ toString s.size ++ " models; it must have between "
      ++ toString s.template.minSize ++ " and " ++ toString s.template.maxSize)
  else none

/-- What is wrong with the number of models of a group's type. -/
def limitProblem? (s : Squad) (g : Group) : Option String :=
  match g.limit with
  | none => none
  | some limit =>
    if s.countOf g.kind > limit then
      some (s.name ++ " may include at most " ++ toString limit ++ " " ++ g.kind ++ ", not "
        ++ toString (s.countOf g.kind))
    else none

/-- What makes the squad illegal, each problem once. -/
def problems (s : Squad) : List String :=
  s.groups.foldl (fun found g =>
    match s.limitProblem? g with
    | some problem => if found.contains problem then found else found ++ [problem]
    | none => found) s.sizeProblem?.toList

/-- The base gear and after it the own gear of each group. -/
def allGear (s : Squad) : Loadout := s.gear ++ s.groups.flatMap Group.gear

/-- The report on a squad as it stands. -/
def report (s : Squad) : SquadReport where
  name := s.name
  unit := s.template.name
  role := s.role
  size := s.size
  minSize := s.template.minSize
  maxSize := s.template.maxSize
  points := s.points
  wargear := s.gear.labels
  models := s.groups.map fun g => ⟨g.kind, g.count, g.pointsEach s.gear, (g.loadout s.gear).labels⟩
  problems := s.problems

end Squad

end Muster
