import Muster.Codex.Loading
import Muster.Service.Desk
import Muster.Setup

/-!
# The command line

What the commands print and the code they end with. Serving is left to the caller, who is told the
address and the desk to serve.
-/

namespace Muster

/-- The commands. -/
inductive Command where
  | serve
  | validate
  | units
  | options
deriving DecidableEq, Repr

/-- The command that a word names. -/
def Command.ofWord? : String → Option Command
  | "serve" => some serve
  | "validate" => some validate
  | "units" => some units
  | "options" => some options
  | _ => none

/-- The end of a run: what it wrote, and its exit code. -/
structure Outcome where
  out : String
  err : String
  code : Nat
deriving DecidableEq, Repr

/-- What a command line comes to. -/
inductive Plan where
  | done (o : Outcome)
  | serve (endpoint : Endpoint) (desk : Desk)
deriving Repr

namespace Console

/-- What is printed of a command line that names no command. -/
def usage : String :=
  "usage: armoury <serve|validate [catalog]|units [catalog]|options <role> <unit> [catalog]>"

/-- What is printed when the options command lacks a role or a unit. -/
def optionsUsage : String := "usage: armoury options <role> <unit> [catalog]"

/-- Lines, each with its break. -/
def block (lines : List String) : String := String.join (lines.map (· ++ "\n"))

/-- A run that ends with an error in one line. -/
def failure (code : Nat) (message : String) : Outcome := ⟨"", block [message], code⟩

/-- A run that ends because its codex cannot be loaded. -/
def loadFailure (e : LoadError) : Outcome := failure 1 ("failed to load catalog: " ++ e.message)

/-- Findings and the verdict; errors go to the error output. -/
def validate (fetch : String → Except ReadFailure String) (path : String) : Outcome :=
  match Codex.fromFile fetch path with
  | .error e => failure 1 ("validation failed: " ++ e.message)
  | .ok x =>
    let audit := x.audit
    let lines := fun (findings : Audit) => findings.map fun f => "- " ++ f.line
    let errors := lines (audit.filter fun f => f.severity = .error)
    let others := lines (audit.filter fun f => f.severity ≠ .error)
    if audit.hasErrors then
      let verdict := "validation failed: " ++ toString (audit.count .error) ++ " error(s)"
      ⟨block others, block (errors ++ [verdict]), 1⟩
    else
      let verdict := "validation passed: " ++ path ++ " (" ++ toString x.unitCount ++ " units, "
        ++ toString (audit.count .warning) ++ " warning(s))"
      ⟨block (others ++ [verdict]), "", 0⟩

/-- The line of one unit. -/
def unitLine (role : Role) (t : UnitTemplate) (s : Squad) : String :=
  role.name ++ "\t" ++ t.name ++ "\t" ++ toString t.minSize ++ "-" ++ toString t.maxSize
    ++ " models\t" ++ toString s.points ++ "pts"

/-- A line for each unit, up to the first that cannot be built. -/
def unitLines (x : Codex) (out : List String) : List (Role × UnitTemplate) → Outcome
  | [] => ⟨block out.reverse, "", 0⟩
  | (role, t) :: rest =>
    match Squad.muster x role t.name with
    | .ok s => unitLines x (unitLine role t s :: out) rest
    | .error e =>
      ⟨block out.reverse, block [role.name ++ "\t" ++ t.name ++ "\t" ++ e.message], 1⟩

/-- The faction, and a line for each of its units. -/
def units (fetch : String → Except ReadFailure String) (path : String) : Outcome :=
  match Codex.loadFile fetch path with
  | .error e => loadFailure e
  | .ok x => unitLines x [x.faction] x.unitListing

/-- The squad and its numbered options. -/
def options (fetch : String → Except ReadFailure String) (path roleText unit : String) : Outcome :=
  match Role.ofText? roleText with
  | none => failure 2 (Role.unknownMessage roleText)
  | some role =>
    match Codex.loadFile fetch path with
    | .error e => loadFailure e
    | .ok x =>
      match Squad.muster x role unit with
      | .error e => failure 1 e.message
      | .ok s =>
        match s.perform Squad.ensureSheets with
        | (_, .error e) => failure 1 e.message
        | (s, .ok _) =>
          let heading := s.name ++ " (" ++ toString s.points ++ "pts)"
          let lines := s.listings.map fun l => toString (l.index + 1) ++ ". " ++ l.text
          ⟨block (heading :: lines), "", 0⟩

/-- The desk to serve and where, once the codex is loaded and the address is read. -/
def serve (fetch : String → Except ReadFailure String) (setup : Setup) : Plan :=
  match Codex.loadFile fetch setup.catalog with
  | .error e => .done (loadFailure e)
  | .ok x =>
    match Endpoint.ofText setup.bind with
    | .error e => .done (failure 1 ("server error: " ++ e.message))
    | .ok endpoint =>
      .serve endpoint (.start x ⟨setup.maxSessions, setup.idleSeconds * 1000000000⟩)

/-- The command that a command line names; the first argument is the program. -/
def command? (args : List String) : Option Command := args[1]?.bind Command.ofWord?

/-- The file that a command reads its codex from. -/
def codexPath (setup : Setup) (args : List String) : Command → String
  | .serve => setup.catalog
  | .validate | .units => args[2]?.getD setup.catalog
  | .options => args[4]?.getD setup.catalog

/-- What a command comes to. -/
def execute (fetch : String → Except ReadFailure String) (setup : Setup) (args : List String)
    (c : Command) : Plan :=
  let path := codexPath setup args c
  match c with
  | .serve => serve fetch setup
  | .validate => .done (validate fetch path)
  | .units => .done (units fetch path)
  | .options =>
    match args[2]?, args[3]? with
    | some role, some unit => .done (options fetch path role unit)
    | _, _ => .done (failure 2 optionsUsage)

/-- What a command line comes to, with the file system and the environment as arguments. -/
def run (fetch : String → Except ReadFailure String) (env : String → Option String)
    (args : List String) : Plan :=
  match command? args with
  | none => .done (failure 2 usage)
  | some c => execute fetch (.ofVariables env) args c

end Console

end Muster
