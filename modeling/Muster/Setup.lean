import Muster.Path
import Muster.Text.Blank
import Muster.Text.Digit

/-!
# Setup

How the service is set up, from the variables of its environment. A variable that is missing, blank
or no number where one is wanted leaves the default.
-/

namespace Muster

/-- What can be chosen about a service. -/
structure Setup where
  bind : String
  catalog : String
  /-- threads for audits; none means one for each core -/
  workers : Nat
  maxSessions : Nat
  idleSeconds : Nat
deriving DecidableEq, Repr

namespace Setup

/-- The setup where the environment says nothing. -/
def default : Setup := ⟨"127.0.0.1:3000", "data/catalogs/necron.catalog.json", 0, 256, 1800⟩

/-- The largest number that a variable may give. -/
def maxNumber : Nat := 18446744073709551615

/-- A number in decimal digits up to `limit`; a plus sign may stand in front. -/
def number? (limit : Nat) (cs : List Char) : Option Nat :=
  let digits := match cs with
    | '+' :: rest => rest
    | _ => cs
  if digits ≠ [] ∧ digits.all Char.isDigit then
    some (Text.decimal digits) |>.filter fun n => n ≤ limit
  else none

/-- The value of a variable that is not blank. -/
def given? (env : String → Option String) (name : String) : Option String :=
  (env name).filter fun value => Text.trimmed value ≠ ""

/-- The number that a variable gives. -/
def givenNumber? (env : String → Option String) (name : String) : Option Nat :=
  (given? env name).bind fun value => number? maxNumber (Text.trim value.toList)

/-- The variables that are looked at. -/
def variableNames : List String :=
  ["ARMOURY_BIND", "ARMOURY_CATALOG", "ARMOURY_WORKERS", "ARMOURY_MAX_SESSIONS",
    "ARMOURY_SESSION_IDLE_SECS"]

/-- The setup that the environment asks for; at least one edit must be allowed. -/
def ofVariables (env : String → Option String) : Setup where
  bind := (given? env "ARMOURY_BIND").getD default.bind
  catalog := (given? env "ARMOURY_CATALOG").getD default.catalog
  workers := (givenNumber? env "ARMOURY_WORKERS").getD default.workers
  maxSessions :=
    ((givenNumber? env "ARMOURY_MAX_SESSIONS").filter fun n => n > 0).getD default.maxSessions
  idleSeconds :=
    (givenNumber? env "ARMOURY_SESSION_IDLE_SECS").getD default.idleSeconds

/-- Two setups come to the same, however the path is spelled. -/
def same (s t : Setup) : Bool :=
  decide ({ s with catalog := t.catalog } = t) && Path.same s.catalog t.catalog

end Setup

/-- An address to listen on. -/
structure Endpoint where
  host : String
  port : Nat
deriving DecidableEq, Repr

/-- Why a text is no address. -/
inductive EndpointError where
  | noPort
  | invalidPort
deriving DecidableEq, Repr

/-- The text of an error. -/
def EndpointError.message : EndpointError → String
  | noPort => "invalid socket address"
  | invalidPort => "invalid port value"

namespace Endpoint

/-- The largest number of a port. -/
def maxPort : Nat := 65535

/-- Host and port, which the last colon of the text separates. -/
def ofText (text : String) : Except EndpointError Endpoint :=
  let cs := text.toList.reverse
  match cs.dropWhile (· ≠ ':') with
  | [] => .error .noPort
  | _ :: host =>
    match Setup.number? maxPort (cs.takeWhile (· ≠ ':')).reverse with
    | none => .error .invalidPort
    | some port => .ok ⟨String.ofList host.reverse, port⟩

end Endpoint

end Muster
