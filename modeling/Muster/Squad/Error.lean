import Muster.Codex.Basic
import Muster.Offer.Sheet

/-!
# What a squad refuses
-/

namespace Muster

/-- Why an operation on a squad fails. -/
inductive SquadError where
  | codex (e : CodexError)
  /-- a loadout entry or option clause of the template cannot be read -/
  | offer (squad clause : String) (e : OfferError)
  | pick (e : PickError)
  | insufficientModels (required current shortfall costDelta : Nat)
  | invalidSize (squad : String) (requested min max : Nat)
  | tooManyModels (squad model : String) (limit requested : Nat)
  | modelCountMismatch (squad : String) (expected got : Nat)
  | noSuchOption (squad : String) (index available : Nat)
  | noModelsAvailable (squad : String)
  | entitlementUsed (squad option : String) (entitled : Nat)
  /-- no refusal: the program aborts, since a number of models has no room in its register -/
  | aborted
deriving DecidableEq, Repr

/-- The text of an error. -/
def SquadError.message : SquadError → String
  | codex e => e.message
  | offer squad clause e => squad ++ ": cannot read '" ++ clause ++ "': " ++ e.message
  | pick e => e.message
  | insufficientModels required current shortfall costDelta =>
    "option needs " ++ toString required ++ " models but the unit has " ++ toString current ++ "; "
      ++ toString shortfall ++ " more would cost " ++ toString costDelta ++ "pts"
  | invalidSize squad requested min max =>
    squad ++ " must have between " ++ toString min ++ " and " ++ toString max ++ " models, not "
      ++ toString requested
  | tooManyModels squad model limit requested =>
    squad ++ " may include at most " ++ toString limit ++ " " ++ model ++ ", not "
      ++ toString requested
  | modelCountMismatch squad expected got =>
    squad ++ " has " ++ toString expected ++ " model types but " ++ toString got
      ++ " counts were given"
  | noSuchOption squad index available =>
    squad ++ " has no option " ++ toString index ++ " (" ++ toString available ++ " available)"
  | noModelsAvailable squad => squad ++ " has no unequipped models left"
  | entitlementUsed squad option entitled =>
    squad ++ " may equip " ++ toString entitled ++ " model(s) through '" ++ option
      ++ "' and all of them are taken"
  | aborted => "attempt to add with overflow"

/-- Whether the operation was aborted rather than refused. -/
def SquadError.aborts : SquadError → Bool
  | pick .aborted | aborted => true
  | _ => false

/-- A number of models in its register. -/
def SquadError.register (n : Nat) : Except SquadError Nat :=
  match Amount.checked n with
  | some n => .ok n
  | none => .error .aborted

end Muster
