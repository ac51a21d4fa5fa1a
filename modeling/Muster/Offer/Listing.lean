import Muster.Offer.Basic
import Muster.Offer.Letter

/-!
# Listings

How an offer reads to the player it is made to. An offer with alternatives, one of which is already
carried, is an exchange: the left-most such piece is the one given up, and each choice shows what it
costs beyond it.
-/

namespace Muster

/-- Whether an option addresses a squad of several models or a single one. -/
inductive Scope where
  | squad
  | model
deriving DecidableEq, Repr

/-- Whom an offer is made to: what is carried, and how the bearer is addressed. -/
structure Bearer where
  gear : Loadout
  scope : Scope
deriving DecidableEq, Repr

/-- One lettered line of a listing. -/
structure Line where
  letter : Char
  label : String
  cost : Nat
  /-- the cost beyond the piece given up, in an exchange -/
  net : Option Int
deriving DecidableEq, Repr

/-- An option as it is shown. -/
structure Listing where
  index : Nat
  header : String
  picksAllowed : Nat
  modelsPer : Nat
  perModel : Bool
  exchange : Option String
  choices : List Line
  selected : List String
  text : String
deriving DecidableEq, Repr

namespace Offer

/-- The piece given up by an exchange. -/
def exchanged? (o : Offer) (b : Bearer) : Option Gear :=
  if o.hasChoice then o.gear.find? fun g => b.gear.carries g else none

/-- Who may take up the offer. -/
def subject (o : Offer) (scope : Scope) : String :=
  match o.reach, scope with
  | .every n, _ => "For every " ++ toString n ++ " models, you may"
  | .anyModel, _ => "Any model may"
  | .squad, .squad => "The whole unit may"
  | .squad, .model => "You may"

/-- The number of choices in words. -/
def amount (o : Offer) : String := if o.picksAllowed = 1 then "one" else toString o.picksAllowed

/-- The sentence that makes the offer; alternatives follow it. -/
def header (o : Offer) (b : Bearer) : String :=
  let subject := o.subject b.scope
  match o.menu with
  | .choice _ =>
    match o.exchanged? b with
    | some g => subject ++ " exchange " ++ g.label ++ " for " ++ o.amount ++ " of the following:"
    | none => subject ++ " take " ++ o.amount ++ " of the following:"
  | .single g =>
    if o.picksAllowed > 1 then
      subject ++ " take up to " ++ toString o.picksAllowed ++ " x " ++ g.priced
    else subject ++ " take " ++ g.priced

/-- The choices from the one with the given index on. -/
def linesFrom (exchanged : Option Gear) (index : Nat) : List Gear → List Line
  | [] => []
  | g :: rest =>
    ⟨letterAt index, g.label, g.cost, exchanged.map fun x => (g.cost : Int) - (x.cost : Int)⟩
      :: linesFrom exchanged (index + 1) rest

/-- The choices with their letters. -/
def lines (o : Offer) (b : Bearer) : List Line := linesFrom (o.exchanged? b) 0 o.gear

/-- A number with its sign, also when it is not negative. -/
def signed (n : Int) : String := if n < 0 then toString n else "+" ++ toString n

end Offer

/-- A choice in one line: its net cost in an exchange, else its cost unless it is free. -/
def Line.text (l : Line) : String :=
  let lettered := l.letter.toString ++ ") " ++ l.label
  match l.net with
  | some net => lettered ++ " (net " ++ Offer.signed net ++ "pts)"
  | none => if l.cost > 0 then lettered ++ " (" ++ toString l.cost ++ "pts)" else lettered

/-- The header, and under it the choices if there are alternatives. -/
def Offer.text (o : Offer) (b : Bearer) : String :=
  if o.hasChoice then
    (o.lines b).foldl (fun text l => text ++ "\n    " ++ l.text) (o.header b)
  else o.header b

end Muster
