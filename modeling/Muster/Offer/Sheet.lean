import Muster.Offer.Listing
import Muster.Offer.Reading

/-!
# Option sheets

An offer together with the picks made from it. Picking one choice again raises its count, and only
different choices count against the number allowed. A count is kept in a register; the pick for which
it has no room aborts.
-/

namespace Muster

/-- How a choice is named when it is picked. -/
inductive Choice where
  | index (n : Nat)
  | letter (c : Char)
  | gear (g : Gear)
deriving DecidableEq, Repr

/-- How a message names a choice. -/
def Choice.describe : Choice → String
  | index n => "choice " ++ toString n
  | letter c => "choice '" ++ c.toString ++ "'"
  | gear g => "'" ++ g.label ++ "'"

/-- Why a pick is refused. -/
inductive PickError where
  | overselection (allowed attempted : Nat)
  | notOffered (choice : Choice)
  /-- no refusal: the program aborts, since a count has no room in its register -/
  | aborted
deriving DecidableEq, Repr

/-- The text of an error. -/
def PickError.message : PickError → String
  | overselection allowed attempted =>
    "this option allows " ++ toString allowed ++ " pick(s) but " ++ toString attempted
      ++ " were selected"
  | notOffered choice => choice.describe ++ " is not offered by this option"
  | aborted => "attempt to add with overflow"

/-- What becomes of a pick beyond the number allowed. -/
inductive Overflow where
  | refuse
  /-- the oldest pick makes room -/
  | evictOldest
deriving DecidableEq, Repr

/-- A choice and how many times it is picked. -/
structure Pick where
  index : Nat
  count : Nat
deriving DecidableEq, Repr

/-- An offer with its picks, oldest first; `header` is how the offer read to the first bearer. -/
structure Sheet where
  source : String
  offer : Offer
  header : String
  picks : List Pick
deriving DecidableEq, Repr

namespace Sheet

/-- A sheet without picks for the clause, as offered to `b`. -/
def read (a : Arsenal) (clause : String) (b : Bearer) : Except OfferError Sheet :=
  match Offer.read a clause with
  | .error e => .error e
  | .ok o => .ok ⟨Text.trimmed clause, o, o.header b, []⟩

/-- The sheets of all clauses of the entries, or what is wrong with each. -/
def readAll (a : Arsenal) (entries : List String) (b : Bearer) :
    List (String × Except OfferError Sheet) :=
  (entries.flatMap Offer.clauses).map fun clause => (clause, read a clause b)

/-- The gear on offer, by index. -/
def gear (s : Sheet) : Loadout := s.offer.gear

/-- The first choice that counts as the same gear. -/
def indexOf? (s : Sheet) (g : Gear) : Option Nat := s.gear.findIdx? fun offered => offered.same g

/-- What the pick of `count` pieces gives. -/
def gearOf? (s : Sheet) (p : Pick) : Option Gear :=
  (s.gear[p.index]?).map fun g => if p.count > 1 then g.times p.count else g

/-- The picked gear, repeated picks of one choice as one piece. -/
def selected (s : Sheet) : Loadout := s.picks.filterMap s.gearOf?

/-- The picked indices, one for each pick. -/
def selectedIndices (s : Sheet) : List Nat :=
  s.picks.flatMap fun p => List.replicate p.count p.index

/-- Whether anything is picked. -/
def hasSelection (s : Sheet) : Bool := !s.picks.isEmpty

/-- The number of picks, each choice as often as it is picked, where a register has room for it. -/
def totalPicks? (s : Sheet) : Option Nat := Amount.total? (fun p => some p.count) s.picks

/-- The number of different choices picked. -/
def distinctPicks (s : Sheet) : Nat := s.picks.length

/-- Whether a choice is picked. -/
def isPicked (s : Sheet) (index : Nat) : Bool := s.picks.any fun p => p.index == index

/-- The index that a choice names, on offer or not. -/
def named? (s : Sheet) : Choice → Option Nat
  | .index n => some n
  | .letter c => Offer.letterIndex? c
  | .gear g => s.indexOf? g

/-- The index of a choice on offer. -/
def resolve (s : Sheet) (c : Choice) : Except PickError Nat :=
  match (s.named? c).filter fun n => n < s.gear.length with
  | some n => .ok n
  | none => .error (.notOffered c)

/-- One pick more: the count of a choice already picked goes up, another comes last. -/
def addPick? (index : Nat) : List Pick → Option (List Pick)
  | [] => some [⟨index, 1⟩]
  | p :: rest =>
    if p.index = index then (Amount.checked (p.count + 1)).map fun count => ⟨index, count⟩ :: rest
    else (addPick? index rest).map (p :: ·)

/-- The sheet with these picks, if there was room for them. -/
def holding (s : Sheet) : Option (List Pick) → Except PickError Sheet
  | some picks => .ok { s with picks }
  | none => .error .aborted

/-- Picks a choice once. -/
def pick (s : Sheet) (c : Choice) (overflow : Overflow) : Except PickError Sheet :=
  match s.resolve c with
  | .error e => .error e
  | .ok index =>
    let attempted := s.distinctPicks + if s.isPicked index then 0 else 1
    if attempted > s.offer.picksAllowed then
      match overflow with
      | .refuse => .error (.overselection s.offer.picksAllowed attempted)
      | .evictOldest => s.holding (addPick? index s.picks.tail)
    else s.holding (addPick? index s.picks)

/-- Replaces all picks, without regard to the number allowed. -/
def pickList (s : Sheet) (indices : List Nat) : Except PickError Sheet :=
  match indices.find? fun n => s.gear.length ≤ n with
  | some n => .error (.notOffered (.index n))
  | none => s.holding (indices.foldlM (fun picks n => addPick? n picks) [])

/-- Drops all picks. -/
def clear (s : Sheet) : Sheet := { s with picks := [] }

/-- Whether the picks stay within the number allowed. -/
def checkPicks (s : Sheet) : Except PickError Unit :=
  if s.distinctPicks > s.offer.picksAllowed then
    .error (.overselection s.offer.picksAllowed s.distinctPicks)
  else .ok ()

/-- The sheet as it is shown to `b` in place `index` of a list. -/
def listing (s : Sheet) (index : Nat) (b : Bearer) : Listing where
  index := index
  header := s.offer.header b
  picksAllowed := s.offer.picksAllowed
  modelsPer := s.offer.modelsPer
  perModel := s.offer.perModel
  exchange := (s.offer.exchanged? b).map Gear.label
  choices := s.offer.lines b
  selected := s.selected.labels
  text := s.offer.text b

end Sheet

end Muster
