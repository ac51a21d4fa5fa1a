import Muster.Offer.Basic
import Muster.Offer.Token

/-!
# Reading option clauses

A clause is read from its tokens by this grammar, where every number is at least one:

* offer: `[N #] choice [- [N]]`
* choice: `bundle (/ bundle)*`
* bundle: `quantity (+ quantity)*`
* quantity: `ITEM`, or `N * quantity`

The functions below return what they have read and the tokens that follow it. The first argument
is the length of the clause in bytes, where an unexpected end is reported.
-/

namespace Muster

namespace Offer

/-- The error that blames a token. -/
def unexpected (t : Token) : OfferError := .unexpectedToken t.lexeme.describe t.position

/-- An item is followed by `+`, `/`, `-` or the end. -/
def checkFollow : List Token → Except OfferError Unit
  | [] | ⟨.plus, _⟩ :: _ | ⟨.slash, _⟩ :: _ | ⟨.minus, _⟩ :: _ => .ok ()
  | t :: _ => .error (unexpected t)

/-- An item with the numbers starred onto it; `factors` holds those already read, last first. -/
def readQuantity (size : Nat) (factors : List Nat) :
    List Token → Except OfferError (Item × List Token)
  | [] => .error (.unexpectedEnd size)
  | ⟨.item i, _⟩ :: rest =>
    match checkFollow rest with
    | .ok () => .ok (factors.foldl Item.times i, rest)
    | .error e => .error e
  | [⟨.number _, _⟩] => .error (.unexpectedEnd size)
  | ⟨.number n, p⟩ :: ⟨.star, _⟩ :: rest =>
    if n = 0 then .error (unexpected ⟨.number n, p⟩) else readQuantity size (n :: factors) rest
  | ⟨.number _, _⟩ :: operator :: _ => .error (unexpected operator)
  | t :: _ => .error (unexpected t)

/-- Reading a quantity takes at least one token. -/
theorem length_of_readQuantity {size : Nat} {factors : List Nat} {ts rest : List Token} {i : Item}
    (h : readQuantity size factors ts = .ok (i, rest)) : rest.length < ts.length := by
  fun_induction readQuantity size factors ts <;> grind

/-- Items joined by `+`; `before` holds those already read, last first. -/
def readBundle (size : Nat) (before : List Item) (ts : List Token) :
    Except OfferError (Gear × List Token) :=
  match _h : readQuantity size [] ts with
  | .error e => .error e
  | .ok (i, ⟨.plus, _⟩ :: rest) => readBundle size (i :: before) rest
  | .ok (i, rest) => .ok (Gear.ofReversed i before, rest)
termination_by ts.length
decreasing_by
  have := length_of_readQuantity _h
  simp only [List.length_cons] at this
  omega

/-- Reading a bundle takes at least one token. -/
theorem length_of_readBundle {size : Nat} {before : List Item} {ts rest : List Token} {g : Gear}
    (h : readBundle size before ts = .ok (g, rest)) : rest.length < ts.length := by
  fun_induction readBundle size before ts with
  | case1 => simp at h
  | case2 before ts i p rest' hq ih =>
    have := length_of_readQuantity hq
    have := ih h
    simp only [List.length_cons] at *
    omega
  | case3 before ts i rest' _ hq =>
    simp only [Except.ok.injEq, Prod.mk.injEq] at h
    obtain ⟨_, rfl⟩ := h
    exact length_of_readQuantity hq

/-- Bundles separated by `/`; `before` holds those already read, last first. -/
def readMenu (size : Nat) (before : List Gear) (ts : List Token) :
    Except OfferError (Menu × List Token) :=
  match _h : readBundle size [] ts with
  | .error e => .error e
  | .ok (g, ⟨.slash, _⟩ :: rest) => readMenu size (g :: before) rest
  | .ok (g, rest) => .ok (Menu.ofReversed g before, rest)
termination_by ts.length
decreasing_by
  have := length_of_readBundle _h
  simp only [List.length_cons] at this
  omega

/-- Nothing may follow a reach. What is blamed is the token in its place; of a `+`, only once the
operand on its right has been read. -/
def checkEnd (size : Nat) : List Token → Except OfferError Unit
  | [] => .ok ()
  | ⟨.plus, p⟩ :: rest =>
    match readQuantity size [] rest with
    | .error e => .error e
    | .ok _ => .error (unexpected ⟨.plus, p⟩)
  | t :: _ => .error (unexpected t)

/-- The reach written after a menu: nothing, `-`, or `-` and a number. -/
def readReach (size : Nat) : List Token → Except OfferError Reach
  | [] => .ok .squad
  | ⟨.minus, _⟩ :: ⟨.number n, p⟩ :: rest =>
    if n = 0 then .error (unexpected ⟨.number n, p⟩) else (checkEnd size rest).map fun _ => .every n
  | ⟨.minus, _⟩ :: rest => (checkEnd size rest).map fun _ => .anyModel
  | t :: _ => .error (unexpected t)

/-- A menu and its reach, up to the end of the clause. -/
def readQualified (size : Nat) (picks : Option Nat) (ts : List Token) : Except OfferError Offer :=
  match readMenu size [] ts with
  | .error e => .error e
  | .ok (m, rest) => (readReach size rest).map fun r => ⟨picks, r, m⟩

/-- The offer that a list of tokens spells. -/
def ofTokens (size : Nat) : List Token → Except OfferError Offer
  | ⟨.number n, p⟩ :: ⟨.hash, _⟩ :: rest =>
    if n = 0 then .error (unexpected ⟨.number n, p⟩) else readQualified size (some n) rest
  | ts => readQualified size none ts

/-- Reads one clause. -/
def read (a : Arsenal) (clause : String) : Except OfferError Offer :=
  match Token.scan a clause with
  | .error e => .error e
  | .ok ts => ofTokens clause.utf8ByteSize ts

/-- The clauses of a catalog entry, which commas separate; empty ones are left out. -/
def clauses (entry : String) : List String :=
  ((entry.toList.splitOn ',').map fun cs => String.ofList (Text.trim cs)).filter fun s => s ≠ ""

end Offer

/-- Reads a loadout entry: a clause that stands for one piece of gear. -/
def Gear.read (a : Arsenal) (entry : String) : Except OfferError Gear :=
  match Offer.read a entry with
  | .error e => .error e
  | .ok o =>
    match o.toGear? with
    | some g => .ok g
    | none => .error (.notWargear (Text.trimmed entry))

end Muster
