import Muster.Arsenal
import Muster.Offer.Error
import Muster.Text.Alphabetic
import Muster.Text.Digit
import Muster.Text.Numeric

/-!
# Tokens of option clauses

A clause is cut into items, numbers and operators. Item names may hold spaces and hyphens, so the
arsenal decides where a name ends: of the longest run of name characters and its parts before a
hyphen, the longest that the arsenal knows is the item.
-/

namespace Muster

/-- What a token stands for. -/
inductive Lexeme where
  | item (i : Item)
  | number (n : Nat)
  | plus
  | minus
  | star
  | slash
  | hash
deriving DecidableEq, Repr

/-- The lexeme as error messages name it. -/
def Lexeme.describe : Lexeme → String
  | item i => "item '" ++ i.name ++ "'"
  | number n => "number " ++ toString n
  | plus => "'+'"
  | minus => "'-'"
  | star => "'*'"
  | slash => "'/'"
  | hash => "'#'"

/-- A lexeme and the byte at which it starts. -/
structure Token where
  lexeme : Lexeme
  position : Nat
deriving DecidableEq, Repr

namespace Token

/-- The largest number that a clause may state. -/
def maxNumber : Nat := 999

/-- A character that may stand in the name of an item. -/
def isNameChar (c : Char) : Bool :=
  Text.isAlphabetic c || Text.isNumeric c || c == ' ' || c == '-'

/-- The part of a text before each of its hyphens, longest first. -/
def beforeHyphens : List Char → List (List Char)
  | [] => []
  | c :: rest => (beforeHyphens rest).map (c :: ·) ++ if c = '-' then [[]] else []

/-- The entry that a piece of text names once the blanks at its end are gone, with the text that
is left. -/
def entryNamed? (a : Arsenal) (text : List Char) : Option (List Char × Entry) :=
  match Text.trimEnd text with
  | [] => none
  | c :: rest => (a.lookup? (String.ofList (c :: rest))).map fun e => (c :: rest, e)

/-- The item at the front of a text, with the characters it takes up. -/
def itemAt? (a : Arsenal) (cs : List Char) : Option (List Char × Entry) :=
  let run := cs.takeWhile isNameChar
  (run :: beforeHyphens run).findSome? (entryNamed? a)

/-- The digits of the number at the front of a text: a zero stands alone. -/
def digitsAt : List Char → List Char
  | '0' :: _ => ['0']
  | cs => cs.takeWhile Char.isDigit

/-- The operator that a character is. -/
def operator? : Char → Option Lexeme
  | '+' => some .plus
  | '-' => some .minus
  | '*' => some .star
  | '/' => some .slash
  | '#' => some .hash
  | _ => none

/-- The lexeme that starts with `c`, which is no blank, and the characters it takes up. -/
def lexemeAt (a : Arsenal) (position : Nat) (c : Char) (rest : List Char) :
    Except OfferError (Lexeme × List Char) :=
  match operator? c with
  | some operator => .ok (operator, [c])
  | none =>
    if c.isDigit then
      let digits := digitsAt (c :: rest)
      if Text.decimal digits ≤ maxNumber then .ok (.number (Text.decimal digits), digits)
      else .error (.numberOutOfRange (String.ofList digits) position)
    else if Text.isAlphabetic c then
      match itemAt? a (c :: rest) with
      | some (text, e) => .ok (.item e.toItem, text)
      | none =>
        let run := (c :: rest).takeWhile isNameChar
        .error (.unknownItem (String.ofList (Text.trimEnd run)) position)
    else .error (.unexpectedCharacter c position)

/-- The length of a text in bytes. -/
def byteLength (cs : List Char) : Nat := Amount.sum (cs.map Char.utf8Size)

/-- Cuts a text that starts at byte `position`; `found` holds the tokens before it, last first. -/
def scanFrom (a : Arsenal) (position : Nat) (found : List Token) :
    List Char → Except OfferError (List Token)
  | [] => .ok found.reverse
  | c :: rest =>
    if Text.isBlank c then scanFrom a (position + c.utf8Size) found rest
    else
      match lexemeAt a position c rest with
      | .error e => .error e
      | .ok (lexeme, text) =>
        scanFrom a (position + byteLength text) (⟨lexeme, position⟩ :: found)
          (rest.drop (text.length - 1))
termination_by cs => cs.length
decreasing_by all_goals simp only [List.length_cons, List.length_drop]; omega

/-- The tokens of a clause, or the first thing in it that is no token. -/
def scan (a : Arsenal) (clause : String) : Except OfferError (List Token) :=
  scanFrom a 0 [] clause.toList

end Token

end Muster
