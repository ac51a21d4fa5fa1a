import Muster.Json.Basic
import Muster.Text.Digit

/-!
# Reading JSON

A text is cut into tokens and the tokens are built into one value. The builder keeps the open
arrays and objects on a stack of its own, so that values may nest to any depth.
-/

namespace Muster.Json

/-- A mark or a scalar. -/
inductive Token where
  | openArray
  | closeArray
  | openObject
  | closeObject
  | comma
  | colon
  /-- a string; `none` where its escapes spell half of a surrogate pair -/
  | string (text : Option String)
  /-- a number or a word -/
  | plain (v : Json)

/-- A blank between tokens. -/
def isBlank (c : Char) : Bool := c = ' ' || c = '\n' || c = '\t' || c = '\r'

/-- The character that a backslash and one letter stand for. -/
def shortEscape? : Char → Option Nat
  | '"' => some 0x22
  | '\\' => some 0x5c
  | '/' => some 0x2f
  | 'b' => some 0x08
  | 'f' => some 0x0c
  | 'n' => some 0x0a
  | 'r' => some 0x0d
  | 't' => some 0x09
  | _ => none

/-- The text of a list of code units, read backwards onto `text`: a high surrogate and the low one
after it are one character, and no text holds either alone. -/
def textOfUnits (text : List Char) : List Nat → Option (List Char)
  | [] => some text
  | [unit] =>
    if 0xd800 ≤ unit ∧ unit < 0xe000 then none else some (Char.ofNat unit :: text)
  | unit :: before :: rest =>
    if 0xdc00 ≤ unit ∧ unit < 0xe000 then
      if 0xd800 ≤ before ∧ before < 0xdc00 then
        textOfUnits (Char.ofNat (0x10000 + 1024 * (before - 0xd800) + (unit - 0xdc00)) :: text) rest
      else none
    else if 0xd800 ≤ unit ∧ unit < 0xdc00 then none
    else textOfUnits (Char.ofNat unit :: text) (before :: rest)

/-- What is left of a text after the digits at its front, which must not be missing. -/
def afterDigits? (cs : List Char) : Option (List Char) :=
  match cs with
  | c :: _ => if c.isDigit then some (cs.dropWhile Char.isDigit) else none
  | [] => none

/-- What is left after the whole part of a number, in which a zero stands alone. -/
def afterWhole? : List Char → Option (List Char)
  | '0' :: rest => some rest
  | cs => afterDigits? cs

/-- What is left after a fraction, if there is one. -/
def afterFraction? : List Char → Option (List Char)
  | '.' :: rest => afterDigits? rest
  | cs => some cs

/-- What is left after an exponent, if there is one. -/
def afterExponent? : List Char → Option (List Char)
  | 'e' :: '+' :: rest | 'e' :: '-' :: rest | 'E' :: '+' :: rest | 'E' :: '-' :: rest
  | 'e' :: rest | 'E' :: rest => afterDigits? rest
  | cs => some cs

/-- Whether the text is a number: `-`, whole part, fraction and exponent, of which only the whole
part is required. -/
def isNumber (cs : List Char) : Bool :=
  let unsigned := match cs with
    | '-' :: rest => rest
    | _ => cs
  (afterWhole? unsigned >>= afterFraction? >>= afterExponent?) == some []

/-- The value spelled without quotes or brackets. -/
def plainValue? (spelling : String) : Option Json :=
  if spelling = "null" then some .null
  else if spelling = "true" then some (.bool true)
  else if spelling = "false" then some (.bool false)
  else if isNumber spelling.toList then some (.number spelling)
  else none

/-- The token that a mark makes. -/
def punctuation? : Char → Option Token
  | '[' => some .openArray
  | ']' => some .closeArray
  | '\x7b' => some .openObject
  | '\x7d' => some .closeObject
  | ',' => some .comma
  | ':' => some .colon
  | _ => none

/-- Where the cut through a text stands. -/
inductive Place where
  | between
  /-- in a number or a word, whose characters so far are given last first -/
  | plain (spelled : List Char)
  /-- in a string, whose code units so far are given last first -/
  | string (units : List Nat)

/-- Cuts a text into tokens; `found` holds those before it, last first. -/
def tokens (place : Place) (found : List Token) (text : List Char) : Option (List Token) :=
  match place, text with
  | .between, [] => some found.reverse
  | .between, c :: rest =>
    if isBlank c then tokens .between found rest
    else if c = '"' then tokens (.string []) found rest
    else
      match punctuation? c with
      | some t => tokens .between (t :: found) rest
      | none => tokens (.plain [c]) found rest
  | .plain spelled, [] =>
    (plainValue? (String.ofList spelled.reverse)).map fun v => (Token.plain v :: found).reverse
  | .plain spelled, c :: rest =>
    if isBlank c then
      match plainValue? (String.ofList spelled.reverse) with
      | some v => tokens .between (.plain v :: found) rest
      | none => none
    else
      match punctuation? c with
      | none => tokens (.plain (c :: spelled)) found rest
      | some t =>
        match plainValue? (String.ofList spelled.reverse) with
        | some v => tokens .between (t :: .plain v :: found) rest
        | none => none
  | .string units, '"' :: rest =>
    tokens .between (.string ((textOfUnits [] units).map String.ofList) :: found) rest
  | .string units, '\\' :: 'u' :: a :: b :: c :: d :: rest =>
    match Text.numeral? 16 [a, b, c, d] with
    | some unit => tokens (.string (unit :: units)) found rest
    | none => none
  | .string units, '\\' :: c :: rest =>
    match shortEscape? c with
    | some unit => tokens (.string (unit :: units)) found rest
    | none => none
  | .string units, c :: rest =>
    if c.toNat < 32 then none else tokens (.string (c.toNat :: units)) found rest
  | .string _, [] => none

/-- An array or object whose end is still to come, with what it holds so far, last first. -/
inductive Frame where
  | array (elements : List Json)
  | object (members : List (Option String × Json)) (name : Option String)

/-- Builds a value from tokens. `done` is the value just finished, `none` where one must start. -/
def build : List Frame → Option Json → List Token → Option Json
  | [], some v, [] => some v
  | stack, none, .plain v :: rest => build stack (some v) rest
  | stack, none, .string s :: rest => build stack (some (.string s)) rest
  | stack, none, .openArray :: .closeArray :: rest => build stack (some (.array [])) rest
  | stack, none, .openArray :: rest => build (.array [] :: stack) none rest
  | stack, none, .openObject :: .closeObject :: rest => build stack (some (.object [])) rest
  | stack, none, .openObject :: .string name :: .colon :: rest =>
    build (.object [] name :: stack) none rest
  | .array vs :: stack, some v, .comma :: rest => build (.array (v :: vs) :: stack) none rest
  | .array vs :: stack, some v, .closeArray :: rest =>
    build stack (some (.array (v :: vs).reverse)) rest
  | .object ms name :: stack, some v, .comma :: .string next :: .colon :: rest =>
    build (.object ((name, v) :: ms) next :: stack) none rest
  | .object ms name :: stack, some v, .closeObject :: rest =>
    build stack (some (.object ((name, v) :: ms).reverse)) rest
  | _, _, _ => none

/-- The value that a text spells. -/
def read? (text : String) : Option Json :=
  match tokens .between [] text.toList with
  | none => none
  | some ts => build [] none ts

end Muster.Json
