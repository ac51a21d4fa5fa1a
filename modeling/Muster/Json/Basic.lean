/-!
# JSON values

The tree of a JSON text, with what its readers may still need: members in the order written,
repeated names included, and numbers as they are spelled.
-/

namespace Muster

/-- A JSON value. A string or a member name is `none` where its escapes spell half of a surrogate
pair: that is well-formed JSON, but no text. -/
inductive Json where
  | null
  | bool (b : Bool)
  | number (spelling : String)
  | string (text : Option String)
  | array (elements : List Json)
  | object (members : List (Option String × Json))
deriving Repr

namespace Json

/-- A way to read JSON texts. -/
abbrev Reader := String → Option Json

/-- A string without broken characters. -/
def text (s : String) : Json := string (some s)

/-- A natural number in decimal. -/
def nat (n : Nat) : Json := number (toString n)

/-- An integer in decimal. -/
def int (n : Int) : Json := number (toString n)

/-- A value that may be missing; `null` stands for none. -/
def ofOption (f : α → Json) : Option α → Json
  | none => null
  | some a => f a

/-- An array of strings. -/
def texts (ss : List String) : Json := array (ss.map text)

/-- An object with the members in the order given. -/
def record (members : List (String × Json)) : Json :=
  object (members.map fun m => (some m.1, m.2))

/-- The value of the last member of a name. -/
def get? (name : String) : Json → Option Json
  | object members => (members.reverse.find? fun m => m.1 = some name).map Prod.snd
  | _ => none

end Json

end Muster
