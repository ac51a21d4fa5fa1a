import Muster.Record
import Muster.Yaml.Token

/-!
# Documents

The tree of a document, read from its tokens. Values of members and elements of block lists may be
left out, and so may both sides of a colon. Every function is given steps to spend and returns what
it has read with the tokens that follow; `read?` gives enough steps for any document.
-/

namespace Muster.Yaml

/-- A document or a part of it. -/
inductive Node where
  | scalar (plain : Bool) (text : String)
  | list (elements : List Node)
  | map (members : List (Node × Node))
deriving Repr

/-- A value that is left out. -/
def Node.empty : Node := scalar true ""

/-- Where a value stands. -/
inductive Setting where
  /-- in a flow collection -/
  | flow
  /-- in a block list, or alone -/
  | block
  /-- in a block map, where a list need not be indented -/
  | member
deriving DecidableEq, Repr

/-- What follows a value that is left out. -/
def endsValue (setting : Setting) : List Token → Bool
  | [] => true
  | t :: _ =>
    match setting with
    | .flow => [.value, .comma, .closeList, .closeMap].contains t
    | .block => [.dash, .blockEnd, .documentStart, .documentEnd].contains t
    | .member => [.key, .value, .blockEnd].contains t

mutual

/-- A value. -/
def node (steps : Nat) (setting : Setting) (ts : List Token) : Option (Node × List Token) :=
  match steps, ts with
  | 0, _ => none
  | _ + 1, .scalar plain text :: rest => some (.scalar plain text, rest)
  | steps + 1, .openList :: rest => flowElements steps [] rest
  | steps + 1, .openMap :: rest => flowMembers steps [] rest
  | steps + 1, .blockList :: rest =>
    if setting = .flow then none else blockElements steps [] rest
  | steps + 1, .blockMap :: rest =>
    if setting = .flow then none else blockMembers steps [] rest
  | steps + 1, .dash :: rest =>
    if setting = .member then bareElements steps [] (.dash :: rest) else none
  | _ + 1, _ => none

/-- A value that may be left out. -/
def node? (steps : Nat) (setting : Setting) (ts : List Token) : Option (Node × List Token) :=
  match steps with
  | 0 => none
  | steps + 1 => if endsValue setting ts then some (.empty, ts) else node steps setting ts

/-- The value behind a colon; without a colon there is none. -/
def valueOf (steps : Nat) (setting : Setting) (ts : List Token) : Option (Node × List Token) :=
  match steps, ts with
  | 0, _ => none
  | steps + 1, .value :: rest => node? steps setting rest
  | _ + 1, ts => some (.empty, ts)

/-- The rest of a flow list, with its elements so far, last first. An element may be a map of one
member without brackets; a name that is left out there takes the token in its place with it. -/
def flowElements (steps : Nat) (done : List Node) (ts : List Token) : Option (Node × List Token) :=
  match steps, ts with
  | 0, _ => none
  | _ + 1, .closeList :: rest => some (.list done.reverse, rest)
  | steps + 1, .key :: rest =>
    let name := match rest with
      | .value :: rest | .comma :: rest | .closeList :: rest => some (Node.empty, rest)
      | rest => node steps .flow rest
    match name with
    | none => none
    | some (name, rest) =>
      match valueOf steps .flow rest with
      | none => none
      | some (v, rest) => afterElement steps (.map [(name, v)] :: done) rest
  | steps + 1, ts =>
    match node steps .flow ts with
    | none => none
    | some (v, rest) => afterElement steps (v :: done) rest

/-- The rest of a flow list behind an element. -/
def afterElement (steps : Nat) (done : List Node) (ts : List Token) : Option (Node × List Token) :=
  match steps, ts with
  | 0, _ => none
  | steps + 1, .comma :: rest => flowElements steps done rest
  | _ + 1, .closeList :: rest => some (.list done.reverse, rest)
  | _ + 1, _ => none

/-- The rest of a flow map, with its members so far, last first. A member may be a name alone. -/
def flowMembers (steps : Nat) (done : List (Node × Node)) (ts : List Token) :
    Option (Node × List Token) :=
  match steps, ts with
  | 0, _ => none
  | _ + 1, .closeMap :: rest => some (.map done.reverse, rest)
  | steps + 1, .key :: rest =>
    match node? steps .flow rest with
    | none => none
    | some (name, rest) =>
      match valueOf steps .flow rest with
      | none => none
      | some (v, rest) => afterMember steps ((name, v) :: done) rest
  | steps + 1, ts =>
    match node steps .flow ts with
    | none => none
    | some (name, rest) => afterMember steps ((name, .empty) :: done) rest

/-- The rest of a flow map behind a member. -/
def afterMember (steps : Nat) (done : List (Node × Node)) (ts : List Token) :
    Option (Node × List Token) :=
  match steps, ts with
  | 0, _ => none
  | steps + 1, .comma :: rest => flowMembers steps done rest
  | _ + 1, .closeMap :: rest => some (.map done.reverse, rest)
  | _ + 1, _ => none

/-- The rest of a block list, with its elements so far, last first. -/
def blockElements (steps : Nat) (done : List Node) (ts : List Token) :
    Option (Node × List Token) :=
  match steps, ts with
  | 0, _ => none
  | steps + 1, .dash :: rest =>
    match node? steps .block rest with
    | none => none
    | some (v, rest) => blockElements steps (v :: done) rest
  | _ + 1, .blockEnd :: rest => some (.list done.reverse, rest)
  | _ + 1, _ => none

/-- The rest of a block list that is not indented, with its elements so far, last first. -/
def bareElements (steps : Nat) (done : List Node) (ts : List Token) :
    Option (Node × List Token) :=
  match steps, ts with
  | 0, _ => none
  | steps + 1, .dash :: rest =>
    if endsValue .member rest then bareElements steps (.empty :: done) rest
    else
      match node? steps .block rest with
      | none => none
      | some (v, rest) => bareElements steps (v :: done) rest
  | _ + 1, ts => some (.list done.reverse, ts)

/-- The rest of a block map, with its members so far, last first. -/
def blockMembers (steps : Nat) (done : List (Node × Node)) (ts : List Token) :
    Option (Node × List Token) :=
  match steps, ts with
  | 0, _ => none
  | steps + 1, .key :: rest =>
    match node? steps .member rest with
    | none => none
    | some (name, rest) =>
      match valueOf steps .member rest with
      | none => none
      | some (v, rest) => blockMembers steps ((name, v) :: done) rest
  | _ + 1, .blockEnd :: rest => some (.map done.reverse, rest)
  | _ + 1, _ => none

end

/-- The one document that the tokens spell, which may be empty; it may begin and end with marks. -/
def ofTokens? (ts : List Token) : Option Node :=
  let steps := 4 * ts.length + 4
  let content := match ts with
    | [] => some (Node.empty, [])
    | .documentStart :: rest => node? steps .block rest
    | ts => node steps .block ts
  match content with
  | some (v, rest) => if rest.all (· matches .documentEnd) then some v else none
  | none => none

/-- The document that a text holds. -/
def read? (text : String) : Option Node := (scan? text).bind ofTokens?

/-- A natural number in base ten, or in base 16, 8 or 2 behind its mark. A plus sign may stand in
front; a zero in front of other digits makes the scalar a text. -/
def natural? (text : String) : Option Nat :=
  let digits := match text.toList with
    | '+' :: rest => rest
    | cs => cs
  match digits with
  | '0' :: 'x' :: rest => Text.numeral? 16 rest
  | '0' :: 'o' :: rest => Text.numeral? 8 rest
  | '0' :: 'b' :: rest => Text.numeral? 2 rest
  | '0' :: _ :: _ => none
  | _ => Text.numeral? 10 digits

/-- A truth value, in lower case, in upper case or with a capital. -/
def flag? (text : String) : Option Bool :=
  if ["true", "True", "TRUE"].contains text then some true
  else if ["false", "False", "FALSE"].contains text then some false
  else none

/-- The text of a scalar. -/
def Node.text? : Node → Option String
  | scalar _ text => some text
  | _ => none

/-- Only a plain scalar can be anything but a text, and only nothing at all stands for an empty list
or map. A record is never written as a list. -/
instance : Viewed Node where
  view
    | .scalar true text => .scalar {
        text := some text
        natural := natural? text
        flag := flag? text
        absent := ["", "~", "null", "Null", "NULL"].contains text
        hollow := text = "" }
    | .scalar false text => .scalar { text := some text }
    | .list elements => .list elements
    | .map members => .fields (members.map fun m => (m.1.text?, m.2))
  positional := false

end Muster.Yaml
