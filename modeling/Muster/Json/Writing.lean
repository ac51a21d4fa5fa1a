import Muster.Json.Basic

/-!
# Writing JSON

Two layouts of a value: on one line without blanks, and with one member or element a line,
indented by two blanks a level.
-/

namespace Muster.Json

/-- The digit of a value below sixteen, in lower case. -/
def hexDigit (n : Nat) : Char := Char.ofNat (if n < 10 then n + 48 else n + 87)

/-- A character as it stands in a string: quotes, backslashes and controls are escaped. -/
def escaped (c : Char) : String :=
  if c = '"' then "\\\"" else if c = '\\' then "\\\\"
  else if c = '\n' then "\\n" else if c = '\t' then "\\t" else if c = '\r' then "\\r"
  else if c.toNat = 8 then "\\b" else if c.toNat = 12 then "\\f"
  else if c.toNat < 32 then
    "\\u00" ++ String.ofList [hexDigit (c.toNat / 16), hexDigit (c.toNat % 16)]
  else c.toString

/-- A string in its quotes. -/
def quoted (s : String) : String :=
  s.toList.foldl (fun out c => out ++ escaped c) "\"" ++ "\""

/-- A string that is no text is written as `null`. -/
def quotedText : Option String → String
  | none => "null"
  | some s => quoted s

mutual

/-- The layout on one line, appended to `out`. -/
def compactTo (out : String) : Json → String
  | null => out ++ "null"
  | bool b => out ++ (if b then "true" else "false")
  | number spelling => out ++ spelling
  | string s => out ++ quotedText s
  | array [] => out ++ "[]"
  | array (v :: rest) => elementsTo (compactTo (out ++ "[") v) rest ++ "]"
  | object [] => out ++ "\x7b\x7d"
  | object (m :: rest) => membersTo (memberTo (out ++ "\x7b") m) rest ++ "\x7d"

/-- The elements after the first, appended to `out`. -/
def elementsTo (out : String) : List Json → String
  | [] => out
  | v :: rest => elementsTo (compactTo (out ++ ",") v) rest

/-- The members after the first, appended to `out`. -/
def membersTo (out : String) : List (Option String × Json) → String
  | [] => out
  | m :: rest => membersTo (memberTo (out ++ ",") m) rest

/-- One member, appended to `out`. -/
def memberTo (out : String) : Option String × Json → String
  | (name, v) => compactTo (out ++ quotedText name ++ ":") v

end

/-- The layout on one line. -/
def compact (v : Json) : String := compactTo "" v

/-- A line break and the indentation of a level. -/
def newline (level : Nat) : String := "\n" ++ String.ofList (List.replicate (2 * level) ' ')

mutual

/-- The layout over several lines; `level` is the indentation of the line it starts on. -/
def prettyTo (level : Nat) (out : String) : Json → String
  | null => out ++ "null"
  | bool b => out ++ (if b then "true" else "false")
  | number spelling => out ++ spelling
  | string s => out ++ quotedText s
  | array [] => out ++ "[]"
  | array (v :: rest) =>
    prettyElementsTo (level + 1) (prettyTo (level + 1) (out ++ "[" ++ newline (level + 1)) v) rest
      ++ newline level ++ "]"
  | object [] => out ++ "\x7b\x7d"
  | object (m :: rest) =>
    prettyMembersTo (level + 1) (prettyMemberTo (level + 1) (out ++ "\x7b") m) rest
      ++ newline level ++ "\x7d"

/-- The elements after the first, a line each, appended to `out`. -/
def prettyElementsTo (level : Nat) (out : String) : List Json → String
  | [] => out
  | v :: rest => prettyElementsTo level (prettyTo level (out ++ "," ++ newline level) v) rest

/-- The members after the first, a line each, appended to `out`. -/
def prettyMembersTo (level : Nat) (out : String) : List (Option String × Json) → String
  | [] => out
  | m :: rest => prettyMembersTo level (prettyMemberTo level (out ++ ",") m) rest

/-- One member and its indentation, appended to `out`. -/
def prettyMemberTo (level : Nat) (out : String) : Option String × Json → String
  | (name, v) => prettyTo level (out ++ newline level ++ quotedText name ++ ": ") v

end

/-- The layout with one member or element a line. -/
def pretty (v : Json) : String := prettyTo 0 "" v

end Muster.Json
