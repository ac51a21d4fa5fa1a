import Muster.Text.Blank
import Muster.Text.Lowercase

/-!
# Battlefield roles

The slots of a force under which units are filed.
-/

namespace Muster

/-- A slot of a force. -/
inductive Role where
  | hq
  | troops
  | elites
  | fastAttack
  | heavySupport
  | dedicatedTransport
  | fortification
  | lordOfWar
  | namedCharacters
deriving DecidableEq, Repr

namespace Role

/-- All roles in their order. -/
def all : List Role :=
  [hq, troops, elites, fastAttack, heavySupport, dedicatedTransport, fortification, lordOfWar,
    namedCharacters]

/-- The name of a role in full. -/
def name : Role → String
  | hq => "HQ"
  | troops => "Troops"
  | elites => "Elites"
  | fastAttack => "Fast Attack"
  | heavySupport => "Heavy Support"
  | dedicatedTransport => "Dedicated Transport"
  | fortification => "Fortification"
  | lordOfWar => "Lord of War"
  | namedCharacters => "Named Characters"

/-- The place of a role in the order. -/
def rank : Role → Nat
  | hq => 0
  | troops => 1
  | elites => 2
  | fastAttack => 3
  | heavySupport => 4
  | dedicatedTransport => 5
  | fortification => 6
  | lordOfWar => 7
  | namedCharacters => 8

/-- Roles are ordered as a force lists them. -/
instance : Ord Role where
  compare r s := compare r.rank s.rank

/-- What two spellings of a role share: case, blanks, hyphens and underscores do not matter. -/
def spellingKey (text : String) : String :=
  let kept := text.toList.filter fun c => !Text.isBlank c && c != '_' && c != '-'
  String.ofList (Text.asciiLower kept)

/-- The role that a text names, in full or by its abbreviation. -/
def ofText? (text : String) : Option Role :=
  let key := spellingKey text
  if key = "hq" then some hq
  else if key = "troops" ∨ key = "tr" then some troops
  else if key = "elites" ∨ key = "el" then some elites
  else if key = "fastattack" ∨ key = "fa" then some fastAttack
  else if key = "heavysupport" ∨ key = "hs" then some heavySupport
  else if key = "dedicatedtransport" ∨ key = "dt" then some dedicatedTransport
  else if key = "fortification" ∨ key = "fort" then some fortification
  else if key = "lordofwar" ∨ key = "low" then some lordOfWar
  else if key = "namedcharacters" ∨ key = "named" then some namedCharacters
  else none

/-- What is said of a text that names no role. -/
def unknownMessage (text : String) : String :=
  "unknown battlefield role '" ++ Text.trimmed text ++ "'"

end Role

end Muster
