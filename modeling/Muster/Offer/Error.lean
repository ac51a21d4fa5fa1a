/-!
# What can be wrong with an option clause
-/

namespace Muster

/-- Why a clause cannot be read. Positions count bytes from the start of the clause. -/
inductive OfferError where
  | unknownItem (name : String) (position : Nat)
  | unexpectedCharacter (c : Char) (position : Nat)
  | numberOutOfRange (digits : String) (position : Nat)
  | unexpectedToken (token : String) (position : Nat)
  | unexpectedEnd (position : Nat)
  | notWargear (entry : String)
deriving DecidableEq, Repr

namespace OfferError

/-- The text of an error. -/
def message : OfferError → String
  | unknownItem name p => "unknown item '" ++ name ++ "' at position " ++ toString p
  | unexpectedCharacter c p =>
    "unexpected character '" ++ c.toString ++ "' at position " ++ toString p
  | numberOutOfRange digits p =>
    "number '" ++ digits ++ "' at position " ++ toString p ++ " is out of range"
  | unexpectedToken token p => "unexpected " ++ token ++ " at position " ++ toString p
  | unexpectedEnd p => "unexpected end of input at position " ++ toString p
  | notWargear entry => "'" ++ entry ++ "' is an option, not a piece of wargear"

/-- The place in the clause that an error points at. -/
def position? : OfferError → Option Nat
  | unknownItem _ p | unexpectedCharacter _ p | numberOutOfRange _ p | unexpectedToken _ p
  | unexpectedEnd p => some p
  | notWargear _ => none

/-- The clause is well formed and names something that the arsenal lacks. -/
def blamesArsenal : OfferError → Bool
  | unknownItem .. => true
  | _ => false

end OfferError

end Muster
