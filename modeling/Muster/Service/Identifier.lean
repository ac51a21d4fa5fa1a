import Muster.Json.Writing

/-!
# Session ids

Ids of open edits, made of sixteen bytes that the caller draws at random: digits of base sixteen in
five groups, with the marks of a random identifier in the third group and in the fourth.
-/

namespace Muster.Session

/-- The bytes with the version in the upper half of the seventh and the variant in the top two bits
of the ninth. -/
def marked (bytes : List Nat) : List Nat :=
  (bytes.modify 6 fun b => 0x40 + b % 16).modify 8 fun b => 0x80 + b % 64

/-- The two digits of a byte. -/
def byteDigits (b : Nat) : List Char := [Json.hexDigit (b / 16 % 16), Json.hexDigit (b % 16)]

/-- The id made of sixteen bytes. -/
def idOf (bytes : List Nat) : String :=
  let digits := (marked bytes).flatMap byteDigits
  let group := fun start size => String.ofList ((digits.drop start).take size)
  "-".intercalate [group 0 8, group 8 4, group 12 4, group 16 4, group 20 12]

end Muster.Session
