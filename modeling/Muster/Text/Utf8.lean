/-!
# Reading UTF-8

Bytes as text. Bytes that belong to no character become replacement characters, one for each
longest run that could have begun a character.
-/

namespace Muster.Text

/-- What may follow the first byte of a character of several bytes: the bits that the first byte
gives, the range of the second byte, and the number of bytes after the second. -/
def leadByte? (b : Nat) : Option (Nat × Nat × Nat × Nat) :=
  if 0xc2 ≤ b ∧ b ≤ 0xdf then some (b - 0xc0, 0x80, 0xbf, 0)
  else if b = 0xe0 then some (0, 0xa0, 0xbf, 1)
  else if b = 0xed then some (0xd, 0x80, 0x9f, 1)
  else if 0xe1 ≤ b ∧ b ≤ 0xef then some (b - 0xe0, 0x80, 0xbf, 1)
  else if b = 0xf0 then some (0, 0x90, 0xbf, 2)
  else if 0xf1 ≤ b ∧ b ≤ 0xf3 then some (b - 0xf0, 0x80, 0xbf, 2)
  else if b = 0xf4 then some (4, 0x80, 0x8f, 2)
  else none

/-- Where reading stands inside a character. -/
inductive Partial where
  | none
  /-- the bits so far, the range of the next byte, and the number of bytes after it -/
  | some (bits low high more : Nat)

/-- The character that stands for bytes which are none. -/
def replacement : Char := Char.ofNat 0xfffd

/-- Starts a character with a byte: the characters that are complete, and what is pending. -/
def startByte (b : Nat) : List Char × Partial :=
  if b < 0x80 then ([Char.ofNat b], .none)
  else
    match leadByte? b with
    | some (bits, low, high, more) => ([], .some bits low high more)
    | none => ([replacement], .none)

/-- Reads bytes from a point inside a character on; `done` holds the characters before, last
first. -/
def readUtf8From (done : List Char) (pending : Partial) : List Nat → List Char
  | [] =>
    match pending with
    | .none => done.reverse
    | .some .. => (replacement :: done).reverse
  | b :: rest =>
    match pending with
    | .none =>
      let (cs, pending) := startByte b
      readUtf8From (cs ++ done) pending rest
    | .some bits low high more =>
      if low ≤ b ∧ b ≤ high then
        let bits := 64 * bits + (b - 0x80)
        match more with
        | 0 => readUtf8From (Char.ofNat bits :: done) .none rest
        | more + 1 => readUtf8From done (.some bits 0x80 0xbf more) rest
      else
        let (cs, pending) := startByte b
        readUtf8From (cs ++ replacement :: done) pending rest

/-- The text of the bytes. -/
def readUtf8 (bytes : List Nat) : List Char := readUtf8From [] .none bytes

end Muster.Text
