/-!
# Digits

The values of digits up to base sixteen and of the numbers that runs of them spell.
-/

namespace Muster.Text

/-- The value of a digit up to base sixteen; the letters are upper or lower case. -/
def digitValue? (c : Char) : Option Nat :=
  if c.isDigit then some (c.toNat - 48)
  else if 'a' ≤ c ∧ c ≤ 'f' then some (c.toNat - 87)
  else if 'A' ≤ c ∧ c ≤ 'F' then some (c.toNat - 55)
  else none

/-- The number that a run of digits spells in a base up to sixteen; nothing spells none. -/
def numeral? (base : Nat) (digits : List Char) : Option Nat :=
  match digits with
  | [] => none
  | _ =>
    digits.foldl (fun n d => n.bind fun n =>
      ((digitValue? d).filter fun v => v < base).map fun v => base * n + v) (some 0)

/-- The number that a run of decimal digits spells. -/
def decimal (digits : List Char) : Nat := digits.foldl (fun n d => 10 * n + (d.toNat - 48)) 0

end Muster.Text
