/-!
# Letters of choices

The choices of an option are lettered from `a` on. A letter is read in upper or lower case.
-/

namespace Muster.Offer

/-- The letter that a choice is shown with: the character that many places after `a`, or a question
mark where there is none. -/
def letterAt (index : Nat) : Char :=
  if h : (97 + index).isValidChar then Char.ofNatAux (97 + index) h else '?'

/-- The choice that a letter stands for. -/
def letterIndex? (letter : Char) : Option Nat :=
  let low := letter.toLower
  if low.isLower then some (low.toNat - 97) else none

/-- The letters from `a` to `z` are read back as the choices they are shown with. -/
theorem letterIndex?_letterAt {index : Nat} (h : index < 26) :
    letterIndex? (letterAt index) = some index := by
  have all : ∀ i ∈ List.range 26, letterIndex? (letterAt i) = some i := by decide
  exact all index (List.mem_range.mpr h)

/-- No letter is left after `z`: no character that follows it is one, nor is the question mark. -/
theorem letterIndex?_letterAt_of_le {index : Nat} (h : 26 ≤ index) :
    letterIndex? (letterAt index) = none := by
  by_cases hvalid : (97 + index).isValidChar
  · rw [letterAt, dif_pos hvalid]
    have hcode : 123 ≤ (Char.ofNatAux (97 + index) hvalid).toNat := Nat.add_le_add_left h 97
    generalize Char.ofNatAux (97 + index) hvalid = c at hcode
    have hlow : c.toLower = c := by
      unfold Char.toLower
      rw [dif_neg]
      change ¬ (65 ≤ c.toNat ∧ c.toNat ≤ 90)
      omega
    have hnot : ¬ c.isLower = true := by
      intro hlower
      have hval : c.val ≤ 'z'.val := of_decide_eq_true (Bool.and_eq_true_iff.mp hlower).2
      have hle : c.toNat ≤ 122 := hval
      omega
    rw [letterIndex?, hlow]
    exact if_neg hnot
  · rw [letterAt, dif_neg hvalid]
    rfl

end Muster.Offer
