import Muster.Text.Range

/-!
# Blanks and words

The white space of the standard, trimming it from the ends of a text, and the words between it.
Texts are lists of characters here; the functions on `String` at the end are their images.
-/

namespace Muster.Text

/-- The white space characters beyond ASCII. -/
def blankRanges : List (Nat × Nat) := [
  (0x85, 0x85), (0xa0, 0xa0), (0x1680, 0x1680), (0x2000, 0x200a), (0x2028, 0x2029),
  (0x202f, 0x202f), (0x205f, 0x205f), (0x3000, 0x3000)]

/-- A white space character. -/
def isBlank (c : Char) : Bool :=
  if c.toNat < 128 then c.toNat == 0x20 || (9 ≤ c.toNat && c.toNat ≤ 13)
  else inRanges c.toNat blankRanges

/-- Drops the blanks in front. -/
def trimStart (cs : List Char) : List Char := cs.dropWhile isBlank

/-- Drops the blanks at the end. -/
def trimEnd : List Char → List Char
  | [] => []
  | c :: rest =>
    match trimEnd rest with
    | [] => if isBlank c then [] else [c]
    | kept => c :: kept

/-- Drops the blanks at both ends. -/
def trim (cs : List Char) : List Char := trimEnd (trimStart cs)

/-- What is left of a text is its part before the blanks. -/
theorem trimEnd_eq_nil_iff {cs : List Char} : trimEnd cs = [] ↔ ∀ c ∈ cs, isBlank c = true := by
  induction cs with
  | nil => simp [trimEnd]
  | cons c rest ih =>
    unfold trimEnd
    cases h : trimEnd rest with
    | nil => by_cases hc : isBlank c <;> simp_all
    | cons d kept => simp_all

/-- Trimming the end cuts off a run of blanks and nothing else. -/
theorem trimEnd_append (cs : List Char) :
    ∃ blanks, cs = trimEnd cs ++ blanks ∧ ∀ c ∈ blanks, isBlank c = true := by
  induction cs with
  | nil => exact ⟨[], by simp [trimEnd]⟩
  | cons c rest ih =>
    obtain ⟨blanks, hrest, hblank⟩ := ih
    unfold trimEnd
    cases h : trimEnd rest with
    | nil =>
      rw [h, List.nil_append] at hrest
      by_cases hc : isBlank c
      · exact ⟨c :: blanks, by simp [hc, ← hrest], by simpa [hc] using hblank⟩
      · exact ⟨blanks, by simp [hc, ← hrest], hblank⟩
    | cons d kept => exact ⟨blanks, by rw [h] at hrest; simp [hrest], hblank⟩

/-- Cuts a text at its blanks: the first entry is what stands before the first of them. -/
def splitBlanks : List Char → List (List Char)
  | [] => [[]]
  | c :: rest =>
    match splitBlanks rest with
    | [] => [[c]]
    | word :: words => if isBlank c then [] :: word :: words else (c :: word) :: words

/-- The runs of characters between blanks, in order. -/
def words (cs : List Char) : List (List Char) := (splitBlanks cs).filter fun w => !w.isEmpty

/-- The image of `trim` on strings. -/
def trimmed (s : String) : String := String.ofList (trim s.toList)

end Muster.Text
