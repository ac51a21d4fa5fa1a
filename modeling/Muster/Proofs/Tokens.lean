import Mathlib.Data.String.Basic
import Muster.Offer.Token

/-!
# How a clause falls into tokens

What a lexeme may be is told from the text that it takes up and the text behind it, apart from how a
clause is scanned: an operator is one character, a number is a lone zero or all of a run of digits,
and an item is the longest name that the arsenal knows among a run of name characters and its parts
before a hyphen. A clause falls into blanks and such lexemes, and scanning gives their tokens. It
fails if and only if the clause does not fall apart in this way, and it never has a choice.
-/

namespace Muster

/-! ## Texts -/

namespace Text

/-- A run of characters of one kind, with which what follows it does not go on. -/
def Run (p : Char → Bool) (run rest : List Char) : Prop :=
  (∀ c ∈ run, p c = true) ∧ ∀ c ∈ rest.head?, p c = false

/-- A run is what is taken off the front of the text that it begins. -/
theorem Run.takeWhile_eq {p : Char → Bool} {run rest : List Char} (h : Run p run rest) :
    (run ++ rest).takeWhile p = run := by
  rw [List.takeWhile_append_of_pos h.1]
  cases rest with
  | nil => simp
  | cons c rest => simp [h.2 c rfl]

/-- What is taken off the front of a text is a run. -/
theorem run_takeWhile (p : Char → Bool) (cs : List Char) :
    Run p (cs.takeWhile p) (cs.dropWhile p) := by
  refine ⟨List.all_eq_true.mp List.all_takeWhile, fun c hc => ?_⟩
  have hnot := List.head?_dropWhile_not p cs
  rw [Option.mem_def.mp hc] at hnot
  exact hnot

/-- What is left of a text without the blanks at its end. -/
def Trimmed (cs text : List Char) : Prop :=
  ∃ blanks, cs = text ++ blanks ∧ (∀ c ∈ blanks, isBlank c = true) ∧
    ∀ c ∈ text.getLast?, isBlank c = false

/-- Blanks behind a text that ends in no blank are taken off. -/
theorem trimEnd_append_of_blank {text blanks : List Char}
    (hblanks : ∀ c ∈ blanks, isBlank c = true) (hlast : ∀ c ∈ text.getLast?, isBlank c = false) :
    trimEnd (text ++ blanks) = text := by
  induction text with
  | nil => exact trimEnd_eq_nil_iff.mpr hblanks
  | cons c text ih =>
    cases text with
    | nil => simp [trimEnd, trimEnd_eq_nil_iff.mpr hblanks, hlast c rfl]
    | cons d text =>
      have htail := ih (by simpa using hlast)
      rw [List.cons_append, trimEnd, htail]

/-- A text whose end is trimmed ends in no blank. -/
theorem isBlank_getLast?_trimEnd (cs : List Char) :
    ∀ c ∈ (trimEnd cs).getLast?, isBlank c = false := by
  induction cs with
  | nil => simp [trimEnd]
  | cons c cs ih =>
    rw [trimEnd]
    cases htail : trimEnd cs with
    | nil => by_cases hc : isBlank c <;> simp [hc]
    | cons d kept =>
      rw [htail] at ih
      simpa using ih

/-- Trimming the end of a text gives exactly what is left of it without the blanks there. -/
theorem trimEnd_eq_iff {cs text : List Char} : trimEnd cs = text ↔ Trimmed cs text := by
  constructor
  · rintro rfl
    obtain ⟨blanks, hcs, hblanks⟩ := trimEnd_append cs
    exact ⟨blanks, hcs, hblanks, isBlank_getLast?_trimEnd cs⟩
  · rintro ⟨blanks, rfl, hblanks, hlast⟩
    exact trimEnd_append_of_blank hblanks hlast

/-- A text is trimmed once and for all. -/
theorem trimEnd_trimEnd (cs : List Char) : trimEnd (trimEnd cs) = trimEnd cs := by
  have hkept : trimEnd (trimEnd cs ++ []) = trimEnd cs :=
    trimEnd_append_of_blank (fun c hc => absurd hc List.not_mem_nil) (isBlank_getLast?_trimEnd cs)
  rwa [List.append_nil] at hkept

/-- A number that is in some ranges is in one of them. -/
theorem exists_mem_of_inRanges {n : Nat} {ranges : List (Nat × Nat)}
    (h : inRanges n ranges = true) : ∃ range ∈ ranges, range.1 ≤ n ∧ n ≤ range.2 := by
  induction ranges with
  | nil => cases h
  | cons range rest ih =>
    obtain ⟨low, high⟩ := range
    rw [inRanges] at h
    split at h
    · cases h
    · next hlow =>
      rcases Bool.or_eq_true_iff.mp h with hhigh | hrest
      · exact ⟨_, List.mem_cons_self, Nat.le_of_not_lt hlow, of_decide_eq_true hhigh⟩
      · obtain ⟨range, hmem, hn⟩ := ih hrest
        exact ⟨range, List.mem_cons_of_mem _ hmem, hn⟩

/-- The letters of ASCII are in two ranges. -/
theorem toNat_of_isAlpha {c : Char} (h : c.isAlpha = true) :
    65 ≤ c.toNat ∧ c.toNat ≤ 90 ∨ 97 ≤ c.toNat ∧ c.toNat ≤ 122 := by
  rcases Bool.or_eq_true_iff.mp h with hupper | hlower
  · have hval : c.val ≥ 'A'.val ∧ c.val ≤ 'Z'.val := of_decide_eq_true hupper
    exact .inl hval
  · obtain ⟨hlow, hhigh⟩ := Bool.and_eq_true_iff.mp hlower
    have hval : c.val ≥ 'a'.val ∧ c.val ≤ 'z'.val :=
      ⟨of_decide_eq_true hlow, of_decide_eq_true hhigh⟩
    exact .inr hval

/-- No letter is a blank. Beyond ASCII the two tables have no code point in common. -/
theorem isBlank_eq_false_of_isAlphabetic {c : Char} (h : isAlphabetic c = true) :
    isBlank c = false := by
  have hapart : ∀ range ∈ blankRanges, ∀ n ∈ List.range' range.1 (range.2 + 1 - range.1),
      inRanges n alphabeticRanges = false := by decide +kernel
  rw [isAlphabetic] at h
  rw [isBlank]
  split
  · next hascii =>
    rw [if_pos hascii] at h
    have hletter := toNat_of_isAlpha h
    simp only [Bool.or_eq_false_iff, beq_eq_false_iff_ne, Bool.and_eq_false_iff,
      decide_eq_false_iff_not]
    omega
  · next hascii =>
    rw [if_neg hascii] at h
    rw [← Bool.not_eq_true]
    intro hblank
    obtain ⟨range, hmem, hlow, hhigh⟩ := exists_mem_of_inRanges hblank
    have hnone := hapart range hmem c.toNat (List.mem_range'_1.mpr ⟨hlow, by omega⟩)
    exact Bool.false_ne_true (hnone.symm.trans h)

/-- The digits are in one range. -/
theorem toNat_of_isDigit {c : Char} (h : c.isDigit = true) : 48 ≤ c.toNat ∧ c.toNat ≤ 57 :=
  Char.isDigit_iff_toNat.mp h

/-- No digit is blank. -/
theorem isBlank_eq_false_of_isDigit {c : Char} (h : c.isDigit = true) : isBlank c = false := by
  have hdigit := toNat_of_isDigit h
  rw [isBlank, if_pos (by omega)]
  simp only [Bool.or_eq_false_iff, beq_eq_false_iff_ne, Bool.and_eq_false_iff,
    decide_eq_false_iff_not]
  omega

/-- No letter is a digit. -/
theorem isDigit_eq_false_of_isAlphabetic {c : Char} (h : isAlphabetic c = true) :
    c.isDigit = false := by
  rw [← Bool.not_eq_true]
  intro hdigit
  have hrange := toNat_of_isDigit hdigit
  rw [isAlphabetic, if_pos (by omega)] at h
  have hletter := toNat_of_isAlpha h
  omega

end Text

namespace Token

/-! ## Lexemes -/

/-- The characters that are operators. -/
def operators : List (Char × Lexeme) :=
  [('+', .plus), ('-', .minus), ('*', .star), ('/', .slash), ('#', .hash)]

/-- What may be an item in a run of name characters: all of it, or the part before a hyphen. -/
inductive Candidate (run : List Char) : List Char → Prop where
  | whole : Candidate run run
  | beforeHyphen {part more : List Char} : run = part ++ '-' :: more → Candidate run part

/-- `text` names an entry, and it is what is left of the longest of the candidates that name one
once the blanks at their ends are gone. -/
def Names (a : Arsenal) (run text : List Char) (e : Entry) : Prop :=
  ∃ part, Candidate run part ∧ Text.Trimmed part text ∧
    a.lookup? (String.ofList text) = some e ∧
    ∀ longer text', Candidate run longer → part.length < longer.length →
      Text.Trimmed longer text' → a.lookup? (String.ofList text') = none

/-- The lexeme that `text` spells where `rest` is behind it. -/
inductive Spells (a : Arsenal) : List Char → List Char → Lexeme → Prop where
  | operator {c : Char} {rest : List Char} {l : Lexeme} : (c, l) ∈ operators → Spells a [c] rest l
  | zero {rest : List Char} : Spells a ['0'] rest (.number 0)
  | number {c : Char} {digits rest : List Char} : c ≠ '0' →
      Text.Run Char.isDigit (c :: digits) rest → Nat.ofDigitChars 10 (c :: digits) 0 ≤ maxNumber →
      Spells a (c :: digits) rest (.number (Nat.ofDigitChars 10 (c :: digits) 0))
  | item {c : Char} {text rest run after : List Char} {e : Entry} : Text.isAlphabetic c = true →
      c :: text ++ rest = run ++ after → Text.Run isNameChar run after → Names a run (c :: text) e →
      Spells a (c :: text) rest (.item ⟨e.name, 1, e.cost, e.category⟩)

/-- The text `after`, in front of which `before` stands, falls into blanks and the lexemes of the
tokens, each of which has the number of bytes in front of its lexeme for its position. -/
inductive Cut (a : Arsenal) : List Char → List Char → List Token → Prop where
  | done {before blanks : List Char} : (∀ c ∈ blanks, Text.isBlank c = true) →
      Cut a before blanks []
  | token {before blanks text rest : List Char} {l : Lexeme} {ts : List Token} :
      (∀ c ∈ blanks, Text.isBlank c = true) → Spells a text rest l →
      Cut a (before ++ blanks ++ text) rest ts →
      Cut a before (blanks ++ text ++ rest)
        (⟨l, (String.ofList (before ++ blanks)).utf8ByteSize⟩ :: ts)

/-! ## Items -/

section Items

variable {a : Arsenal} {run part text : List Char} {c : Char} {e : Entry}

/-- The parts before hyphens are those with a hyphen behind them. -/
theorem mem_beforeHyphens : part ∈ beforeHyphens run ↔ ∃ more, run = part ++ '-' :: more := by
  induction run generalizing part with
  | nil => simp [beforeHyphens]
  | cons c run ih =>
    rw [beforeHyphens, List.mem_append, List.mem_map]
    cases part with
    | nil => by_cases hc : c = '-' <;> simp [hc]
    | cons d part =>
      have hshort : d :: part ∉ if c = '-' then [[]] else [] := by split <;> simp
      simp [hshort, ih, and_comm, eq_comm]

/-- The parts that are tried for a name are the candidates. -/
theorem mem_candidates : part ∈ run :: beforeHyphens run ↔ Candidate run part := by
  rw [List.mem_cons, mem_beforeHyphens]
  constructor
  · rintro (rfl | ⟨more, hrun⟩)
    · exact .whole
    · exact .beforeHyphen hrun
  · rintro (_ | hrun)
    · exact .inl rfl
    · exact .inr ⟨_, hrun⟩

/-- No candidate is longer than the run of characters it is taken from. -/
theorem Candidate.length_le (h : Candidate run part) : part.length ≤ run.length := by
  cases h with
  | whole => exact Nat.le_refl _
  | beforeHyphen hrun => simp [hrun]

/-- The parts before hyphens come longest first. -/
theorem pairwise_beforeHyphens (run : List Char) :
    (beforeHyphens run).Pairwise fun longer part => part.length < longer.length := by
  induction run with
  | nil => exact .nil
  | cons c run ih =>
    rw [beforeHyphens, List.pairwise_append, List.pairwise_map]
    refine ⟨by simpa using ih, ?_, ?_⟩
    · split <;> simp
    · split <;> simp

/-- The candidates are tried from the longest on. -/
theorem pairwise_candidates (run : List Char) :
    (run :: beforeHyphens run).Pairwise fun longer part => part.length < longer.length := by
  refine List.pairwise_cons.mpr ⟨fun part hpart => ?_, pairwise_beforeHyphens run⟩
  obtain ⟨more, rfl⟩ := mem_beforeHyphens.mp hpart
  simp

/-- A list that is ordered by length, longest first, is searched for the longest. -/
theorem findSome?_eq_some_iff_longest {f : List Char → Option β} {l : List (List Char)} {b : β}
    (h : l.Pairwise fun longer part => part.length < longer.length) :
    l.findSome? f = some b ↔ ∃ part ∈ l, f part = some b ∧
      ∀ longer ∈ l, part.length < longer.length → f longer = none := by
  rw [List.findSome?_eq_some_iff]
  constructor
  · rintro ⟨front, part, back, rfl, hpart, hfront⟩
    refine ⟨part, by simp, hpart, fun longer hmem hlength => ?_⟩
    obtain ⟨-, hback, -⟩ := List.pairwise_append.mp h
    rcases List.mem_append.mp hmem with hmem | hmem
    · exact hfront longer hmem
    · rcases List.mem_cons.mp hmem with rfl | hmem
      · exact absurd hlength (Nat.lt_irrefl _)
      · have hshorter := (List.pairwise_cons.mp hback).1 longer hmem
        omega
  · rintro ⟨part, hmem, hpart, hlongest⟩
    obtain ⟨front, back, rfl⟩ := List.append_of_mem hmem
    refine ⟨front, part, back, rfl, hpart, fun longer hlonger => ?_⟩
    have hlength := (List.pairwise_append.mp h).2.2 longer hlonger part List.mem_cons_self
    exact hlongest longer (List.mem_append_left _ hlonger) hlength

/-- A part names an entry exactly where it does so without the blanks at its end. -/
theorem entryNamed?_eq_some_iff {text : List Char} :
    entryNamed? a part = some (text, e) ↔
      Text.Trimmed part text ∧ text ≠ [] ∧ a.lookup? (String.ofList text) = some e := by
  rw [entryNamed?, ← Text.trimEnd_eq_iff]
  cases htrim : Text.trimEnd part with
  | nil =>
    constructor
    · intro h
      cases h
    · rintro ⟨rfl, hne, -⟩
      exact absurd rfl hne
  | cons c rest =>
    rw [Option.map_eq_some_iff]
    constructor
    · rintro ⟨e', hlook, heq⟩
      obtain ⟨rfl, rfl⟩ := Prod.mk.inj heq
      exact ⟨rfl, List.cons_ne_nil c rest, hlook⟩
    · rintro ⟨rfl, -, hlook⟩
      exact ⟨e, hlook, rfl⟩

/-- A candidate in a run that starts with a letter starts with this letter, so that there is
something left of it without its blanks. -/
theorem Candidate.trimmed_ne_nil {tail : List Char} (h : Candidate (c :: tail) part)
    (hc : Text.isAlphabetic c = true) (htrim : Text.Trimmed part text) : text ≠ [] := by
  have hstart : ∃ more, part = c :: more := by
    cases h with
    | whole => exact ⟨tail, rfl⟩
    | @beforeHyphen _ more hrun =>
      cases part with
      | nil =>
        obtain ⟨rfl, -⟩ := List.cons.inj hrun
        exact absurd hc (by decide)
      | cons d part =>
        obtain ⟨rfl, -⟩ := List.cons.inj hrun
        exact ⟨part, rfl⟩
  rintro rfl
  obtain ⟨more, rfl⟩ := hstart
  obtain ⟨blanks, rfl, hblanks, -⟩ := htrim
  have hblank := hblanks c List.mem_cons_self
  exact Bool.false_ne_true ((Text.isBlank_eq_false_of_isAlphabetic hc).symm.trans hblank)

/-- An item is at the front of a text exactly where the run of name characters there names it. -/
theorem itemAt?_eq_some_iff {tail text : List Char} (hc : Text.isAlphabetic c = true) :
    itemAt? a (c :: tail) = some (text, e) ↔
      Names a ((c :: tail).takeWhile isNameChar) text e := by
  have hrun : (c :: tail).takeWhile isNameChar = c :: tail.takeWhile isNameChar :=
    List.takeWhile_cons_of_pos (by simp [isNameChar, hc])
  rw [itemAt?, hrun, findSome?_eq_some_iff_longest (pairwise_candidates _)]
  constructor
  · rintro ⟨part, hpart, hnamed, hlongest⟩
    obtain ⟨htrim, -, hlook⟩ := entryNamed?_eq_some_iff.mp hnamed
    refine ⟨part, mem_candidates.mp hpart, htrim, hlook, fun longer text' hlonger hlength ht => ?_⟩
    have hnone := hlongest longer (mem_candidates.mpr hlonger) hlength
    rw [← Option.not_isSome_iff_eq_none, Option.isSome_iff_exists]
    rintro ⟨e', hlook'⟩
    rw [entryNamed?_eq_some_iff.mpr ⟨ht, hlonger.trimmed_ne_nil hc ht, hlook'⟩] at hnone
    cases hnone
  · rintro ⟨part, hpart, htrim, hlook, hlongest⟩
    refine ⟨part, mem_candidates.mpr hpart,
      entryNamed?_eq_some_iff.mpr ⟨htrim, hpart.trimmed_ne_nil hc htrim, hlook⟩,
      fun longer hlonger hlength => ?_⟩
    cases hnamed : entryNamed? a longer with
    | none => rfl
    | some found =>
      obtain ⟨ht, -, hlook'⟩ := entryNamed?_eq_some_iff.mp hnamed
      have hnone := hlongest longer _ (mem_candidates.mp hlonger) hlength ht
      cases hnone.symm.trans hlook'

/-- What names an entry in a run that starts with a letter starts with this letter and is the start
of the run. -/
theorem Names.exists_eq_cons {tail : List Char} (h : Names a (c :: tail) text e)
    (hc : Text.isAlphabetic c = true) :
    ∃ text' more, text = c :: text' ∧ tail = text' ++ more := by
  obtain ⟨part, hpart, htrim, -, -⟩ := h
  have hne := hpart.trimmed_ne_nil hc htrim
  obtain ⟨blanks, rfl, -, -⟩ := htrim
  obtain ⟨more, hmore⟩ : ∃ more, c :: tail = text ++ more := by
    generalize c :: tail = run at hpart
    cases hpart with
    | whole => exact ⟨blanks, rfl⟩
    | beforeHyphen hrun => exact ⟨_, hrun.trans (List.append_assoc _ _ _)⟩
  cases text with
  | nil => exact absurd rfl hne
  | cons d text' =>
    obtain ⟨rfl, htail⟩ := List.cons.inj hmore
    exact ⟨text', more, rfl, htail⟩

end Items

/-! ## What the next lexeme is -/

section Next

variable {a : Arsenal} {c : Char} {rest text : List Char} {l : Lexeme} {position : Nat}

/-- A character is an operator exactly where it is one of those listed. -/
theorem operator?_eq_some_iff : operator? c = some l ↔ (c, l) ∈ operators := by
  fun_cases operator? c <;> simp_all [operators, eq_comm]

/-- Neither digits nor letters are operators. -/
theorem operator?_eq_none (h : c.isDigit = true ∨ Text.isAlphabetic c = true) :
    operator? c = none := by
  have hall : ∀ o ∈ operators, ¬ (o.1.isDigit = true ∨ Text.isAlphabetic o.1 = true) := by decide
  cases hop : operator? c with
  | none => rfl
  | some l => exact absurd h (hall (c, l) (operator?_eq_some_iff.mp hop))

/-- A number that begins with no zero takes all digits at the front. -/
theorem digitsAt_cons (hc : c ≠ '0') :
    digitsAt (c :: rest) = (c :: rest).takeWhile Char.isDigit := by
  rw [digitsAt]
  simpa using hc

/-- The digits at the front of a text spell their number, if it is not too large. -/
theorem exists_spells_digits (hc : c.isDigit = true)
    (hmax : Text.decimal (digitsAt (c :: rest)) ≤ maxNumber) :
    ∃ tail, c :: rest = digitsAt (c :: rest) ++ tail ∧
      Spells a (digitsAt (c :: rest)) tail (.number (Text.decimal (digitsAt (c :: rest)))) := by
  by_cases hzero : c = '0'
  · subst hzero
    exact ⟨rest, rfl, .zero⟩
  · rw [digitsAt_cons hzero] at hmax ⊢
    have hrun := Text.run_takeWhile Char.isDigit (c :: rest)
    rw [List.takeWhile_cons_of_pos hc] at hmax hrun ⊢
    refine ⟨(c :: rest).dropWhile Char.isDigit, ?_, .number hzero hrun hmax⟩
    rw [← List.takeWhile_cons_of_pos hc, List.takeWhile_append_dropWhile]

/-- The item that is found at the front of a text is spelled there. -/
theorem exists_spells_item {e : Entry} (hc : Text.isAlphabetic c = true)
    (h : itemAt? a (c :: rest) = some (text, e)) :
    ∃ tail, c :: rest = text ++ tail ∧ Spells a text tail (.item e.toItem) := by
  have hnames := (itemAt?_eq_some_iff hc).mp h
  have hrun := Text.run_takeWhile isNameChar (c :: rest)
  have hsplit := List.takeWhile_append_dropWhile (p := isNameChar) (l := c :: rest)
  have hcname : isNameChar c = true := by simp [isNameChar, hc]
  rw [List.takeWhile_cons_of_pos hcname] at hnames hrun hsplit
  obtain ⟨text', more, rfl, hmore⟩ := hnames.exists_eq_cons hc
  rw [hmore, ← List.cons_append, List.append_assoc] at hsplit
  refine ⟨_, hsplit.symm, .item hc ?_ hrun hnames⟩
  rw [hsplit, ← List.takeWhile_cons_of_pos hcname, List.takeWhile_append_dropWhile]

/-- A lexeme that is read is spelled by the text that it takes up. -/
theorem exists_spells (h : lexemeAt a position c rest = .ok (l, text)) :
    ∃ tail, c :: rest = text ++ tail ∧ Spells a text tail l := by
  unfold lexemeAt at h
  split at h
  · next hop =>
    obtain ⟨rfl, rfl⟩ := Prod.mk.inj (Except.ok.inj h)
    exact ⟨rest, rfl, .operator (operator?_eq_some_iff.mp hop)⟩
  · split at h
    · next hdigit =>
      dsimp only at h
      split at h
      · next hmax =>
        obtain ⟨rfl, rfl⟩ := Prod.mk.inj (Except.ok.inj h)
        exact exists_spells_digits hdigit hmax
      · cases h
    · split at h
      · next hletter =>
        split at h
        · next hitem =>
          obtain ⟨rfl, rfl⟩ := Prod.mk.inj (Except.ok.inj h)
          exact exists_spells_item hletter hitem
        · cases h
      · cases h

/-- What spells a lexeme is not empty, and it starts with no blank. -/
theorem Spells.exists_eq_cons (h : Spells a text rest l) :
    ∃ c more, text = c :: more ∧ Text.isBlank c = false := by
  cases h with
  | @operator c _ _ hop =>
    have hall : ∀ o ∈ operators, Text.isBlank o.1 = false := by decide
    exact ⟨c, [], rfl, hall _ hop⟩
  | zero => exact ⟨'0', [], rfl, rfl⟩
  | @number c digits _ _ hrun _ =>
    exact ⟨c, digits, rfl, Text.isBlank_eq_false_of_isDigit (hrun.1 c List.mem_cons_self)⟩
  | @item c text _ _ _ _ hc _ _ _ => exact ⟨c, text, rfl, Text.isBlank_eq_false_of_isAlphabetic hc⟩

/-- What spells a lexeme is read as it. -/
theorem Spells.lexemeAt_eq {more : List Char} (h : Spells a (c :: more) rest l) :
    lexemeAt a position c (more ++ rest) = .ok (l, c :: more) := by
  generalize htext : c :: more = text at h
  cases h with
  | operator hop =>
    obtain ⟨rfl, rfl⟩ := List.cons.inj htext
    rw [lexemeAt, operator?_eq_some_iff.mpr hop]
  | zero =>
    obtain ⟨rfl, rfl⟩ := List.cons.inj htext
    rfl
  | number hc hrun hmax =>
    obtain ⟨rfl, rfl⟩ := List.cons.inj htext
    have hdigit := hrun.1 c List.mem_cons_self
    have hdigits : digitsAt (c :: (more ++ rest)) = c :: more := by
      rw [digitsAt_cons hc, ← List.cons_append, hrun.takeWhile_eq]
    rw [lexemeAt, operator?_eq_none (.inl hdigit)]
    dsimp only
    rw [if_pos hdigit, hdigits]
    exact if_pos hmax
  | @item _ _ _ _ _ e hc hsplit hrun hnames =>
    obtain ⟨rfl, rfl⟩ := List.cons.inj htext
    have hitem : itemAt? a (c :: (more ++ rest)) = some (c :: more, e) := by
      rw [itemAt?_eq_some_iff hc, ← List.cons_append, hsplit, hrun.takeWhile_eq]
      exact hnames
    rw [lexemeAt, operator?_eq_none (.inr hc)]
    dsimp only
    rw [if_neg (Bool.not_eq_true _ ▸ Text.isDigit_eq_false_of_isAlphabetic hc), if_pos hc, hitem]
    rfl

end Next

/-! ## Scanning -/

section Scanning

variable {a : Arsenal} {before blanks text cs rest : List Char} {l : Lexeme} {position : Nat}
  {found ts : List Token}

/-- The bytes of a list of characters are those of the string of them. -/
theorem byteLength_eq (cs : List Char) : byteLength cs = (String.ofList cs).utf8ByteSize := by
  rw [String.utf8ByteSize_ofList, byteLength]
  induction cs with
  | nil => rfl
  | cons c cs ih => rw [List.map_cons, Amount.sum, ih, String.utf8Len_cons, Nat.add_comm]

/-- The bytes of two texts together are those of both. -/
theorem byteLength_append (cs ds : List Char) :
    byteLength (cs ++ ds) = byteLength cs + byteLength ds := by
  rw [byteLength, List.map_append, Amount.sum_append, byteLength, byteLength]

/-- The scanner passes over blanks. -/
theorem scanFrom_blanks (hblanks : ∀ c ∈ blanks, Text.isBlank c = true) :
    scanFrom a position found (blanks ++ rest) =
      scanFrom a (position + byteLength blanks) found rest := by
  induction blanks generalizing position with
  | nil => rfl
  | cons c blanks ih =>
    obtain ⟨hc, hblanks⟩ := List.forall_mem_cons.mp hblanks
    rw [List.cons_append, scanFrom, if_pos hc, ih hblanks, Nat.add_assoc]
    rfl

/-- The scanner takes off the token that is spelled at the front. -/
theorem Spells.scanFrom_eq (h : Spells a text rest l) :
    scanFrom a position found (text ++ rest) =
      scanFrom a (position + byteLength text) (⟨l, position⟩ :: found) rest := by
  obtain ⟨c, more, rfl, hc⟩ := h.exists_eq_cons
  rw [List.cons_append, scanFrom, if_neg (Bool.not_eq_true _ ▸ hc), h.lexemeAt_eq]
  simp

/-- A lexeme without blanks in front of it. -/
theorem Cut.lexeme (h : Spells a text rest l) (hcut : Cut a (before ++ text) rest ts) :
    Cut a before (text ++ rest) (⟨l, (String.ofList before).utf8ByteSize⟩ :: ts) := by
  have hnone : ∀ c ∈ ([] : List Char), Text.isBlank c = true :=
    fun c hc => absurd hc List.not_mem_nil
  have htoken : Cut a before ([] ++ text ++ rest)
      (⟨l, (String.ofList (before ++ [])).utf8ByteSize⟩ :: ts) :=
    .token hnone h (by rwa [List.append_nil])
  rwa [List.append_nil, List.nil_append] at htoken

/-- A blank in front is one more of the blanks in front of the next lexeme. -/
theorem Cut.blank {c : Char} (hc : Text.isBlank c = true) (h : Cut a (before ++ [c]) cs ts) :
    Cut a before (c :: cs) ts := by
  cases h with
  | done hblanks => exact .done (List.forall_mem_cons.mpr ⟨hc, hblanks⟩)
  | @token _ blanks text rest l ts hblanks hspells hcut =>
    have hshift : before ++ [c] ++ blanks = before ++ c :: blanks := by simp
    rw [hshift] at hcut ⊢
    exact .token (List.forall_mem_cons.mpr ⟨hc, hblanks⟩) hspells hcut

/-- Whatever is scanned falls into the tokens that are found. -/
theorem exists_cut {all : List Token} (hposition : position = byteLength before)
    (h : scanFrom a position found cs = .ok all) :
    ∃ ts, all = found.reverse ++ ts ∧ Cut a before cs ts := by
  fun_induction scanFrom a position found cs generalizing before with
  | case1 position found =>
    cases h
    exact ⟨[], (List.append_nil _).symm, .done fun c hc => absurd hc List.not_mem_nil⟩
  | case2 position found c cs hc ih =>
    subst hposition
    obtain ⟨ts, hall, hcut⟩ := ih (byteLength_append before [c]).symm h
    exact ⟨ts, hall, hcut.blank hc⟩
  | case3 => cases h
  | case4 position found c cs hc l text hnext ih =>
    subst hposition
    obtain ⟨tail, hsplit, hspells⟩ := exists_spells hnext
    obtain ⟨d, more, rfl, -⟩ := hspells.exists_eq_cons
    rw [List.cons_append] at hsplit
    obtain ⟨rfl, rfl⟩ := List.cons.inj hsplit
    obtain ⟨ts, hall, hcut⟩ := ih (byteLength_append before (c :: more)).symm h
    rw [List.length_cons, Nat.add_sub_cancel, List.drop_left] at hcut
    refine ⟨⟨l, byteLength before⟩ :: ts, by simpa using hall, ?_⟩
    rw [byteLength_eq]
    exact .lexeme hspells hcut

/-- A text that falls into tokens is scanned as them. -/
theorem Cut.scanFrom_eq (h : Cut a before cs ts) (found : List Token) :
    scanFrom a (byteLength before) found cs = .ok (found.reverse ++ ts) := by
  induction h generalizing found with
  | @done before blanks hblanks =>
    have hscan : scanFrom a (byteLength before) found (blanks ++ []) =
        scanFrom a (byteLength before + byteLength blanks) found [] := scanFrom_blanks hblanks
    rw [List.append_nil, scanFrom] at hscan
    rw [hscan, List.append_nil]
  | @token before blanks text rest l ts hblanks hspells _ ih =>
    rw [List.append_assoc, scanFrom_blanks hblanks, hspells.scanFrom_eq, ← byteLength_append,
      ← byteLength_append, ih, ← byteLength_eq]
    simp

/-- The tokens that the scanner finds are exactly a cut of the clause. -/
theorem scan_eq_ok_iff {clause : String} :
    scan a clause = .ok ts ↔ Cut a [] clause.toList ts := by
  constructor
  · intro h
    have hstart : 0 = byteLength [] := rfl
    obtain ⟨ts, rfl, hcut⟩ := exists_cut hstart h
    exact hcut
  · intro h
    exact h.scanFrom_eq []

/-- Tokens are behind the text in front of them, each further on than the one before. -/
theorem Cut.pairwise_position (h : Cut a before cs ts) :
    (∀ t ∈ ts, byteLength before ≤ t.position) ∧
      ts.Pairwise fun t t' => t.position < t'.position := by
  induction h with
  | done => exact ⟨fun t ht => absurd ht List.not_mem_nil, .nil⟩
  | @token before blanks text rest l ts _ hspells _ ih =>
    obtain ⟨c, more, rfl, -⟩ := hspells.exists_eq_cons
    obtain ⟨hbehind, hpairwise⟩ := ih
    have hlonger : byteLength (before ++ blanks) < byteLength (before ++ blanks ++ c :: more) := by
      have hc := Char.utf8Size_pos c
      have hcons : byteLength (c :: more) = c.utf8Size + byteLength more := rfl
      rw [byteLength_append (before ++ blanks), hcons]
      omega
    rw [← byteLength_eq]
    refine ⟨List.forall_mem_cons.mpr ⟨?_, fun t ht => ?_⟩,
      List.pairwise_cons.mpr ⟨fun t ht => lt_of_lt_of_le hlonger (hbehind t ht), hpairwise⟩⟩
    · rw [byteLength_append]
      exact Nat.le_add_right _ _
    · have ht := hbehind t ht
      rw [byteLength_append] at hlonger
      omega

/-- Scanning gives tokens if and only if the clause falls into blanks and the lexemes of these
tokens, and each of them is further on than the one before. -/
theorem scan_iff_cut (a : Arsenal) (clause : String) (ts : List Token) :
    (scan a clause = .ok ts ↔ Cut a [] clause.toList ts) ∧
      (Cut a [] clause.toList ts → ts.Pairwise fun t t' => t.position < t'.position) :=
  ⟨scan_eq_ok_iff, fun h => h.pairwise_position.2⟩

end Scanning

end Token

end Muster
