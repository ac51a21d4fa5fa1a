import Muster.Proofs.Lookups

/-!
# Clauses in capitals

In an arsenal where no two names are spelled alike, it makes no difference to what a clause reads
as which of its letters are capitals. Capitals are only told apart where an exact name is looked up,
and there the spelling finds the same entry. This has to hold for all that is looked up on the way:
every part of a run of name characters that may be a name, whether it turns out to be one or not.

Nothing else in scanning tells a capital of ASCII from the small letter, so that scanning is shown
to commute with lower-casing, from single characters up to the whole clause.
-/

namespace Muster

namespace Text

/-! ## Characters -/

/-- The capitals of ASCII. -/
def capitals : List Char := (List.range' 65 26).map Char.ofNat

/-- The lower case of ASCII changes its capitals only. -/
theorem toLower_eq_or_mem_capitals (c : Char) : c.toLower = c ∨ c ∈ capitals := by
  by_cases hcapital : 'A'.val ≤ c.val ∧ c.val ≤ 'Z'.val
  · have hlow : 65 ≤ c.toNat := hcapital.1
    have hhigh : c.toNat ≤ 90 := hcapital.2
    refine .inr (List.mem_map.mpr ⟨c.toNat, List.mem_range'_1.mpr ⟨hlow, by omega⟩, ?_⟩)
    exact Char.ofNat_toNat c
  · exact .inl (dif_neg hcapital)

/-- What does not tell a capital from the small letter does not change in lower case. -/
theorem eq_of_capitals {β : Type} {p : Char → β}
    (h : (capitals.map fun c => p c.toLower) = capitals.map p) (c : Char) : p c.toLower = p c := by
  rcases toLower_eq_or_mem_capitals c with hc | hc
  · rw [hc]
  · exact List.map_inj_left.mp h c hc

/-- The case of a letter makes no difference to whether a character is blank. -/
theorem isBlank_toLower (c : Char) : isBlank c.toLower = isBlank c := eq_of_capitals (by decide) c

/-- The case of a letter makes no difference to whether a character is a letter. -/
theorem isAlphabetic_toLower (c : Char) : isAlphabetic c.toLower = isAlphabetic c :=
  eq_of_capitals (by decide) c

/-- The case of a letter makes no difference to whether a character is a digit. -/
theorem isDigit_toLower (c : Char) : c.toLower.isDigit = c.isDigit := eq_of_capitals (by decide) c

/-- The case of a letter makes no difference to whether a character is cased. -/
theorem isCased_toLower (c : Char) : isCased c.toLower = isCased c := eq_of_capitals (by decide) c

/-- The case of a letter makes no difference to whether case rules look through a character. -/
theorem isCaseIgnorable_toLower (c : Char) : isCaseIgnorable c.toLower = isCaseIgnorable c :=
  eq_of_capitals (by decide) c

/-- A lower-case letter of ASCII has the lower case of its capital. -/
theorem lowerChar_toLower (c : Char) : lowerChar c.toLower = lowerChar c :=
  eq_of_capitals (by decide) c

/-- A letter of ASCII takes up as many bytes in either case. -/
theorem utf8Size_toLower (c : Char) : c.toLower.utf8Size = c.utf8Size :=
  eq_of_capitals (by decide) c

/-- A character that no capital of ASCII has for its lower case is told apart in either case. -/
theorem toLower_eq_iff {d : Char}
    (hd : (capitals.map fun c => c.toLower == d) = capitals.map (· == d)) (c : Char) :
    c.toLower = d ↔ c = d := by
  have hsame : (c.toLower == d) = (c == d) := eq_of_capitals (p := (· == d)) hd c
  rw [← beq_iff_eq, hsame, beq_iff_eq]

/-- What no capital is does not change in lower case. -/
theorem toLower_eq_self {p : Char → Bool} (hp : capitals.any p = false) {c : Char}
    (hc : p c = true) : c.toLower = c :=
  (toLower_eq_or_mem_capitals c).resolve_right fun hmem => List.any_eq_false.mp hp c hmem hc

/-- A digit has no other case. -/
theorem toLower_of_isDigit {c : Char} (h : c.isDigit = true) : c.toLower = c :=
  toLower_eq_self (p := Char.isDigit) (by decide) h

/-- A character that is no letter has no other case. -/
theorem toLower_of_not_isAlphabetic {c : Char} (h : isAlphabetic c = false) : c.toLower = c :=
  toLower_eq_self (p := fun c => !isAlphabetic c) (by decide) (by rw [h]; rfl)

/-! ## Texts -/

/-- A text is lower-cased character by character. -/
theorem asciiLower_cons (c : Char) (cs : List Char) :
    asciiLower (c :: cs) = c.toLower :: asciiLower cs := rfl

/-- Taking the blanks off the end and lower-casing go together. -/
theorem trimEnd_asciiLower (cs : List Char) :
    trimEnd (asciiLower cs) = asciiLower (trimEnd cs) := by
  induction cs with
  | nil => rfl
  | cons c cs ih =>
    rw [asciiLower_cons, trimEnd, ih, trimEnd, isBlank_toLower]
    cases trimEnd cs with
    | nil => cases isBlank c <;> rfl
    | cons d kept => rfl

/-- Taking characters off the front and lower-casing go together, where the case makes no difference
to what is taken. -/
theorem takeWhile_asciiLower {p : Char → Bool} (hp : ∀ c, p c.toLower = p c) (cs : List Char) :
    (asciiLower cs).takeWhile p = asciiLower (cs.takeWhile p) := by
  have hcomp : p ∘ Char.toLower = p := funext hp
  rw [asciiLower, List.takeWhile_map, hcomp, asciiLower]

/-- The case of the letters makes no difference to whether a cased character is met. -/
theorem meetsCased_asciiLower (cs : List Char) : meetsCased (asciiLower cs) = meetsCased cs := by
  have hcomp : isCaseIgnorable ∘ Char.toLower = isCaseIgnorable := funext isCaseIgnorable_toLower
  rw [meetsCased, meetsCased, asciiLower, List.dropWhile_map, hcomp]
  cases cs.dropWhile isCaseIgnorable with
  | nil => rfl
  | cons c rest => exact isCased_toLower c

/-- A character has the same lower case between lower-cased neighbours. -/
theorem lowerAt_asciiLower (before : List Char) (c : Char) (after : List Char) :
    lowerAt (asciiLower before) c.toLower (asciiLower after) = lowerAt before c after := by
  have hsigma : (c.toLower.toNat == 0x3a3) = (c.toNat == 0x3a3) :=
    eq_of_capitals (p := fun c => c.toNat == 0x3a3) (by decide) c
  rw [lowerAt, lowerAt, hsigma, meetsCased_asciiLower, meetsCased_asciiLower, lowerChar_toLower]

/-- A text has the same lower case behind and in lower-cased letters. -/
theorem lowerFrom_asciiLower (before cs : List Char) :
    lowerFrom (asciiLower before) (asciiLower cs) = lowerFrom before cs := by
  induction cs generalizing before with
  | nil => rfl
  | cons c cs ih =>
    have hrest := ih (c :: before)
    change lowerAt (asciiLower before) c.toLower (asciiLower cs) ++
      lowerFrom (asciiLower (c :: before)) (asciiLower cs) = _
    rw [lowerAt_asciiLower, hrest, lowerFrom]

/-- A text that is lower-cased in ASCII has the lower case it had. -/
theorem lowercase_asciiLower (cs : List Char) : lowercase (asciiLower cs) = lowercase cs :=
  lowerFrom_asciiLower [] cs

/-- Splitting at blanks and lower-casing go together. -/
theorem splitBlanks_asciiLower (cs : List Char) :
    splitBlanks (asciiLower cs) = (splitBlanks cs).map asciiLower := by
  induction cs with
  | nil => rfl
  | cons c cs ih =>
    rw [asciiLower_cons, splitBlanks, ih, splitBlanks, isBlank_toLower]
    cases splitBlanks cs with
    | nil => rfl
    | cons word words => cases isBlank c <;> rfl

/-- The words of a lower-cased text are the lower-cased words. -/
theorem words_asciiLower (cs : List Char) : words (asciiLower cs) = (words cs).map asciiLower := by
  have hempty : (fun w : List Char => !w.isEmpty) ∘ asciiLower = fun w => !w.isEmpty := by
    funext w
    cases w <;> rfl
  rw [words, splitBlanks_asciiLower, List.filter_map, hempty, words]

end Text

/-! ## Looking up in lower case -/

namespace Arsenal

open Text (asciiLower)

variable {a : Arsenal}

/-- No two entries are spelled alike. -/
def SpelledApart (a : Arsenal) : Prop :=
  ∀ e ∈ a.listing, ∀ e' ∈ a.listing, spellingKey e.name = spellingKey e'.name → e.name = e'.name

instance (a : Arsenal) : Decidable a.SpelledApart :=
  inferInstanceAs (Decidable (∀ e ∈ a.listing, ∀ e' ∈ a.listing, _ → _))

/-- The case of the letters makes no difference to the key of a spelling. -/
theorem spellingKey_asciiLower (cs : List Char) :
    spellingKey (String.ofList (asciiLower cs)) = spellingKey (String.ofList cs) := by
  have hcomp : Text.lowercase ∘ asciiLower = Text.lowercase := funext Text.lowercase_asciiLower
  rw [spellingKey, spellingKey, String.toList_ofList, String.toList_ofList, Text.words_asciiLower,
    List.map_map, hcomp]

/-- Where no two entries are spelled alike, names that are spelled alike find the same entry. -/
theorem SpelledApart.lookup?_congr (hapart : a.SpelledApart) (ha : a.Built) {name name' : String}
    (hkey : spellingKey name = spellingKey name') : a.lookup? name = a.lookup? name' := by
  obtain ⟨rows, rfl⟩ := ha.exists_rows
  have hsome : ((ofRows rows).lookup? name).isSome = ((ofRows rows).lookup? name').isSome := by
    rw [Bool.eq_iff_iff, isSome_lookup?_iff, isSome_lookup?_iff, hkey]
  cases hfound : (ofRows rows).lookup? name with
  | none =>
    rw [hfound] at hsome
    exact (Option.isSome_eq_false_iff.mp hsome.symm |> Option.isNone_iff_eq_none.mp).symm
  | some e =>
    rw [hfound] at hsome
    obtain ⟨e', hfound'⟩ := Option.isSome_iff_exists.mp hsome.symm
    have he := mem_listing_of_lookup? hfound
    have he' := mem_listing_of_lookup? hfound'
    have hname : e.name = e'.name := hapart e he e' he' (by
      rw [spellingKey_of_lookup? hfound, hkey, spellingKey_of_lookup? hfound'])
    have hself := (ha.lookup?_eq he).1
    rw [hname, (ha.lookup?_eq he').1] at hself
    rw [hfound', hself]

end Arsenal

namespace OfferError

/-- The same error, but for the case of the letters in a name that is unknown. -/
inductive Alike : OfferError → OfferError → Prop where
  | same (e : OfferError) : Alike e e
  | unknownItem {name name' : String} (position : Nat) :
      Text.asciiLower name.toList = Text.asciiLower name'.toList →
      Alike (.unknownItem name position) (.unknownItem name' position)

/-- The error as it is found in lower case. -/
def lowered : OfferError → OfferError
  | unknownItem name position => unknownItem (String.ofList (Text.asciiLower name.toList)) position
  | e => e

/-- Errors that are equal in lower case differ in the case of an unknown name at most. -/
theorem alike_of_lowered_eq {e e' : OfferError} (h : e.lowered = e'.lowered) : Alike e e' := by
  cases e <;> cases e' <;> simp only [lowered, OfferError.unknownItem.injEq, reduceCtorEq] at h
  · obtain ⟨hname, rfl⟩ := h
    exact .unknownItem _ (String.ofList_injective hname)
  all_goals
    rw [h]
    exact .same _

end OfferError

/-! ## Scanning in lower case -/

namespace Token

open Text (asciiLower asciiLower_cons)

variable {a : Arsenal}

/-- The case of a letter makes no difference to whether a name may hold a character. -/
theorem isNameChar_toLower (c : Char) : isNameChar c.toLower = isNameChar c :=
  Text.eq_of_capitals (by decide) c

/-- The case of a letter makes no difference to the operators. -/
theorem operator?_toLower (c : Char) : operator? c.toLower = operator? c :=
  Text.eq_of_capitals (by decide) c

/-- The parts before hyphens of a lower-cased text are the lower-cased parts. -/
theorem beforeHyphens_asciiLower (cs : List Char) :
    beforeHyphens (asciiLower cs) = (beforeHyphens cs).map asciiLower := by
  induction cs with
  | nil => rfl
  | cons c cs ih =>
    have hhyphen : c.toLower = '-' ↔ c = '-' := Text.toLower_eq_iff (by decide) c
    rw [asciiLower_cons, beforeHyphens, ih, beforeHyphens, List.map_append, List.map_map,
      List.map_map]
    by_cases hc : c = '-'
    · rw [if_pos hc, if_pos (hhyphen.mpr hc)]
      rfl
    · rw [if_neg hc, if_neg (hhyphen.not.mpr hc)]
      rfl

/-- A lower-cased text names the entry that it named. -/
theorem entryNamed?_asciiLower (ha : a.Built) (hapart : a.SpelledApart) (part : List Char) :
    entryNamed? a (asciiLower part) =
      (entryNamed? a part).map fun found => (asciiLower found.1, found.2) := by
  rw [entryNamed?, entryNamed?, Text.trimEnd_asciiLower]
  cases Text.trimEnd part with
  | nil => rfl
  | cons c rest =>
    have hlook : a.lookup? (String.ofList (asciiLower (c :: rest))) =
        a.lookup? (String.ofList (c :: rest)) :=
      hapart.lookup?_congr ha (Arsenal.spellingKey_asciiLower (c :: rest))
    change (a.lookup? (String.ofList (asciiLower (c :: rest)))).map _ = _
    rw [hlook, Option.map_map]
    rfl

/-- The item at the front of a lower-cased text is the one that was there. -/
theorem itemAt?_asciiLower (ha : a.Built) (hapart : a.SpelledApart) (cs : List Char) :
    itemAt? a (asciiLower cs) =
      (itemAt? a cs).map fun found => (asciiLower found.1, found.2) := by
  rw [itemAt?, itemAt?, Text.takeWhile_asciiLower isNameChar_toLower, beforeHyphens_asciiLower,
    ← List.map_cons, List.findSome?_map, List.map_findSome?]
  congr 1
  funext part
  exact entryNamed?_asciiLower ha hapart part

/-- The digits at the front of a text are digits. -/
theorem isDigit_of_mem_digitsAt {cs : List Char} {d : Char} (hd : d ∈ digitsAt cs) :
    d.isDigit = true := by
  unfold digitsAt at hd
  split at hd
  · rw [List.mem_singleton.mp hd]
    rfl
  · exact (Text.run_takeWhile Char.isDigit _).1 d hd

/-- Digits have no case. -/
theorem asciiLower_digitsAt (cs : List Char) : asciiLower (digitsAt cs) = digitsAt cs :=
  (List.map_congr_left fun _ hd => Text.toLower_of_isDigit (isDigit_of_mem_digitsAt hd)).trans
    (List.map_id _)

/-- The number at the front of a lower-cased text is the one that was there. -/
theorem digitsAt_asciiLower (cs : List Char) : digitsAt (asciiLower cs) = digitsAt cs := by
  cases cs with
  | nil => rfl
  | cons c cs =>
    have hzero : c.toLower = '0' ↔ c = '0' := Text.toLower_eq_iff (by decide) c
    by_cases hc : c = '0'
    · subst hc
      rfl
    · rw [asciiLower_cons, digitsAt_cons (hzero.not.mpr hc), ← asciiLower_cons,
        Text.takeWhile_asciiLower Text.isDigit_toLower, ← digitsAt_cons hc, asciiLower_digitsAt]

/-- A lower-cased text has as many characters. -/
theorem length_asciiLower (cs : List Char) : (asciiLower cs).length = cs.length := List.length_map _

/-- A lower-cased text takes up as many bytes. -/
theorem byteLength_asciiLower (cs : List Char) : byteLength (asciiLower cs) = byteLength cs := by
  have hcomp : Char.utf8Size ∘ Char.toLower = Char.utf8Size := funext Text.utf8Size_toLower
  rw [byteLength, asciiLower, List.map_map, hcomp, byteLength]

/-- In lower case a text starts with the same lexeme, or with the same thing that is none. -/
theorem lexemeAt_asciiLower (ha : a.Built) (hapart : a.SpelledApart) (position : Nat) (c : Char)
    (rest : List Char) :
    lexemeAt a position c.toLower (asciiLower rest) =
      ((lexemeAt a position c rest).map fun next => (next.1, asciiLower next.2)).mapError
        OfferError.lowered := by
  rw [lexemeAt, lexemeAt, operator?_toLower, Text.isDigit_toLower, Text.isAlphabetic_toLower,
    ← asciiLower_cons, digitsAt_asciiLower, itemAt?_asciiLower ha hapart,
    Text.takeWhile_asciiLower isNameChar_toLower]
  cases operator? c with
  | some l => rfl
  | none =>
    dsimp only
    split
    · split
      · change _ = Except.ok (_, asciiLower (digitsAt (c :: rest)))
        rw [asciiLower_digitsAt]
      · rfl
    · split
      · cases itemAt? a (c :: rest) with
        | none =>
          change Except.error (.unknownItem _ _) = Except.error (OfferError.unknownItem _ _)
          rw [Text.trimEnd_asciiLower, String.toList_ofList]
        | some found => rfl
      · next hletter =>
        rw [Text.toLower_of_not_isAlphabetic (Bool.not_eq_true _ ▸ hletter)]
        rfl

/-- The scanner finds the same in a lower-cased text, an unknown name in lower case. -/
theorem scanFrom_asciiLower (ha : a.Built) (hapart : a.SpelledApart) (position : Nat)
    (found : List Token) (cs : List Char) :
    scanFrom a position found (asciiLower cs) =
      (scanFrom a position found cs).mapError OfferError.lowered := by
  fun_induction scanFrom a position found cs with
  | case1 position found =>
    change scanFrom a position found [] = _
    rw [scanFrom]
    rfl
  | case2 position found c rest hc ih =>
    rw [asciiLower_cons, scanFrom, Text.isBlank_toLower, if_pos hc, Text.utf8Size_toLower, ih]
  | case3 position found c rest hc e hnext =>
    rw [asciiLower_cons, scanFrom, Text.isBlank_toLower, if_neg hc,
      lexemeAt_asciiLower ha hapart, hnext]
    rfl
  | case4 position found c rest hc l text hnext ih =>
    rw [asciiLower_cons, scanFrom, Text.isBlank_toLower, if_neg hc,
      lexemeAt_asciiLower ha hapart, hnext]
    change scanFrom a (position + byteLength (asciiLower text)) (⟨l, position⟩ :: found)
      ((asciiLower rest).drop ((asciiLower text).length - 1)) = _
    rw [byteLength_asciiLower, length_asciiLower, asciiLower, ← List.map_drop]
    exact ih

end Token

/-! ## The law -/

namespace Offer

open Text (asciiLower)

variable {a : Arsenal} {clause clause' : String}

/-- Clauses with the same letters fall into the same tokens, or both fail in the same place. -/
theorem scan_eq_or_alike (ha : a.Built) (hapart : a.SpelledApart)
    (hsame : asciiLower clause.toList = asciiLower clause'.toList) :
    (∃ ts, Token.scan a clause = .ok ts ∧ Token.scan a clause' = .ok ts) ∨
      ∃ e e', Token.scan a clause = .error e ∧ Token.scan a clause' = .error e' ∧ e.Alike e' := by
  have hlower := Token.scanFrom_asciiLower ha hapart 0 [] clause.toList
  rw [hsame, Token.scanFrom_asciiLower ha hapart, ← Token.scan, ← Token.scan] at hlower
  cases hscan : Token.scan a clause <;> cases hscan' : Token.scan a clause' <;>
    rw [hscan, hscan'] at hlower
  · exact .inr ⟨_, _, rfl, rfl, OfferError.alike_of_lowered_eq (Except.error.inj hlower).symm⟩
  · cases hlower
  · cases hlower
  · cases hlower
    exact .inl ⟨_, rfl, rfl⟩

/-- Clauses that differ in the case of their letters take up as many bytes. -/
theorem utf8ByteSize_eq (hsame : asciiLower clause.toList = asciiLower clause'.toList) :
    clause.utf8ByteSize = clause'.utf8ByteSize := by
  have hbytes := congrArg Token.byteLength hsame
  rw [Token.byteLength_asciiLower, Token.byteLength_asciiLower, Token.byteLength_eq,
    Token.byteLength_eq, String.ofList_toList, String.ofList_toList] at hbytes
  exact hbytes

/-- In an arsenal where no two entries are spelled alike, clauses that differ in the case of letters
of ASCII only read as the same offer, or they both fail with the same error in the same place, where
the name of an unknown item is given as it is written in the clause. -/
theorem read_alike (ha : a.Built) (hapart : a.SpelledApart)
    (hsame : asciiLower clause.toList = asciiLower clause'.toList) :
    (∃ o, Offer.read a clause = .ok o ∧ Offer.read a clause' = .ok o) ∨
      ∃ e e', Offer.read a clause = .error e ∧ Offer.read a clause' = .error e' ∧ e.Alike e' ∧
        e.position? = e'.position? := by
  rw [Offer.read, Offer.read, utf8ByteSize_eq hsame]
  rcases scan_eq_or_alike ha hapart hsame with ⟨ts, hscan, hscan'⟩ | ⟨e, e', hscan, hscan', halike⟩
  · rw [hscan, hscan']
    dsimp only
    cases ofTokens clause'.utf8ByteSize ts with
    | ok o => exact .inl ⟨o, rfl, rfl⟩
    | error e => exact .inr ⟨e, e, rfl, rfl, .same e, rfl⟩
  · rw [hscan, hscan']
    refine .inr ⟨e, e', rfl, rfl, halike, ?_⟩
    cases halike <;> rfl

/-- A cannon and a ray, in whatever letters; and a staff that the arsenal lacks, whose name is given
as it is written. -/
theorem read_alike_cannon :
    let a := ((Arsenal.empty.insert "Heat ray" 5 .ranged).insert "Gauss cannon" 27 .ranged)
    let cannon : Item := ⟨"Gauss cannon", 2, 27, .ranged⟩
    a.Built ∧ a.SpelledApart ∧
      asciiLower "HEAT ray/2*Gauss Cannon-".toList = asciiLower "heat RAY/2*GAUSS cannon-".toList ∧
      asciiLower "Heat ray/STAFF of light".toList = asciiLower "heat ray/Staff of Light".toList ∧
      Offer.read a "HEAT ray/2*Gauss Cannon-" =
        .ok ⟨none, .anyModel, .choice [.item ⟨"Heat ray", 1, 5, .ranged⟩, .item cannon]⟩ ∧
      Offer.read a "heat RAY/2*GAUSS cannon-" = Offer.read a "HEAT ray/2*Gauss Cannon-" ∧
      Offer.read a "Heat ray/STAFF of light" = .error (.unknownItem "STAFF of light" 9) ∧
      ∃ e', Offer.read a "heat ray/Staff of Light" = .error e' ∧
        OfferError.Alike (.unknownItem "STAFF of light" 9) e' ∧ e'.position? = some 9 := by
  intro a cannon
  have ha : a.Built := .insert _ _ _ (.insert _ _ _ .empty)
  have hapart : a.SpelledApart := by decide +kernel
  have hcannon : asciiLower "HEAT ray/2*Gauss Cannon-".toList =
      asciiLower "heat RAY/2*GAUSS cannon-".toList := by decide +kernel
  have hstaff : asciiLower "Heat ray/STAFF of light".toList =
      asciiLower "heat ray/Staff of Light".toList := by decide +kernel
  have hread : Offer.read a "HEAT ray/2*Gauss Cannon-" =
      .ok ⟨none, .anyModel, .choice [.item ⟨"Heat ray", 1, 5, .ranged⟩, .item cannon]⟩ := by
    decide +kernel
  have hfail : Offer.read a "Heat ray/STAFF of light" =
      .error (.unknownItem "STAFF of light" 9) := by
    decide +kernel
  refine ⟨ha, hapart, hcannon, hstaff, hread, ?_, hfail, ?_⟩
  · rcases read_alike ha hapart hcannon with ⟨o, ho, ho'⟩ | ⟨e, e', he, -⟩
    · exact ho'.trans ho.symm
    · cases hread.symm.trans he
  · rcases read_alike ha hapart hstaff with ⟨o, ho, -⟩ | ⟨e, e', he, he', halike, hposition⟩
    · cases hfail.symm.trans ho
    · cases hfail.symm.trans he
      exact ⟨e', he', halike, hposition.symm⟩

end Offer

end Muster
