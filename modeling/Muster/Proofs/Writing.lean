import Muster.Proofs.Grammar
import Muster.Proofs.Tokens

/-!
# Gear that is written and read back

Gear in catalog notation is read as the same gear, every field of every member included. A name is
the whole of a run of name characters where it is written, so that it is tried before any part of it
that the arsenal may know as well, and an exact name is looked up before any other spelling.
-/

namespace Muster

/-! ## Arsenals that are made -/

namespace Arsenal

/-- An arsenal that is made by entering items. -/
inductive Built : Arsenal → Prop where
  | empty : Built .empty
  | insert {a : Arsenal} (name : String) (cost : Nat) (category : Category) :
      Built a → Built (a.insert name cost category)

variable {a : Arsenal} {e : Entry}

/-- What an arsenal lists is its entries. -/
theorem mem_listing : e ∈ a.listing ↔ e ∈ a.entries.values := by
  rw [listing, List.mem_flatMap]
  constructor
  · rintro ⟨category, -, he⟩
    exact List.mem_of_mem_filter he
  · intro he
    refine ⟨e.category, ?_, List.mem_filter.mpr ⟨he, decide_eq_true rfl⟩⟩
    cases e.category <;> simp

/-- Entries are filed under their names, which have no blanks at the end, and each of them is
found. -/
theorem Built.entries_direct (h : a.Built) : a.entries.Direct ∧
    ∀ row ∈ a.entries.rows, row.1 = row.2.name ∧ Text.trimEnd row.1.toList = row.1.toList := by
  induction h with
  | empty =>
    exact ⟨fun row hrow => absurd hrow List.not_mem_nil,
      fun row hrow => absurd hrow List.not_mem_nil⟩
  | insert name cost category _ ih =>
    refine ⟨ih.1.insert _ _, fun row hrow => ?_⟩
    rcases Table.mem_place.mp hrow with rfl | hold
    · refine ⟨rfl, ?_⟩
      rw [Text.trimmed, String.toList_ofList]
      exact Text.trimEnd_trimEnd _
    · exact ih.2 row (List.mem_of_mem_filter hold)

/-- An entry is found under its own name, which has no blanks at the end. -/
theorem Built.lookup?_eq (h : a.Built) (he : e ∈ a.listing) :
    a.lookup? e.name = some e ∧ Text.trimEnd e.name.toList = e.name.toList := by
  obtain ⟨row, hrow, rfl⟩ := List.mem_map.mp (mem_listing.mp he)
  obtain ⟨hdirect, hnames⟩ := h.entries_direct
  obtain ⟨hname, htrim⟩ := hnames row hrow
  have hget := hdirect row hrow
  rw [hname] at hget htrim
  rw [lookup?, hget]
  exact ⟨rfl, htrim⟩

end Arsenal

/-! ## Gear that can be written -/

/-- An item of the arsenal, in a number that a clause may state, under a name that starts with a
letter and consists of name characters. -/
structure Item.Listed (a : Arsenal) (i : Item) : Prop where
  entry : ⟨i.name, i.unitCost, i.category⟩ ∈ a.listing
  quantity : 1 ≤ i.quantity ∧ i.quantity ≤ Token.maxNumber
  name : ∃ c rest, i.name.toList = c :: rest ∧ Text.isAlphabetic c = true ∧
    ∀ d ∈ rest, Token.isNameChar d = true

/-- Items of the arsenal, alone or as a single bundle. -/
def Gear.Listed (a : Arsenal) : Gear → Prop
  | item i => i.Listed a
  | bundle b => b.quantity = 1 ∧ ∀ i ∈ b.members, i.Listed a

/-! ## Lexemes that are written -/

/-- The decimal digits of a positive number do not start with a zero. -/
theorem head?_toDigits_ne_zero {n : Nat} (h : 0 < n) : (Nat.toDigits 10 n).head? ≠ some '0' := by
  induction n using Nat.strongRecOn with
  | ind n ih =>
    rw [Nat.toDigits_eq_if (by decide)]
    split
    · next hlt =>
      have hall : ∀ d ∈ List.range' 1 9, Nat.digitChar d ≠ '0' := by decide
      simpa using hall n (List.mem_range'_1.mpr ⟨h, hlt⟩)
    · next hge =>
      have htens : 0 < n / 10 := Nat.div_pos (Nat.le_of_not_lt hge) (by decide)
      rw [List.head?_append_of_ne_nil _ Nat.toDigits_ne_nil]
      exact ih (n / 10) (Nat.div_lt_self h (by decide)) htens

namespace Token

variable {a : Arsenal} {before text rest : List Char} {i : Item} {l : Lexeme} {n : Nat}
  {ts : List Token}

/-- A number in digits spells itself, where no digit follows. -/
theorem spells_number (hn : 1 ≤ n ∧ n ≤ maxNumber)
    (hrest : ∀ c ∈ rest.head?, c.isDigit = false) :
    Spells a (toString n).toList rest (.number n) := by
  rw [Nat.toString_eq_ofList_toDigits, String.toList_ofList]
  have hvalue : Nat.ofDigitChars 10 (Nat.toDigits 10 n) 0 = n := Nat.ofDigitChars_ten_toDigits
  have hzero := head?_toDigits_ne_zero hn.1
  have hdigits : ∀ c ∈ Nat.toDigits 10 n, c.isDigit = true :=
    fun c hc => Nat.isDigit_of_mem_toDigits (by decide) (by decide) hc
  cases hsplit : Nat.toDigits 10 n with
  | nil => exact absurd hsplit Nat.toDigits_ne_nil
  | cons c digits =>
    rw [hsplit] at hvalue hzero hdigits
    have hmax : Nat.ofDigitChars 10 (c :: digits) 0 ≤ maxNumber := hvalue.symm ▸ hn.2
    have hspells : Spells a (c :: digits) rest (.number (Nat.ofDigitChars 10 (c :: digits) 0)) :=
      .number (by simpa using hzero) ⟨hdigits, hrest⟩ hmax
    rwa [hvalue] at hspells

/-- The name of a listed item is written as the item wherever no name character follows. -/
theorem spells_name (ha : a.Built) (hi : i.Listed a)
    (hrest : ∀ c ∈ rest.head?, isNameChar c = false) :
    Spells a i.name.toList rest (.item (.single i.name i.unitCost i.category)) := by
  obtain ⟨hlook, htrim⟩ := ha.lookup?_eq hi.entry
  obtain ⟨c, more, hname, hc, hmore⟩ := hi.name
  have htext : String.ofList (c :: more) = i.name := by rw [← hname, String.ofList_toList]
  dsimp only at hlook htrim
  rw [hname] at htrim ⊢
  have hrun : Text.Run isNameChar (c :: more) rest :=
    ⟨List.forall_mem_cons.mpr ⟨by simp [isNameChar, hc], hmore⟩, hrest⟩
  have hnames : Names a (c :: more) (c :: more) ⟨i.name, i.unitCost, i.category⟩ := by
    refine ⟨c :: more, .whole, Text.trimEnd_eq_iff.mp htrim, htext.symm ▸ hlook, ?_⟩
    intro longer _ hlonger hlength
    exact absurd hlonger.length_le (Nat.not_le_of_lt hlength)
  exact .item hc rfl hrun hnames

/-- A listed item is written as a quantity that denotes it wherever no name character follows. -/
theorem exists_cut_item (ha : a.Built) (hi : i.Listed a)
    (hrest : ∀ c ∈ rest.head?, isNameChar c = false)
    (hcut : Cut a (before ++ i.notated.toList) rest ts) :
    ∃ front factors j, Offer.Quantity (front.map Token.lexeme) factors j ∧ j.starred factors = i ∧
      Cut a before (i.notated.toList ++ rest) (front ++ ts) := by
  have hname := spells_name ha hi hrest
  obtain ⟨name, quantity, unitCost, category⟩ := i
  by_cases hone : quantity = 1
  · subst hone
    exact ⟨[⟨_, _⟩], [], _, .item _, rfl, .lexeme hname hcut⟩
  · have hnotated : (Item.mk name quantity unitCost category).notated =
        toString quantity ++ "*" ++ name := if_neg hone
    have hstar : Spells a ['*'] (name.toList ++ rest) .star := .operator (by decide)
    have hnumber : Spells a (toString quantity).toList ('*' :: (name.toList ++ rest))
        (.number quantity) := spells_number hi.quantity (by simp)
    have hcap : quantity ≤ Amount.cap := Nat.le_trans hi.quantity.2 (by decide)
    have hstarred : (Item.single name unitCost category).starred [quantity] =
        ⟨name, quantity, unitCost, category⟩ := by
      have hsingle : (1 : Nat) ≤ Amount.cap := by decide
      rw [Item.starred_eq (Nat.le_refl 1) hsingle (by simpa using hi.quantity.1)]
      simp [Item.single, Amount.clamp_of_le hcap]
    have htext : (Item.mk name quantity unitCost category).notated.toList =
        (toString quantity).toList ++ ['*'] ++ name.toList := by
      rw [hnotated, String.toList_append, String.toList_append]
      rfl
    rw [htext, ← List.append_assoc, ← List.append_assoc] at hcut
    have hwritten := Cut.lexeme hnumber (.lexeme hstar (.lexeme hname hcut))
    rw [htext, List.append_assoc, List.append_assoc]
    exact ⟨[⟨_, _⟩, ⟨_, _⟩, ⟨_, _⟩], [quantity], _, .starred hi.quantity.1 (.item _), hstarred,
      hwritten⟩

/-- Listed items with a plus sign between them are written as the members of a bundle. -/
theorem exists_cut_members (ha : a.Built) {members : List Item} (hne : members ≠ [])
    (hmembers : ∀ i ∈ members, i.Listed a) (before : List Char) :
    ∃ ts, Cut a before ("+".intercalate (members.map Item.notated)).toList ts ∧
      Offer.Bundled (ts.map Token.lexeme) members := by
  induction members generalizing before with
  | nil => exact absurd rfl hne
  | cons i more ih =>
    obtain ⟨hi, hmore⟩ := List.forall_mem_cons.mp hmembers
    cases more with
    | nil =>
      have hdone : Cut a (before ++ i.notated.toList) [] [] :=
        .done fun c hc => absurd hc List.not_mem_nil
      obtain ⟨front, factors, j, hquantity, rfl, hcut⟩ :=
        exists_cut_item ha hi (by simp) hdone
      refine ⟨front, ?_, .single hquantity⟩
      simpa using hcut
    | cons j more =>
      obtain ⟨ts, hcut, hbundled⟩ := ih (List.cons_ne_nil _ _) hmore
        (before ++ i.notated.toList ++ ['+'])
      let written := ("+".intercalate ((j :: more).map Item.notated)).toList
      have hplus : Spells a ['+'] written .plus := .operator (by decide)
      obtain ⟨front, factors, k, hquantity, rfl, hfront⟩ :=
        exists_cut_item ha hi (by simp; decide) (.lexeme hplus hcut)
      rw [List.map_cons, List.map_cons, String.intercalate_cons_cons, String.toList_append,
        String.toList_append, List.append_assoc]
      refine ⟨_, hfront, ?_⟩
      rw [List.map_append]
      exact .plus hquantity hbundled

end Token

/-! ## The law -/

namespace Gear

variable {a : Arsenal} {g : Gear}

/-- A piece is notated as its members with a plus between them. -/
theorem notated_eq_intercalate (g : Gear) :
    g.notated = "+".intercalate (g.members.map Item.notated) := by
  cases g with
  | item i => exact String.intercalate_singleton.symm
  | bundle b => rfl

/-- The members of a listed piece are listed, and make it. -/
theorem Listed.members (h : g.Listed a) :
    (∀ i ∈ g.members, i.Listed a) ∧ ofMembers? g.members = some g := by
  cases g with
  | item i => exact ⟨List.forall_mem_singleton.mpr h, rfl⟩
  | bundle b =>
    obtain ⟨first, second, more, quantity⟩ := b
    obtain ⟨rfl, hmembers⟩ := h
    exact ⟨hmembers, rfl⟩

/-- Gear of a built arsenal, an item or a single bundle, is read back as it is written. -/
theorem read_notated (ha : a.Built) (hg : g.Listed a) : Gear.read a g.notated = .ok g := by
  obtain ⟨hmembers, hgear⟩ := hg.members
  have hne : g.members ≠ [] := by cases g <;> exact List.cons_ne_nil _ _
  obtain ⟨ts, hcut, hbundled⟩ := Token.exists_cut_members ha hne hmembers []
  rw [← notated_eq_intercalate] at hcut
  have hscan : Token.scan a g.notated = .ok ts := Token.scan_eq_ok_iff.mpr hcut
  have hclause : Offer.Clause (ts.map Token.lexeme) ⟨none, .squad, .single g⟩ := by
    have hqualified := Offer.Qualified.intro (.single hbundled hgear) rfl .squad
    rw [List.append_nil] at hqualified
    exact .plain hqualified
  have hread : Offer.read a g.notated = .ok ⟨none, .squad, .single g⟩ := by
    rw [Offer.read, hscan]
    exact Offer.ofTokens_eq_ok_iff.mpr hclause
  rw [Gear.read, hread]
  rfl

/-- Two plates and a rod. The arsenal knows the first part of the plates' name as well, and another
entry that differs from them in case only. -/
theorem read_notated_plates :
    let a := ((Arsenal.empty.insert "Anti" 1 .other).insert "Anti-grav plate" 5 .other).insert
      "ANTI-grav plate" 7 .melee
    let g : Gear := .bundle ⟨⟨"Anti-grav plate", 2, 5, .other⟩, ⟨"Anti", 1, 1, .other⟩, [], 1⟩
    a.Built ∧ g.Listed a ∧ g.notated = "2*Anti-grav plate+Anti" ∧
      Gear.read a g.notated = .ok g := by
  intro a g
  have ha : a.Built := .insert _ _ _ (.insert _ _ _ (.insert _ _ _ .empty))
  have hplate : Item.Listed a ⟨"Anti-grav plate", 2, 5, .other⟩ :=
    ⟨by decide +kernel, by decide, 'A', "nti-grav plate".toList, rfl, by decide,
      by simp [Token.isNameChar, Text.isAlphabetic]⟩
  have hrod : Item.Listed a ⟨"Anti", 1, 1, .other⟩ :=
    ⟨by decide +kernel, by decide, 'A', "nti".toList, rfl, by decide,
      by simp [Token.isNameChar, Text.isAlphabetic]⟩
  have hg : g.Listed a := ⟨rfl, by simp [Bundle.members, hplate, hrod]⟩
  exact ⟨ha, hg, by decide +kernel, read_notated ha hg⟩

end Gear

end Muster
