import Mathlib.Data.List.Infix
import Muster.Proofs.Grammar
import Muster.Proofs.Points
import Muster.Proofs.Tokens

/-!
# Prices of what is on offer

What a clause offers can be priced from its tokens, apart from how it is read. The alternatives stand
between slashes, the members of an alternative between plus signs, and a member is an item of the
arsenal with numbers starred onto it. Its exact price is the product of these numbers times the price
that the arsenal has for the item. Quantities, items and bundles are stopped at the largest amount on
the way, and still a choice costs the exact total of its members, stopped once.
-/

namespace Muster

open Amount (clamp)

/-! ## Clauses as they are written -/

/-- Some part of the text names the entry. -/
def Arsenal.NamedIn (a : Arsenal) (text : List Char) (e : Entry) : Prop :=
  ∃ name, name <:+: text ∧ a.lookup? (String.ofList name) = some e

namespace Offer

/-- A member of a bundle as it is written: the numbers starred onto the item, the outermost first,
and the entry of the arsenal that the item is. -/
structure Member where
  factors : List Nat
  entry : Entry
  one_le : ∀ n ∈ factors, 1 ≤ n

namespace Member

/-- Each number with its star, and then the item. -/
def lexemes (m : Member) : List Lexeme :=
  m.factors.flatMap (fun n => [.number n, .star]) ++ [.item m.entry.toItem]

/-- The exact price: the product of all numbers, times the price of the entry. -/
def worth (m : Member) : Nat := m.factors.prod * m.entry.cost

/-- The item that the member denotes. -/
def item (m : Member) : Item := m.entry.toItem.starred m.factors

end Member

/-- Parts of a clause with an operator between them. -/
def joined (operator : Lexeme) (parts : List (List Lexeme)) : List Lexeme :=
  [operator].intercalate parts

/-- The members of a bundle joined by plus signs. -/
def bundleLexemes (members : List Member) : List Lexeme := joined .plus (members.map Member.lexemes)

/-- Alternatives separated by slashes. -/
def menuLexemes (alternatives : List (List Member)) : List Lexeme :=
  joined .slash (alternatives.map bundleLexemes)

/-- The number of picks in front of a clause. -/
def picksLexemes : Option Nat → List Lexeme
  | none => []
  | some n => [.number n, .hash]

/-- The reach behind a clause. -/
def reachLexemes : Reach → List Lexeme
  | .squad => []
  | .anyModel => [.minus]
  | .every n => [.minus, .number n]

/-- The gear that members make when they are joined. -/
def ofMembers? (members : List Member) : Option Gear := Gear.ofMembers? (members.map Member.item)

/-- All items among the lexemes are entries of one kind. -/
def ItemsFrom (known : Entry → Prop) (ls : List Lexeme) : Prop :=
  ∀ i, .item i ∈ ls → ∃ e, known e ∧ e.toItem = i

section Derivations

variable {known : Entry → Prop} {ls ls' : List Lexeme}

/-- Items of one kind are of that kind behind the first lexeme. -/
theorem ItemsFrom.tail {l : Lexeme} (h : ItemsFrom known (l :: ls)) : ItemsFrom known ls :=
  fun i hi => h i (List.mem_cons_of_mem l hi)

/-- Items of one kind are of that kind in the front part. -/
theorem ItemsFrom.left (h : ItemsFrom known (ls ++ ls')) : ItemsFrom known ls :=
  fun i hi => h i (List.mem_append_left ls' hi)

/-- Items of one kind are of that kind in the back part. -/
theorem ItemsFrom.right (h : ItemsFrom known (ls ++ ls')) : ItemsFrom known ls' :=
  fun i hi => h i (List.mem_append_right ls hi)

/-- A single part is joined as it is. -/
theorem joined_singleton (operator : Lexeme) (part : List Lexeme) :
    joined operator [part] = part :=
  List.intercalate_singleton

/-- A part before others has the operator behind it. -/
theorem joined_cons {operator : Lexeme} (part : List Lexeme) {parts : List (List Lexeme)}
    (hne : parts ≠ []) :
    joined operator (part :: parts) = part ++ operator :: joined operator parts := by
  rw [joined, List.intercalate_cons_of_ne_nil hne, List.append_assoc, joined]
  rfl

/-- A quantity is a member of a bundle as it is written. -/
theorem Quantity.exists_member {factors : List Nat} {i : Item} (h : Quantity ls factors i)
    (hknown : ItemsFrom known ls) :
    ∃ m : Member, known m.entry ∧ ls = m.lexemes ∧ i.starred factors = m.item := by
  induction h with
  | item i =>
    obtain ⟨e, he, rfl⟩ := hknown i (List.mem_singleton_self _)
    exact ⟨⟨[], e, fun n hn => absurd hn List.not_mem_nil⟩, he, rfl, rfl⟩
  | @starred n ls factors i hn _ ih =>
    obtain ⟨m, hm, rfl, hitem⟩ := ih hknown.tail.tail
    refine ⟨⟨n :: m.factors, m.entry, List.forall_mem_cons.mpr ⟨hn, m.one_le⟩⟩, hm, rfl, ?_⟩
    exact congrArg (fun i => i.times n) hitem

/-- A bundle is a list of members as they are written. -/
theorem Bundled.exists_members {items : List Item} (h : Bundled ls items)
    (hknown : ItemsFrom known ls) :
    ∃ members : List Member, (∀ m ∈ members, known m.entry) ∧ members ≠ [] ∧
      ls = bundleLexemes members ∧ items = members.map Member.item := by
  induction h with
  | single hq =>
    obtain ⟨m, hm, rfl, hitem⟩ := hq.exists_member hknown
    exact ⟨[m], List.forall_mem_singleton.mpr hm, List.cons_ne_nil _ _,
      (joined_singleton .plus _).symm, congrArg (fun i => [i]) hitem⟩
  | plus hq _ ih =>
    obtain ⟨m, hm, rfl, hitem⟩ := hq.exists_member hknown.left
    obtain ⟨members, hmembers, hne, rfl, rfl⟩ := ih hknown.right.tail
    have hparts : members.map Member.lexemes ≠ [] := by simpa using hne
    exact ⟨m :: members, List.forall_mem_cons.mpr ⟨hm, hmembers⟩, List.cons_ne_nil _ _,
      (joined_cons m.lexemes hparts).symm, congrArg (· :: _) hitem⟩

/-- A list of alternatives is a list of bundles as they are written. -/
theorem Chosen.exists_alternatives {gs : List Gear} (h : Chosen ls gs)
    (hknown : ItemsFrom known ls) :
    ∃ alternatives : List (List Member),
      (∀ members ∈ alternatives, ∀ m ∈ members, known m.entry) ∧ alternatives ≠ [] ∧
      ls = menuLexemes alternatives ∧ gs.map some = alternatives.map ofMembers? := by
  induction h with
  | single hb hg =>
    obtain ⟨members, hmembers, -, rfl, rfl⟩ := hb.exists_members hknown
    exact ⟨[members], List.forall_mem_singleton.mpr hmembers, List.cons_ne_nil _ _,
      (joined_singleton .slash _).symm, congrArg (fun g => [g]) hg.symm⟩
  | slash hb hg _ ih =>
    obtain ⟨members, hmembers, -, rfl, rfl⟩ := hb.exists_members hknown.left
    obtain ⟨alternatives, hall, hne, rfl, hgs⟩ := ih hknown.right.tail
    have hparts : alternatives.map bundleLexemes ≠ [] := by simpa using hne
    refine ⟨members :: alternatives, List.forall_mem_cons.mpr ⟨hmembers, hall⟩,
      List.cons_ne_nil _ _, (joined_cons (bundleLexemes members) hparts).symm, ?_⟩
    rw [List.map_cons, List.map_cons, hgs, ← hg]
    rfl

/-- A reach is written in one way only. -/
theorem Reaching.eq_reachLexemes {r : Reach} (h : Reaching ls r) : ls = reachLexemes r := by
  cases h <;> rfl

/-- The gear of a menu is its alternatives. -/
theorem gear_of_ofAlternatives? {gs : List Gear} {m : Menu}
    (h : Menu.ofAlternatives? gs = some m) : m.gear = gs := by
  unfold Menu.ofAlternatives? at h
  split at h <;> cases h <;> rfl

/-- A menu with its reach is a list of bundles and a reach as they are written. -/
theorem Qualified.exists_alternatives {m : Menu} {r : Reach} (h : Qualified ls m r)
    (hknown : ItemsFrom known ls) :
    ∃ alternatives : List (List Member),
      (∀ members ∈ alternatives, ∀ m ∈ members, known m.entry) ∧
      ls = menuLexemes alternatives ++ reachLexemes r ∧
      m.gear.map some = alternatives.map ofMembers? := by
  obtain ⟨hchosen, hgs, hreach⟩ := h
  obtain ⟨alternatives, hall, -, rfl, hmade⟩ := hchosen.exists_alternatives hknown.left
  rw [gear_of_ofAlternatives? hgs, hreach.eq_reachLexemes]
  exact ⟨alternatives, hall, rfl, hmade⟩

/-- The gear on offer is made of the members of the alternatives as they are written. -/
theorem Clause.exists_alternatives {o : Offer} (h : Clause ls o) (hknown : ItemsFrom known ls) :
    ∃ alternatives : List (List Member),
      (∀ members ∈ alternatives, ∀ m ∈ members, known m.entry) ∧
      ls = picksLexemes o.picks ++ menuLexemes alternatives ++ reachLexemes o.reach ∧
      o.gear.map some = alternatives.map ofMembers? := by
  cases h with
  | plain hq => exact hq.exists_alternatives hknown
  | picks _ hq =>
    obtain ⟨alternatives, hall, rfl, hmade⟩ := hq.exists_alternatives hknown.tail.tail
    exact ⟨alternatives, hall, rfl, hmade⟩

end Derivations

end Offer

/-- The items among the tokens of a text are entries that some part of the text names. -/
theorem Token.Cut.itemsFrom {a : Arsenal} {before cs : List Char} {ts : List Token}
    (h : Token.Cut a before cs ts) : Offer.ItemsFrom (a.NamedIn cs) (ts.map Token.lexeme) := by
  induction h with
  | done => exact fun i hi => absurd hi List.not_mem_nil
  | @token before blanks text rest l ts _ hspells _ ih =>
    intro i hi
    rcases List.mem_cons.mp hi with hl | hi
    · obtain rfl : l = .item i := hl.symm
      cases hspells with
      | operator hop => exact absurd hop (by simp [operators])
      | item _ _ _ hnames =>
        obtain ⟨-, -, -, hlook, -⟩ := hnames
        exact ⟨_, ⟨_, ⟨blanks, rest, rfl⟩, hlook⟩, rfl⟩
    · obtain ⟨e, ⟨name, hname, hlook⟩, he⟩ := ih i hi
      exact ⟨e, ⟨name, hname.trans (List.suffix_append _ _).isInfix, hlook⟩, he⟩

namespace Offer

variable {a : Arsenal} {clause : String} {o : Offer}

/-- What is read from a clause is written in its tokens, with entries that the text names. -/
theorem exists_alternatives_of_read (h : Offer.read a clause = .ok o) :
    ∃ ts alternatives, Token.scan a clause = .ok ts ∧
      ts.map Token.lexeme =
        picksLexemes o.picks ++ menuLexemes alternatives ++ reachLexemes o.reach ∧
      (∀ members ∈ alternatives, ∀ m ∈ members, a.NamedIn clause.toList m.entry) ∧
      o.gear.map some = alternatives.map ofMembers? := by
  unfold Offer.read at h
  split at h
  · cases h
  · next ts hscan =>
    have hitems := (Token.scan_eq_ok_iff.mp hscan).itemsFrom
    obtain ⟨alternatives, hall, hlexemes, hmade⟩ :=
      (ofTokens_eq_ok_iff.mp h).exists_alternatives hitems
    exact ⟨ts, alternatives, hscan, hlexemes, hall, hmade⟩

end Offer

/-! ## Prices -/

/-- A quantity may be stopped before it meets a price, as long as there is something to multiply. -/
theorem Amount.mul_mul {quantity factor : Nat} (hq : 1 ≤ quantity) (hf : 1 ≤ factor)
    (price : Nat) :
    mul (max (mul quantity factor) 1) price = clamp (factor * mul quantity price) := by
  have hpos : 1 ≤ mul quantity factor := Nat.le_min.mpr ⟨Nat.mul_pos hq hf, by decide⟩
  rw [Nat.max_eq_left hpos, mul, mul, mul, Nat.mul_comm, clamp_mul_clamp, clamp_mul_clamp,
    Nat.mul_comm price, Nat.mul_comm quantity, Nat.mul_assoc]

/-- How many there are of a piece of gear. -/
def Gear.quantity : Gear → Nat
  | item i => i.quantity
  | bundle b => b.quantity

namespace Gear

variable {items : List Item} {g : Gear}

/-- Gear that is made from members has those members. -/
theorem members_of_ofMembers? (h : Gear.ofMembers? items = some g) : g.members = items := by
  rcases items with _ | ⟨i, _ | ⟨j, more⟩⟩ <;> cases h <;> rfl

/-- What is made of several items costs what they come to. -/
theorem cost_of_ofMembers? (h : Gear.ofMembers? items = some g) :
    g.cost = clamp (Amount.sum (items.map Item.worth)) := by
  have hworth : g.worth = Amount.sum (items.map Item.worth) := by
    rcases items with _ | ⟨i, _ | ⟨j, more⟩⟩ <;> cases h
    · rfl
    · exact Nat.one_mul _
  rw [cost_eq_clamp, hworth]

/-- Gear that is made from members in quantities of one or more is there once or more. -/
theorem one_le_quantity_of_ofMembers? (h : Gear.ofMembers? items = some g)
    (hitems : ∀ i ∈ items, 1 ≤ i.quantity) : 1 ≤ g.quantity := by
  rcases items with _ | ⟨i, _ | ⟨j, more⟩⟩ <;> cases h
  · exact hitems i (List.mem_singleton_self i)
  · exact Nat.le_refl 1

/-- Gear so many times over costs so many times as much, stopped once. -/
theorem cost_times (hg : 1 ≤ g.quantity) {factor : Nat} (hf : 1 ≤ factor) :
    (g.times factor).cost = clamp (factor * g.cost) := by
  cases g with
  | item i => exact Amount.mul_mul hg hf i.unitCost
  | bundle b => exact Amount.mul_mul hg hf (Amount.total (b.members.map Item.cost))

end Gear

namespace Offer

/-- A member is its entry in the product of its factors, stopped once. -/
theorem Member.item_eq (m : Member) :
    m.item = { m.entry.toItem with quantity := clamp m.factors.prod } := by
  have hone : 1 ≤ Amount.cap := by decide
  have hstarred : m.item = { m.entry.toItem with quantity := clamp (1 * m.factors.prod) } :=
    Item.starred_eq (Nat.le_refl 1) hone m.one_le
  rwa [Nat.one_mul] at hstarred

/-- A member is there once or more. -/
theorem Member.one_le_quantity (m : Member) : 1 ≤ m.item.quantity := by
  rw [m.item_eq]
  exact Nat.le_min.mpr ⟨List.prod_pos_iff_forall_pos_nat.mpr m.one_le, by decide⟩

/-- The quantity may be stopped before it meets the price. -/
theorem Member.clamp_worth_item (m : Member) : clamp m.item.worth = clamp m.worth := by
  rw [m.item_eq, Item.worth, worth, Nat.mul_comm, Amount.clamp_mul_clamp, Nat.mul_comm]
  rfl

/-- Gear that is made from members costs their exact worth, stopped once. -/
theorem cost_of_ofMembers? {members : List Member} {g : Gear} (h : ofMembers? members = some g) :
    g.cost = clamp (Amount.sum (members.map Member.worth)) := by
  have hmembers : members.map (fun m => clamp m.item.worth) =
      members.map fun m => clamp m.worth :=
    List.map_congr_left fun m _ => m.clamp_worth_item
  rw [Gear.cost_of_ofMembers? h, List.map_map, ← Amount.clamp_sum_map_clamp,
    ← Amount.clamp_sum_map_clamp Member.worth, ← hmembers]
  rfl

/-- What the members of an alternative tell of the gear that they make, the alternatives tell of all
that is on offer. -/
theorem map_gear_eq {β : Type} {gs : List Gear} {alternatives : List (List Member)}
    (hmade : gs.map some = alternatives.map ofMembers?) {f : Gear → β} {f' : List Member → β}
    (hf : ∀ members g, ofMembers? members = some g → f g = f' members) :
    gs.map f = alternatives.map f' := by
  induction alternatives generalizing gs with
  | nil =>
    rw [List.map_eq_nil_iff.mp hmade]
    rfl
  | cons members alternatives ih =>
    obtain ⟨g, rest, rfl, hg, hrest⟩ := List.map_eq_cons_iff.mp hmade
    rw [List.map_cons, List.map_cons, ih hrest, hf members g hg.symm]

variable {a : Arsenal} {clause : String} {o : Offer}

/-- There is at least one of every piece on offer. -/
theorem one_le_quantity_of_read (h : Offer.read a clause = .ok o) :
    ∀ g ∈ o.gear, 1 ≤ g.quantity := by
  obtain ⟨-, alternatives, -, -, -, hmade⟩ := exists_alternatives_of_read h
  intro g hg
  have hsome : some g ∈ alternatives.map ofMembers? := hmade ▸ List.mem_map_of_mem hg
  obtain ⟨members, -, hmembers⟩ := List.mem_map.mp hsome
  refine Gear.one_le_quantity_of_ofMembers? hmembers fun i hi => ?_
  obtain ⟨m, -, rfl⟩ := List.mem_map.mp hi
  exact m.one_le_quantity

/-- Whatever is on offer in a clause costs the exact total of its members as they are written,
stopped once: of each member the product of all numbers starred onto the item, times the price of
the entry that the arsenal has under a name in the clause. -/
theorem cost_gear_of_read (h : Offer.read a clause = .ok o) :
    ∃ ts alternatives, Token.scan a clause = .ok ts ∧
      ts.map Token.lexeme =
        picksLexemes o.picks ++ menuLexemes alternatives ++ reachLexemes o.reach ∧
      (∀ members ∈ alternatives, ∀ m ∈ members, a.NamedIn clause.toList m.entry) ∧
      o.gear.map Gear.members = alternatives.map (List.map Member.item) ∧
      o.gear.map Gear.cost =
        alternatives.map fun members => clamp (Amount.sum (members.map Member.worth)) := by
  obtain ⟨ts, alternatives, hscan, hlexemes, hnamed, hmade⟩ := exists_alternatives_of_read h
  exact ⟨ts, alternatives, hscan, hlexemes, hnamed,
    map_gear_eq hmade fun _ _ => Gear.members_of_ofMembers?,
    map_gear_eq hmade fun _ _ => cost_of_ofMembers?⟩

/-- Numbers that come to more than the largest amount stop a price, but not that of an item that
costs nothing. -/
theorem cost_gear_of_read_tower :
    let a := ((Arsenal.empty.insert "Nil" 0 .other).insert "Axe" 3 .melee)
    let clause := "2#999*999*999*999*Nil+2*3*Axe/999*999*999*999*Axe-5"
    let axe : Item := ⟨"Axe", 1, 3, .melee⟩
    let tower (i : Item) : Item := { i with quantity := Amount.cap }
    let o : Offer := ⟨some 2, .every 5, .choice
      [.bundle ⟨tower ⟨"Nil", 1, 0, .other⟩, { axe with quantity := 6 }, [], 1⟩,
        .item (tower axe)]⟩
    Offer.read a clause = .ok o ∧ o.gear.map Gear.cost = [18, Amount.cap] ∧
      ∃ ts alternatives, Token.scan a clause = .ok ts ∧
        ts.map Token.lexeme =
          picksLexemes (some 2) ++ menuLexemes alternatives ++ reachLexemes (.every 5) ∧
        o.gear.map Gear.cost =
          alternatives.map fun members => clamp (Amount.sum (members.map Member.worth)) := by
  intro a clause axe tower o
  have hread : Offer.read a clause = .ok o := by decide +kernel
  obtain ⟨ts, alternatives, hscan, hlexemes, -, -, hcost⟩ := cost_gear_of_read hread
  exact ⟨hread, by decide, ts, alternatives, hscan, hlexemes, hcost⟩

end Offer

end Muster
