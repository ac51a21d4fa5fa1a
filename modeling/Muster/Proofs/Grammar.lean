import Mathlib.Algebra.BigOperators.Group.List.Basic
import Muster.Offer.Reading

/-!
# The grammar of option clauses

The language of option clauses as derivations, apart from how a clause is read:

* clause: `[N #] qualified`
* qualified: `choice [- [N]]`
* choice: `bundle (/ bundle)*`
* bundle: `quantity (+ quantity)*`
* quantity: `ITEM`, or `N * quantity`

Every number is at least one. A derivation denotes an offer, with alternatives and members in the
order in which they are written. Reading gives an offer if and only if the clause derives it. The
readers stop in the middle of a clause, so each is described by the tokens that it takes up and by
the operator that it may stop at.
-/

namespace Muster

/-! ## What a derivation denotes -/

/-- An item with numbers starred onto it, the outermost first. -/
def Item.starred (i : Item) (factors : List Nat) : Item := factors.foldr (fun n i => i.times n) i

/-- The gear that items make when they are joined. -/
def Gear.ofMembers? : List Item → Option Gear
  | [i] => some (.item i)
  | members => (Bundle.ofMembers? members).map .bundle

/-- The menu that alternatives make. -/
def Menu.ofAlternatives? : List Gear → Option Menu
  | [] => none
  | [g] => some (.single g)
  | gs => some (.choice gs)

namespace Offer

/-- An item and the numbers starred onto it. -/
inductive Quantity : List Lexeme → List Nat → Item → Prop where
  | item (i : Item) : Quantity [.item i] [] i
  | starred {n : Nat} {ls : List Lexeme} {factors : List Nat} {i : Item} :
      1 ≤ n → Quantity ls factors i → Quantity (.number n :: .star :: ls) (n :: factors) i

/-- The members of a bundle. -/
inductive Bundled : List Lexeme → List Item → Prop where
  | single {ls : List Lexeme} {factors : List Nat} {i : Item} :
      Quantity ls factors i → Bundled ls [i.starred factors]
  | plus {ls ls' : List Lexeme} {factors : List Nat} {i : Item} {members : List Item} :
      Quantity ls factors i → Bundled ls' members →
      Bundled (ls ++ .plus :: ls') (i.starred factors :: members)

/-- The alternatives of a choice. -/
inductive Chosen : List Lexeme → List Gear → Prop where
  | single {ls : List Lexeme} {members : List Item} {g : Gear} :
      Bundled ls members → Gear.ofMembers? members = some g → Chosen ls [g]
  | slash {ls ls' : List Lexeme} {members : List Item} {g : Gear} {gs : List Gear} :
      Bundled ls members → Gear.ofMembers? members = some g → Chosen ls' gs →
      Chosen (ls ++ .slash :: ls') (g :: gs)

/-- The reach that is written after a choice. -/
inductive Reaching : List Lexeme → Reach → Prop where
  | squad : Reaching [] .squad
  | anyModel : Reaching [.minus] .anyModel
  | every {n : Nat} : 1 ≤ n → Reaching [.minus, .number n] (.every n)

/-- A menu and its reach. -/
inductive Qualified : List Lexeme → Menu → Reach → Prop where
  | intro {ls ls' : List Lexeme} {gs : List Gear} {m : Menu} {r : Reach} :
      Chosen ls gs → Menu.ofAlternatives? gs = some m → Reaching ls' r → Qualified (ls ++ ls') m r

/-- The offer that a clause makes. -/
inductive Clause : List Lexeme → Offer → Prop where
  | plain {ls : List Lexeme} {m : Menu} {r : Reach} : Qualified ls m r → Clause ls ⟨none, r, m⟩
  | picks {ls : List Lexeme} {m : Menu} {r : Reach} {n : Nat} :
      1 ≤ n → Qualified ls m r → Clause (.number n :: .hash :: ls) ⟨some n, r, m⟩

/-! ## Quantities -/

/-- The text ends, or goes on with one of the operators. -/
def StopsAt (operators : List Lexeme) : List Token → Prop
  | [] => True
  | t :: _ => t.lexeme ∈ operators

/-- A text that stops at some operators stops at more of them. -/
theorem StopsAt.mono {few many : List Lexeme} {ts : List Token} (h : StopsAt few ts)
    (hsub : ∀ l ∈ few, l ∈ many) : StopsAt many ts := by
  cases ts with
  | nil => trivial
  | cons t rest => exact hsub _ h

/-- A text that stops at one of the operators but not at the first stops at one of the others. -/
theorem StopsAt.of_ne {l : Lexeme} {operators : List Lexeme} {ts : List Token}
    (h : StopsAt (l :: operators) ts) (hne : ∀ p rest, ts = ⟨l, p⟩ :: rest → False) :
    StopsAt operators ts := by
  rcases ts with _ | ⟨⟨lexeme, p⟩, rest⟩
  · trivial
  · rcases List.mem_cons.mp h with rfl | h
    · exact absurd rfl (hne p rest)
    · exact h

/-- What may follow an item is an operator or the end. -/
theorem checkFollow_eq_ok_iff {ts : List Token} :
    checkFollow ts = .ok () ↔ StopsAt [.plus, .slash, .minus] ts := by
  rcases ts with _ | ⟨⟨lexeme, p⟩, rest⟩
  · simp [checkFollow, StopsAt]
  · cases lexeme <;> simp [checkFollow, StopsAt]

/-- A quantity is read as the grammar derives it; `before` holds the numbers in front of it. -/
theorem readQuantity_complete {size : Nat} {ls : List Lexeme} {factors : List Nat} {i : Item}
    (h : Quantity ls factors i) (before : List Nat) {read rest : List Token}
    (hread : read.map Token.lexeme = ls) (hrest : StopsAt [.plus, .slash, .minus] rest) :
    readQuantity size before (read ++ rest) =
      .ok (before.foldl Item.times (i.starred factors), rest) := by
  induction h generalizing before read with
  | item i =>
    obtain ⟨⟨_, p⟩, rfl, rfl⟩ := List.map_eq_singleton_iff.mp hread
    change readQuantity size before (⟨.item i, p⟩ :: rest) = _
    rw [readQuantity, checkFollow_eq_ok_iff.mpr hrest]
    rfl
  | @starred n ls factors i hn _ ih =>
    obtain ⟨⟨_, p⟩, more, rfl, rfl, hmore⟩ := List.map_eq_cons_iff.mp hread
    obtain ⟨⟨_, q⟩, tail, rfl, rfl, htail⟩ := List.map_eq_cons_iff.mp hmore
    change readQuantity size before (⟨.number n, p⟩ :: ⟨.star, q⟩ :: (tail ++ rest)) = _
    rw [readQuantity, if_neg (Nat.ne_of_gt hn), ih (n :: before) htail]
    rfl

/-- Whatever is read as a quantity is the start of the text, and the grammar derives it. -/
theorem readQuantity_sound {size : Nat} {before : List Nat} {ts rest : List Token} {j : Item}
    (h : readQuantity size before ts = .ok (j, rest)) :
    ∃ read factors i, ts = read ++ rest ∧ Quantity (read.map Token.lexeme) factors i ∧
      StopsAt [.plus, .slash, .minus] rest ∧ j = before.foldl Item.times (i.starred factors) := by
  fun_induction readQuantity size before ts with
  | case2 before i p ts hfollow =>
    obtain ⟨rfl, rfl⟩ := Prod.mk.inj (Except.ok.inj h)
    exact ⟨[⟨.item i, p⟩], [], i, rfl, .item i, checkFollow_eq_ok_iff.mp hfollow, rfl⟩
  | case6 before n p q ts hn ih =>
    obtain ⟨read, factors, i, rfl, hread, hrest, rfl⟩ := ih h
    exact ⟨⟨.number n, p⟩ :: ⟨.star, q⟩ :: read, n :: factors, i, rfl,
      .starred (Nat.pos_of_ne_zero hn) hread, hrest, rfl⟩
  | _ => cases h

/-! ## Bundles and menus -/

/-- Members that are collected last first make the bundle that they make in order. -/
theorem ofMembers?_reverse_append (before : List Item) (last : Item) :
    Gear.ofMembers? (before.reverse ++ [last]) = some (Gear.ofReversed last before) := by
  rw [Gear.ofReversed]
  rcases before.reverse with _ | ⟨first, _ | ⟨second, more⟩⟩ <;> rfl

/-- Alternatives that are collected last first make the menu that they make in order. -/
theorem ofAlternatives?_reverse_append (before : List Gear) (last : Gear) :
    Menu.ofAlternatives? (before.reverse ++ [last]) = some (Menu.ofReversed last before) := by
  cases before with
  | nil => rfl
  | cons g before =>
    change _ = some (Menu.choice ((g :: before).reverse ++ [last]))
    rw [List.reverse_cons]
    rcases before.reverse with _ | ⟨first, _ | ⟨second, more⟩⟩ <;> rfl

section Bundle

variable {size : Nat} {before : List Item} {ts rest : List Token} {i : Item} {p : Nat}

/-- A bundle fails where its first quantity does. -/
theorem readBundle_of_error {e : OfferError} (h : readQuantity size [] ts = .error e) :
    readBundle size before ts = .error e := by
  rw [readBundle]
  split
  next e' he =>
    cases he.symm.trans h
    rfl
  next hi => cases hi.symm.trans h
  next hi => cases hi.symm.trans h

/-- Behind a plus a bundle goes on. -/
theorem readBundle_of_plus (h : readQuantity size [] ts = .ok (i, ⟨.plus, p⟩ :: rest)) :
    readBundle size before ts = readBundle size (i :: before) rest := by
  rw [readBundle]
  split
  next he => cases he.symm.trans h
  next hi =>
    cases hi.symm.trans h
    rfl
  next hne hi =>
    cases hi.symm.trans h
    exact absurd rfl (hne _ _)

/-- A bundle ends at the next operator that is no plus. -/
theorem readBundle_of_stop (h : readQuantity size [] ts = .ok (i, rest))
    (hrest : StopsAt [.slash, .minus] rest) :
    readBundle size before ts = .ok (Gear.ofReversed i before, rest) := by
  rw [readBundle]
  split
  next he => cases he.symm.trans h
  next hi =>
    cases hi.symm.trans h
    simp [StopsAt] at hrest
  next hi =>
    cases hi.symm.trans h
    rfl

end Bundle

/-- A bundle is read as the grammar derives it, behind the members read before. -/
theorem readBundle_complete {size : Nat} {ls : List Lexeme} {members : List Item}
    (h : Bundled ls members) (before : List Item) {read rest : List Token} {g : Gear}
    (hread : read.map Token.lexeme = ls) (hrest : StopsAt [.slash, .minus] rest)
    (hg : Gear.ofMembers? (before.reverse ++ members) = some g) :
    readBundle size before (read ++ rest) = .ok (g, rest) := by
  induction h generalizing before read with
  | @single ls factors i hq =>
    have hi : readQuantity size [] (read ++ rest) = .ok (i.starred factors, rest) :=
      readQuantity_complete hq [] hread (hrest.mono (by simp))
    rw [ofMembers?_reverse_append] at hg
    cases hg
    exact readBundle_of_stop hi hrest
  | @plus ls ls' factors i members hq _ ih =>
    obtain ⟨first, more, rfl, hfirst, hmore⟩ := List.map_eq_append_iff.mp hread
    obtain ⟨⟨_, p⟩, tail, rfl, rfl, htail⟩ := List.map_eq_cons_iff.mp hmore
    have hi : readQuantity size [] (first ++ ⟨.plus, p⟩ :: (tail ++ rest)) =
        .ok (i.starred factors, ⟨.plus, p⟩ :: (tail ++ rest)) :=
      readQuantity_complete hq [] hfirst (by simp [StopsAt])
    rw [List.append_assoc, List.cons_append, readBundle_of_plus hi]
    exact ih (i.starred factors :: before) htail (by simpa using hg)

/-- What is read as a bundle is a bundle, and the next operator is no plus. -/
theorem readBundle_sound {size : Nat} {before : List Item} {ts rest : List Token} {g : Gear}
    (h : readBundle size before ts = .ok (g, rest)) :
    ∃ read members, ts = read ++ rest ∧ Bundled (read.map Token.lexeme) members ∧
      StopsAt [.slash, .minus] rest ∧
      Gear.ofMembers? (before.reverse ++ members) = some g := by
  fun_induction readBundle size before ts with
  | case1 => cases h
  | case2 before ts i p rest' hq ih =>
    obtain ⟨first, factors, i, rfl, hfirst, -, rfl⟩ := readQuantity_sound hq
    obtain ⟨read, members, rfl, hread, hrest, hg⟩ := ih h
    refine ⟨first ++ ⟨.plus, p⟩ :: read, i.starred factors :: members, by simp, ?_, hrest, ?_⟩
    · rw [List.map_append]
      exact .plus hfirst hread
    · simpa using hg
  | case3 before ts i rest' hne hq =>
    obtain ⟨rfl, rfl⟩ := Prod.mk.inj (Except.ok.inj h)
    obtain ⟨read, factors, i, rfl, hread, hrest, rfl⟩ := readQuantity_sound hq
    exact ⟨read, [i.starred factors], rfl, .single hread, hrest.of_ne hne,
      ofMembers?_reverse_append _ _⟩

section Menu

variable {size : Nat} {before : List Gear} {ts rest : List Token} {g : Gear} {p : Nat}

/-- A menu fails where its first alternative does. -/
theorem readMenu_of_error {e : OfferError} (h : readBundle size [] ts = .error e) :
    readMenu size before ts = .error e := by
  rw [readMenu]
  split
  next e' he =>
    cases he.symm.trans h
    rfl
  next hg => cases hg.symm.trans h
  next hg => cases hg.symm.trans h

/-- Behind a slash a menu goes on. -/
theorem readMenu_of_slash (h : readBundle size [] ts = .ok (g, ⟨.slash, p⟩ :: rest)) :
    readMenu size before ts = readMenu size (g :: before) rest := by
  rw [readMenu]
  split
  next he => cases he.symm.trans h
  next hg =>
    cases hg.symm.trans h
    rfl
  next hne hg =>
    cases hg.symm.trans h
    exact absurd rfl (hne _ _)

/-- A menu ends at a minus or with the text. -/
theorem readMenu_of_stop (h : readBundle size [] ts = .ok (g, rest))
    (hrest : StopsAt [.minus] rest) :
    readMenu size before ts = .ok (Menu.ofReversed g before, rest) := by
  rw [readMenu]
  split
  next he => cases he.symm.trans h
  next hg =>
    cases hg.symm.trans h
    simp [StopsAt] at hrest
  next hg =>
    cases hg.symm.trans h
    rfl

end Menu

/-- A choice is read as the grammar derives it, behind the alternatives read before. -/
theorem readMenu_complete {size : Nat} {ls : List Lexeme} {gs : List Gear} (h : Chosen ls gs)
    (before : List Gear) {read rest : List Token} {m : Menu} (hread : read.map Token.lexeme = ls)
    (hrest : StopsAt [.minus] rest) (hm : Menu.ofAlternatives? (before.reverse ++ gs) = some m) :
    readMenu size before (read ++ rest) = .ok (m, rest) := by
  induction h generalizing before read with
  | @single ls members g hb hg =>
    have hr : readBundle size [] (read ++ rest) = .ok (g, rest) :=
      readBundle_complete hb [] hread (hrest.mono (by simp)) hg
    rw [ofAlternatives?_reverse_append] at hm
    cases hm
    exact readMenu_of_stop hr hrest
  | @slash ls ls' members g gs hb hg _ ih =>
    obtain ⟨first, more, rfl, hfirst, hmore⟩ := List.map_eq_append_iff.mp hread
    obtain ⟨⟨_, p⟩, tail, rfl, rfl, htail⟩ := List.map_eq_cons_iff.mp hmore
    have hr : readBundle size [] (first ++ ⟨.slash, p⟩ :: (tail ++ rest)) =
        .ok (g, ⟨.slash, p⟩ :: (tail ++ rest)) :=
      readBundle_complete hb [] hfirst (by simp [StopsAt]) hg
    rw [List.append_assoc, List.cons_append, readMenu_of_slash hr]
    exact ih (g :: before) htail (by simpa using hm)

/-- What is read as a menu is a list of alternatives, and a minus or nothing follows. -/
theorem readMenu_sound {size : Nat} {before : List Gear} {ts rest : List Token} {m : Menu}
    (h : readMenu size before ts = .ok (m, rest)) :
    ∃ read gs, ts = read ++ rest ∧ Chosen (read.map Token.lexeme) gs ∧ StopsAt [.minus] rest ∧
      Menu.ofAlternatives? (before.reverse ++ gs) = some m := by
  fun_induction readMenu size before ts with
  | case1 => cases h
  | case2 before ts g p rest' hb ih =>
    obtain ⟨first, members, rfl, hfirst, -, hg⟩ := readBundle_sound hb
    obtain ⟨read, gs, rfl, hread, hrest, hm⟩ := ih h
    refine ⟨first ++ ⟨.slash, p⟩ :: read, g :: gs, by simp, ?_, hrest, ?_⟩
    · rw [List.map_append]
      exact .slash hfirst hg hread
    · simpa using hm
  | case3 before ts g rest' hne hb =>
    obtain ⟨rfl, rfl⟩ := Prod.mk.inj (Except.ok.inj h)
    obtain ⟨read, members, rfl, hread, hrest, hg⟩ := readBundle_sound hb
    exact ⟨read, [g], rfl, .single hread hg, hrest.of_ne hne, ofAlternatives?_reverse_append _ _⟩

/-! ## Clauses -/

/-- A reach stands only where nothing follows it. -/
theorem map_checkEnd_eq_ok_iff {size : Nat} {ts : List Token} {r r' : Reach} :
    ((checkEnd size ts).map fun _ => r) = .ok r' ↔ ts = [] ∧ r = r' := by
  fun_cases checkEnd size ts <;> simp [Except.map]

/-- The reach is what ends a clause, so nothing may be left behind it. -/
theorem readReach_eq_ok_iff {size : Nat} {ts : List Token} {r : Reach} :
    readReach size ts = .ok r ↔ Reaching (ts.map Token.lexeme) r := by
  constructor
  · fun_cases readReach size ts with
    | case1 =>
      intro h
      cases h
      exact .squad
    | case3 p n q rest hn =>
      intro h
      obtain ⟨rfl, rfl⟩ := map_checkEnd_eq_ok_iff.mp h
      exact .every (Nat.pos_of_ne_zero hn)
    | case4 p rest _ =>
      intro h
      obtain ⟨rfl, rfl⟩ := map_checkEnd_eq_ok_iff.mp h
      exact .anyModel
    | _ => intro h; cases h
  · intro h
    generalize hls : ts.map Token.lexeme = ls at h
    cases h with
    | squad => rw [List.map_eq_nil_iff.mp hls, readReach]
    | anyModel =>
      obtain ⟨⟨_, p⟩, rfl, rfl⟩ := List.map_eq_singleton_iff.mp hls
      rfl
    | @every n hn =>
      obtain ⟨⟨_, p⟩, more, rfl, rfl, hmore⟩ := List.map_eq_cons_iff.mp hls
      obtain ⟨⟨_, q⟩, rfl, rfl⟩ := List.map_eq_singleton_iff.mp hmore
      rw [readReach, if_neg (Nat.ne_of_gt hn)]
      rfl

/-- A reach begins with a minus or is not written. -/
theorem Reaching.stopsAt {ls : List Lexeme} {r : Reach} (h : Reaching ls r) {ts : List Token}
    (hts : ts.map Token.lexeme = ls) : StopsAt [.minus] ts := by
  cases h with
  | squad =>
    rw [List.map_eq_nil_iff.mp hts]
    trivial
  | anyModel =>
    obtain ⟨t, rfl, ht⟩ := List.map_eq_singleton_iff.mp hts
    exact List.mem_singleton.mpr ht
  | every =>
    obtain ⟨t, more, rfl, ht, -⟩ := List.map_eq_cons_iff.mp hts
    exact List.mem_singleton.mpr ht

/-- What is read as a menu with its reach is exactly what the grammar says. -/
theorem readQualified_eq_ok_iff {size : Nat} {picks : Option Nat} {ts : List Token} {o : Offer} :
    readQualified size picks ts = .ok o ↔
      ∃ m r, Qualified (ts.map Token.lexeme) m r ∧ o = ⟨picks, r, m⟩ := by
  rw [readQualified]
  constructor
  · intro h
    split at h
    next => cases h
    next m rest hm =>
      obtain ⟨read, gs, rfl, hread, -, hgs⟩ := readMenu_sound hm
      cases hr : readReach size rest with
      | error e => rw [hr] at h; cases h
      | ok r =>
        rw [hr] at h
        cases h
        rw [List.map_append]
        exact ⟨m, r, .intro hread hgs (readReach_eq_ok_iff.mp hr), rfl⟩
  · rintro ⟨m, r, h, rfl⟩
    generalize hls : ts.map Token.lexeme = ls at h
    obtain ⟨hchosen, hgs, hr⟩ := h
    obtain ⟨read, rest, rfl, rfl, rfl⟩ := List.map_eq_append_iff.mp hls
    rw [readMenu_complete hchosen [] rfl (hr.stopsAt rfl) hgs]
    change (readReach size rest).map _ = _
    rw [readReach_eq_ok_iff.mpr hr]
    rfl

/-- The number of picks is read at the start of a clause only. -/
theorem readQualified_hash (size : Nat) (picks : Option Nat) (n p q : Nat) (rest : List Token) :
    readQualified size picks (⟨.number n, p⟩ :: ⟨.hash, q⟩ :: rest) =
      .error (unexpected ⟨.hash, q⟩) := by
  have hquantity : readQuantity size [] (⟨.number n, p⟩ :: ⟨.hash, q⟩ :: rest) =
      .error (unexpected ⟨.hash, q⟩) := rfl
  rw [readQualified, readMenu_of_error (readBundle_of_error hquantity)]

/-- What is read from tokens is exactly the clause that the grammar says. -/
theorem ofTokens_eq_ok_iff {size : Nat} {ts : List Token} {o : Offer} :
    ofTokens size ts = .ok o ↔ Clause (ts.map Token.lexeme) o := by
  constructor
  · fun_cases ofTokens size ts with
    | case1 => intro h; cases h
    | case2 n p q rest hn =>
      intro h
      obtain ⟨m, r, hq, rfl⟩ := readQualified_eq_ok_iff.mp h
      exact .picks (Nat.pos_of_ne_zero hn) hq
    | case3 ts =>
      intro h
      obtain ⟨m, r, hq, rfl⟩ := readQualified_eq_ok_iff.mp h
      exact .plain hq
  · intro h
    generalize hls : ts.map Token.lexeme = ls at h
    cases h with
    | @plain _ m r hq =>
      have hread : readQualified size none ts = .ok ⟨none, r, m⟩ :=
        readQualified_eq_ok_iff.mpr ⟨m, r, hls ▸ hq, rfl⟩
      fun_cases ofTokens size ts with
      | case3 => exact hread
      | _ => rw [readQualified_hash] at hread; cases hread
    | @picks ls m r n hn hq =>
      obtain ⟨⟨_, p⟩, more, rfl, rfl, hmore⟩ := List.map_eq_cons_iff.mp hls
      obtain ⟨⟨_, q⟩, rest, rfl, rfl, rfl⟩ := List.map_eq_cons_iff.mp hmore
      rw [ofTokens, if_neg (Nat.ne_of_gt hn)]
      exact readQualified_eq_ok_iff.mpr ⟨m, r, hq, rfl⟩

end Offer

/-! ## Starred items -/

/-- Numbers starred onto an item multiply its quantity by their product, stopped once. -/
theorem Item.starred_eq {i : Item} (hi : 1 ≤ i.quantity) (hcap : i.quantity ≤ Amount.cap)
    {factors : List Nat} (hf : ∀ n ∈ factors, 1 ≤ n) :
    i.starred factors = { i with quantity := Amount.clamp (i.quantity * factors.prod) } := by
  induction factors with
  | nil =>
    change i = _
    rw [List.prod_nil, Nat.mul_one, Amount.clamp_of_le hcap]
  | cons n factors ih =>
    have hn : 1 ≤ n := hf n List.mem_cons_self
    have htail : i.starred factors = _ := ih fun m hm => hf m (List.mem_cons_of_mem n hm)
    have hprod : Amount.clamp (Amount.clamp (i.quantity * factors.prod) * n) =
        Amount.clamp (i.quantity * (n :: factors).prod) := by
      rw [Nat.mul_comm, Amount.clamp_mul_clamp, List.prod_cons, Nat.mul_left_comm]
    have hpos : 1 ≤ Amount.clamp (i.quantity * (n :: factors).prod) :=
      Nat.le_min.mpr ⟨Nat.mul_pos hi (List.prod_pos_iff_forall_pos_nat.mpr hf), by decide⟩
    change (i.starred factors).times n = _
    rw [htail, times, withQuantity, Amount.mul]
    simp only [hprod, Nat.max_eq_left hpos]

namespace Offer

/-- The factors of a quantity are one or more. -/
theorem Quantity.one_le {ls : List Lexeme} {factors : List Nat} {i : Item}
    (h : Quantity ls factors i) : ∀ n ∈ factors, 1 ≤ n := by
  induction h with
  | item i => exact fun n hn => absurd hn List.not_mem_nil
  | starred hn _ ih => exact List.forall_mem_cons.mpr ⟨hn, ih⟩

/-- A list of tokens is read as an offer if and only if the grammar derives it with this offer, and
an item that is read with numbers starred onto it has its quantity multiplied by all of them. -/
theorem ofTokens_iff_derived (size : Nat) :
    (∀ ts o, ofTokens size ts = .ok o ↔ Clause (ts.map Token.lexeme) o) ∧
      ∀ ls factors i, Quantity ls factors i → 1 ≤ i.quantity → i.quantity ≤ Amount.cap →
        i.starred factors = { i with quantity := Amount.clamp (i.quantity * factors.prod) } :=
  ⟨fun _ _ => ofTokens_eq_ok_iff, fun _ _ _ h hi hcap => Item.starred_eq hi hcap h.one_le⟩

/-! ## What an offer allows -/

/-- The reach of a menu is over one model or more. -/
theorem Qualified.one_le_modelsPer {ls : List Lexeme} {m : Menu} {r : Reach}
    (h : Qualified ls m r) (picks : Option Nat) : 1 ≤ Offer.modelsPer ⟨picks, r, m⟩ := by
  cases h with
  | intro _ _ hreach =>
    cases hreach with
    | squad => exact Nat.le_refl 1
    | anyModel => exact Nat.le_refl 1
    | every hn => exact hn

/-- A clause allows one pick or more, and is for one in one model or more. -/
theorem Clause.one_le {ls : List Lexeme} {o : Offer} (h : Clause ls o) :
    1 ≤ o.picksAllowed ∧ 1 ≤ o.modelsPer := by
  cases h with
  | plain hq => exact ⟨Nat.le_refl 1, hq.one_le_modelsPer none⟩
  | picks hn hq => exact ⟨hn, hq.one_le_modelsPer _⟩

/-- An offer that has been read allows a pick and needs a model. -/
theorem one_le_of_read {a : Arsenal} {clause : String} {o : Offer}
    (h : Offer.read a clause = .ok o) : 1 ≤ o.picksAllowed ∧ 1 ≤ o.modelsPer := by
  unfold Offer.read at h
  split at h
  · cases h
  · exact (ofTokens_eq_ok_iff.mp h).one_le

end Offer

end Muster
