import Muster.Proofs.Grammar

/-!
# Binding powers

A clause can be read without levels, by how tightly its operators bind: `*` binds tightest, then
`+`, `/`, `-` and `#`. An operand is read, and each operator behind it takes what has been read as
its left side, as long as it binds tighter than the operator in front of all this. Its right side is
read by the same rule. A reading of this kind comes across clauses that the grammar does not derive,
so what stands on the sides of an operator is checked when the operator is applied.

It is shown that this comes to the reading by levels. Every list of tokens gives the same offer in
both ways, or the same error at the same place.
-/

namespace Muster.Offer

/-! ## Parts of a clause -/

/-- What a stretch of a clause is read as. -/
inductive Part where
  | gear (g : Gear)
  /-- alternatives in the order they are written -/
  | choice (gs : List Gear)
  /-- for one model in every `per`, or for any model -/
  | reaching (inner : Part) (per : Option Nat)
  | picks (count : Nat) (inner : Part)
deriving DecidableEq, Repr

namespace Part

/-- Two pieces of gear joined. -/
def join? : Part → Part → Option Part
  | gear g, gear h => some (gear (g.join h))
  | _, _ => none

/-- The alternatives of a choice; a piece of gear is the only one. -/
def alternatives? : Part → Option (List Gear)
  | gear g => some [g]
  | choice gs => some gs
  | _ => none

/-- An item so many times over. -/
def times? : Part → Nat → Option Part
  | gear (.item i), n => some (gear (.item (i.times n)))
  | _, _ => none

end Part

/-- A part that has been read, and the tokens behind it, which are fewer than `n`. -/
abbrev Reading (n : Nat) := Except OfferError (Part × { rest : List Token // rest.length < n })

namespace Reading

variable {m n : Nat}

/-- A reading of fewer tokens. -/
def within (h : m ≤ n) : Reading m → Reading n :=
  Except.map fun (part, rest) => (part, ⟨rest.1, Nat.lt_of_lt_of_le rest.2 h⟩)

/-- The part and the tokens behind it, however many they are. -/
def forget : Reading n → Except OfferError (Part × List Token) :=
  Except.map fun (part, rest) => (part, rest.1)

/-- Looking at a result with a larger bound on what is left does not change the result. -/
theorem forget_within (h : m ≤ n) (r : Reading m) : (r.within h).forget = r.forget := by
  cases r <;> rfl

end Reading

/-! ## Reading by binding powers -/

namespace Power

/-- How tightly `#` binds, which is the loosest of all. -/
def hash : Nat := 10

/-- How tightly `-` binds. -/
def minus : Nat := 20

/-- How tightly `/` binds. -/
def slash : Nat := 30

/-- How tightly `+` binds. -/
def plus : Nat := 40

/-- How tightly `*` binds. -/
def star : Nat := 50

end Power

mutual

/-- An operand, extended by all operators behind it that bind tighter than `power`. -/
def expression (size power : Nat) (ts : List Token) : Reading ts.length :=
  match operand size power ts with
  | .error e => .error e
  | .ok (left, rest) => (extend size power left rest.1).within rest.2
termination_by (ts.length, 2)
decreasing_by
  · exact Prod.Lex.right _ (by decide)
  · exact Prod.Lex.left _ _ rest.2

/-- An item, or a number and what it is applied to by `*` or `#`. -/
def operand (size power : Nat) : (ts : List Token) → Reading ts.length
  | [] => .error (.unexpectedEnd size)
  | ⟨.item i, _⟩ :: rest => .ok (.gear (.item i), ⟨rest, Nat.lt_succ_self _⟩)
  | [⟨.number _, _⟩] => .error (.unexpectedEnd size)
  | ⟨.number n, p⟩ :: ⟨.star, q⟩ :: rest =>
    if n = 0 then .error (unexpected ⟨.number n, p⟩)
    else
      match expression size Power.star rest with
      | .error e => .error e
      | .ok (part, rest') =>
        -- the right side has been read by now, so an error in it comes before one of the star
        match part.times? n with
        | none => .error (unexpected ⟨.star, q⟩)
        | some part => .ok (part, ⟨rest'.1, Nat.lt_add_right 2 rest'.2⟩)
  | ⟨.number n, p⟩ :: ⟨.hash, q⟩ :: rest =>
    if Power.hash ≤ power then .error (unexpected ⟨.hash, q⟩)
    else if n = 0 then .error (unexpected ⟨.number n, p⟩)
    else
      match expression size Power.hash rest with
      | .error e => .error e
      | .ok (inner, rest') => .ok (.picks n inner, ⟨rest'.1, Nat.lt_add_right 2 rest'.2⟩)
  | ⟨.number _, _⟩ :: operator :: _ => .error (unexpected operator)
  | t :: _ => .error (unexpected t)
termination_by ts => (ts.length, 1)
decreasing_by all_goals exact Prod.Lex.left _ _ (by simp only [List.length_cons]; omega)

/-- What has been read, extended by all operators that bind tighter than `power`. -/
def extend (size power : Nat) (left : Part) : (ts : List Token) → Reading (ts.length + 1)
  | [] => .ok (left, ⟨[], Nat.lt_succ_self _⟩)
  | ⟨.plus, p⟩ :: rest =>
    if Power.plus ≤ power then .ok (left, ⟨⟨.plus, p⟩ :: rest, Nat.lt_succ_self _⟩)
    else
      match expression size Power.plus rest with
      | .error e => .error e
      | .ok (right, rest') =>
        match left.join? right with
        | none => .error (unexpected ⟨.plus, p⟩)
        | some part =>
          (extend size power part rest'.1).within (Nat.le_trans rest'.2 (Nat.le_add_right _ 2))
  | ⟨.slash, p⟩ :: rest =>
    if Power.slash ≤ power then .ok (left, ⟨⟨.slash, p⟩ :: rest, Nat.lt_succ_self _⟩)
    else
      match left.alternatives? with
      | none => .error (unexpected ⟨.slash, p⟩)
      | some gs =>
        match expression size Power.slash rest with
        | .error e => .error e
        | .ok (.gear g, rest') =>
          (extend size power (.choice (gs ++ [g])) rest'.1).within
            (Nat.le_trans rest'.2 (Nat.le_add_right _ 2))
        | .ok _ => .error (unexpected ⟨.slash, p⟩)
  | ⟨.minus, p⟩ :: rest =>
    if Power.minus ≤ power then .ok (left, ⟨⟨.minus, p⟩ :: rest, Nat.lt_succ_self _⟩)
    else if left.alternatives? = none then .error (unexpected ⟨.minus, p⟩)
    else
      match rest with
      | ⟨.number n, q⟩ :: rest =>
        if n = 0 then .error (unexpected ⟨.number n, q⟩)
        else (extend size power (.reaching left (some n)) rest).within (Nat.le_add_right _ 2)
      | rest => (extend size power (.reaching left none) rest).within (Nat.le_succ _)
  | t :: _ => .error (unexpected t)
termination_by ts => (ts.length, 0)
decreasing_by
  all_goals
    refine Prod.Lex.left _ _ ?_
    simp only [List.length_cons]
    omega

end

/-- The part that a list of tokens spells. -/
def parse (size : Nat) (ts : List Token) : Except OfferError Part :=
  match (expression size 0 ts).forget with
  | .error e => .error e
  | .ok (part, []) => .ok part
  | .ok (_, t :: _) => .error (unexpected t)

/-! ## Equations -/

section

variable {size power : Nat} {left : Part} {ts rest : List Token} {n p q : Nat}

/-- An expression is an operand, extended as far as the power lets it. -/
theorem forget_expression (size power : Nat) (ts : List Token) :
    (expression size power ts).forget =
      match (operand size power ts).forget with
      | .error e => .error e
      | .ok (left, rest) => (extend size power left rest).forget := by
  rw [expression]
  rcases operand size power ts with e | ⟨left, rest⟩
  · rfl
  · exact Reading.forget_within _ _

/-- A number before a star multiplies the expression that binds tighter than the star. -/
theorem forget_operand_star :
    (operand size power (⟨.number n, p⟩ :: ⟨.star, q⟩ :: rest)).forget =
      if n = 0 then .error (unexpected ⟨.number n, p⟩)
      else
        match (expression size Power.star rest).forget with
        | .error e => .error e
        | .ok (part, rest') =>
          match part.times? n with
          | none => .error (unexpected ⟨.star, q⟩)
          | some part => .ok (part, rest') := by
  rw [operand]
  split
  · rfl
  · rcases expression size Power.star rest with e | ⟨part, rest'⟩
    · rfl
    · dsimp only [Reading.forget, Except.map]
      cases part.times? n <;> rfl

/-- A number before a hash says how many picks the expression after it allows, where the power lets
a hash stand. -/
theorem forget_operand_hash :
    (operand size power (⟨.number n, p⟩ :: ⟨.hash, q⟩ :: rest)).forget =
      if Power.hash ≤ power then .error (unexpected ⟨.hash, q⟩)
      else if n = 0 then .error (unexpected ⟨.number n, p⟩)
      else
        match (expression size Power.hash rest).forget with
        | .error e => .error e
        | .ok (inner, rest') => .ok (.picks n inner, rest') := by
  rw [operand]
  split
  · rfl
  · split
    · rfl
    · rcases expression size Power.hash rest with e | ⟨inner, rest'⟩ <;> rfl

/-- A plus joins what stands on its two sides, where the power lets it. -/
theorem forget_extend_plus :
    (extend size power left (⟨.plus, p⟩ :: rest)).forget =
      if Power.plus ≤ power then .ok (left, ⟨.plus, p⟩ :: rest)
      else
        match (expression size Power.plus rest).forget with
        | .error e => .error e
        | .ok (right, rest') =>
          match left.join? right with
          | none => .error (unexpected ⟨.plus, p⟩)
          | some part => (extend size power part rest').forget := by
  rw [extend]
  split
  · rfl
  · rcases expression size Power.plus rest with e | ⟨right, rest'⟩
    · rfl
    · dsimp only [Reading.forget, Except.map]
      cases left.join? right with
      | none => rfl
      | some part => exact Reading.forget_within _ _

/-- A slash puts one more alternative on a menu, where the power lets it. -/
theorem forget_extend_slash :
    (extend size power left (⟨.slash, p⟩ :: rest)).forget =
      if Power.slash ≤ power then .ok (left, ⟨.slash, p⟩ :: rest)
      else
        match left.alternatives? with
        | none => .error (unexpected ⟨.slash, p⟩)
        | some gs =>
          match (expression size Power.slash rest).forget with
          | .error e => .error e
          | .ok (.gear g, rest') => (extend size power (.choice (gs ++ [g])) rest').forget
          | .ok _ => .error (unexpected ⟨.slash, p⟩) := by
  rw [extend]
  split
  · rfl
  · cases left.alternatives? with
    | none => rfl
    | some gs =>
      rcases expression size Power.slash rest with e | ⟨right, rest'⟩
      · rfl
      · cases right with
        | gear g => exact Reading.forget_within _ _
        | choice | reaching | picks => rfl

/-- A minus before a number lets one in so many models take from a menu, where the power lets it. -/
theorem forget_extend_minus_number :
    (extend size power left (⟨.minus, p⟩ :: ⟨.number n, q⟩ :: rest)).forget =
      if Power.minus ≤ power then .ok (left, ⟨.minus, p⟩ :: ⟨.number n, q⟩ :: rest)
      else if left.alternatives? = none then .error (unexpected ⟨.minus, p⟩)
      else if n = 0 then .error (unexpected ⟨.number n, q⟩)
      else (extend size power (.reaching left (some n)) rest).forget := by
  rw [extend]
  split
  · rfl
  · split
    · rfl
    · split
      · rfl
      · exact Reading.forget_within _ _

/-- A minus that no number follows lets any model take from a menu, where the power lets it. -/
theorem forget_extend_minus (hrest : ∀ n q more, rest = ⟨.number n, q⟩ :: more → False) :
    (extend size power left (⟨.minus, p⟩ :: rest)).forget =
      if Power.minus ≤ power then .ok (left, ⟨.minus, p⟩ :: rest)
      else if left.alternatives? = none then .error (unexpected ⟨.minus, p⟩)
      else (extend size power (.reaching left none) rest).forget := by
  rw [extend]
  · split
    · rfl
    · split
      · rfl
      · exact Reading.forget_within _ _
  · exact hrest

/-- An operator that does not bind tighter than a power. -/
def Looser (power : Nat) : Lexeme → Prop
  | .plus => Power.plus ≤ power
  | .slash => Power.slash ≤ power
  | .minus => Power.minus ≤ power
  | _ => False

instance (power : Nat) : DecidablePred (Looser power)
  | .plus | .slash | .minus => inferInstanceAs (Decidable (_ ≤ _))
  | .item _ | .number _ | .star | .hash => inferInstanceAs (Decidable False)

/-- Nothing is extended by operators that do not bind tighter. -/
theorem forget_extend_of_looser {operators : List Lexeme} (hts : StopsAt operators ts)
    (hloose : ∀ l ∈ operators, Looser power l) :
    (extend size power left ts).forget = .ok (left, ts) := by
  rcases ts with _ | ⟨⟨lexeme, p⟩, rest⟩
  · rw [extend]
    rfl
  · have hpower : Looser power lexeme := hloose lexeme hts
    cases lexeme with
    | plus => exact forget_extend_plus.trans (if_pos hpower)
    | slash => exact forget_extend_slash.trans (if_pos hpower)
    | minus =>
      unfold extend
      rw [if_pos (show Power.minus ≤ power from hpower)]
      rfl
    | item | number | star | hash => exact hpower.elim

/-- What may not follow an item may not follow any part. -/
theorem forget_extend_of_checkFollow {e : OfferError} (h : checkFollow ts = .error e) :
    (extend size power left ts).forget = .error e := by
  rcases ts with _ | ⟨⟨lexeme, p⟩, rest⟩
  · cases h
  · cases lexeme with
    | plus | slash | minus => cases h
    | item | number | star | hash =>
      cases h
      unfold extend
      rfl

end

/-! ## Quantities -/

/-- Further numbers in front of a quantity are starred onto what is read without them. -/
theorem readQuantity_append (size : Nat) (factors before : List Nat) (ts : List Token) :
    readQuantity size (factors ++ before) ts =
      (readQuantity size factors ts).map fun (i, rest) => (before.foldl Item.times i, rest) := by
  fun_induction readQuantity size factors ts with
  | case2 factors i p rest hfollow =>
    rw [readQuantity, hfollow, List.foldl_append]
    rfl
  | case3 factors i p rest e hfollow =>
    rw [readQuantity, hfollow]
    rfl
  | case6 factors n p q rest hn ih =>
    rw [readQuantity, if_neg hn]
    exact ih
  | case1 | case4 | case5 => rfl
  | case7 | case8 =>
    rw [readQuantity]
    · rfl
    all_goals assumption

variable {size power : Nat} {ts rest : List Token} {n p q : Nat}

/-- A number and a star before a quantity multiply what the quantity reads. -/
theorem readQuantity_star (size : Nat) (hn : n ≠ 0) :
    readQuantity size [] (⟨.number n, p⟩ :: ⟨.star, q⟩ :: rest) =
      (readQuantity size [] rest).map fun (i, rest) => (i.times n, rest) := by
  rw [readQuantity, if_neg hn]
  exact readQuantity_append size [] [n] rest

/-- The operand in front is read as a quantity, if no number of picks may stand here. -/
theorem forget_expression_quantity (size power : Nat) : (ts : List Token) →
    (hpicks : Power.hash ≤ power ∨ ∀ n p q rest, ts ≠ ⟨.number n, p⟩ :: ⟨.hash, q⟩ :: rest) →
    (expression size power ts).forget =
      match readQuantity size [] ts with
      | .error e => .error e
      | .ok (i, rest) => (extend size power (.gear (.item i)) rest).forget
  | [], _ => by
    rw [forget_expression, operand]
    rfl
  | ⟨.item i, p⟩ :: rest, _ => by
    have hoperand : (operand size power (⟨.item i, p⟩ :: rest)).forget =
        .ok (.gear (.item i), rest) := by rw [operand]; rfl
    rw [forget_expression, hoperand, readQuantity]
    cases hfollow : checkFollow rest with
    | error e => exact forget_extend_of_checkFollow hfollow
    | ok _ => rfl
  | [⟨.number n, p⟩], _ => by
    rw [forget_expression, operand]
    rfl
  | ⟨.number n, p⟩ :: ⟨.star, q⟩ :: rest, _ => by
    rw [forget_expression, forget_operand_star]
    by_cases hn : n = 0
    · rw [if_pos hn, readQuantity, if_pos hn]
    · rw [if_neg hn, readQuantity_star size hn,
        forget_expression_quantity size Power.star rest (.inl (by decide))]
      cases hread : readQuantity size [] rest with
      | error e => rfl
      | ok read =>
        -- no operator that may follow a quantity binds tighter than the star, so the item is alone
        obtain ⟨i, rest'⟩ := read
        obtain ⟨-, -, -, -, -, hstop, -⟩ := readQuantity_sound hread
        dsimp only
        rw [forget_extend_of_looser hstop (by decide)]
        rfl
  | ⟨.number n, p⟩ :: ⟨.hash, q⟩ :: rest, hpicks => by
    have hpower : Power.hash ≤ power := hpicks.resolve_right fun h => h n p q rest rfl
    rw [forget_expression, forget_operand_hash, if_pos hpower]
    rfl
  | ⟨.number n, p⟩ :: ⟨.item i, q⟩ :: rest, _ | ⟨.number n, p⟩ :: ⟨.number m, q⟩ :: rest, _
  | ⟨.number n, p⟩ :: ⟨.plus, q⟩ :: rest, _ | ⟨.number n, p⟩ :: ⟨.minus, q⟩ :: rest, _
  | ⟨.number n, p⟩ :: ⟨.slash, q⟩ :: rest, _ | ⟨.plus, p⟩ :: rest, _ | ⟨.minus, p⟩ :: rest, _
  | ⟨.star, p⟩ :: rest, _ | ⟨.slash, p⟩ :: rest, _ | ⟨.hash, p⟩ :: rest, _ => by
    rw [forget_expression]
    unfold operand
    rfl

/-- Behind a `+` a quantity is read. -/
theorem forget_expression_plus (size : Nat) (ts : List Token) :
    (expression size Power.plus ts).forget =
      (readQuantity size [] ts).map fun (i, rest) => (.gear (.item i), rest) := by
  rw [forget_expression_quantity size Power.plus ts (.inl (by decide))]
  cases hread : readQuantity size [] ts with
  | error e => rfl
  | ok read =>
    obtain ⟨-, -, -, -, -, hstop, -⟩ := readQuantity_sound hread
    exact forget_extend_of_looser hstop (by decide)

/-! ## Bundles -/

/-- Joining an item puts it behind the others. -/
theorem join_ofReversed (i j : Item) (before : List Item) :
    (Gear.ofReversed i before).join (.item j) = Gear.ofReversed j (i :: before) := by
  unfold Gear.ofReversed
  rw [List.reverse_cons]
  rcases before.reverse with _ | ⟨first, _ | ⟨second, more⟩⟩ <;>
    simp [Gear.join, Gear.members]

/-- Operators that bind tighter than `/` make what is read as a bundle. -/
theorem forget_extend_bundle {size power : Nat} (hpower : power < Power.plus) (before : List Item)
    {ts rest : List Token} {i : Item} (h : readQuantity size [] ts = .ok (i, rest)) :
    (extend size power (.gear (Gear.ofReversed i before)) rest).forget =
      match readBundle size before ts with
      | .error e => .error e
      | .ok (g, rest) => (extend size power (.gear g) rest).forget := by
  fun_induction readBundle size before ts generalizing i rest with
  | case1 before ts e he => cases he.symm.trans h
  | case2 before ts j p more hj ih =>
    cases hj.symm.trans h
    rw [forget_extend_plus, if_neg (Nat.not_le.mpr hpower), forget_expression_plus]
    cases hread : readQuantity size [] more with
    | error e => rw [readBundle_of_error hread]; rfl
    | ok read =>
      -- what is joined so far is the left side of the next plus
      obtain ⟨k, rest⟩ := read
      rw [← ih hread, ← join_ofReversed]
      rfl
  | case3 before ts j more hplus hj =>
    cases hj.symm.trans h
    rfl

/-- Where no number of picks may stand, what is in front is read as a bundle. -/
theorem forget_expression_bundle {size power : Nat} (hpower : power < Power.plus) {ts : List Token}
    (hpicks : Power.hash ≤ power ∨ ∀ n p q rest, ts ≠ ⟨.number n, p⟩ :: ⟨.hash, q⟩ :: rest) :
    (expression size power ts).forget =
      match readBundle size [] ts with
      | .error e => .error e
      | .ok (g, rest) => (extend size power (.gear g) rest).forget := by
  rw [forget_expression_quantity size power ts hpicks]
  cases hread : readQuantity size [] ts with
  | error e => rw [readBundle_of_error hread]
  | ok read => exact forget_extend_bundle hpower [] hread

/-- Behind a `/` a bundle is read. -/
theorem forget_expression_slash (size : Nat) (ts : List Token) :
    (expression size Power.slash ts).forget =
      (readBundle size [] ts).map fun (g, rest) => (.gear g, rest) := by
  rw [forget_expression_bundle (by decide) (.inl (by decide))]
  cases hread : readBundle size [] ts with
  | error e => rfl
  | ok read =>
    obtain ⟨-, -, -, -, hstop, -⟩ := readBundle_sound hread
    exact forget_extend_of_looser hstop (by decide)

/-! ## Menus -/

/-- A menu as a part of a clause. -/
def Part.ofMenu : Menu → Part
  | .single g => gear g
  | .choice gs => choice gs

/-- The alternatives of a menu are its pieces in the order they are written. -/
theorem alternatives?_ofMenu (last : Gear) (before : List Gear) :
    (Part.ofMenu (Menu.ofReversed last before)).alternatives? = some (before.reverse ++ [last]) := by
  cases before <;> rfl

/-- Operators that bind tighter than `-` make what is read as a menu. -/
theorem forget_extend_menu {size power : Nat} (hpower : power < Power.slash) (before : List Gear)
    {ts rest : List Token} {g : Gear} (h : readBundle size [] ts = .ok (g, rest)) :
    (extend size power (Part.ofMenu (Menu.ofReversed g before)) rest).forget =
      match readMenu size before ts with
      | .error e => .error e
      | .ok (m, rest) => (extend size power (Part.ofMenu m) rest).forget := by
  fun_induction readMenu size before ts generalizing g rest with
  | case1 before ts e he => cases he.symm.trans h
  | case2 before ts j p more hj ih =>
    cases hj.symm.trans h
    rw [forget_extend_slash, if_neg (Nat.not_le.mpr hpower), alternatives?_ofMenu,
      forget_expression_slash]
    cases hread : readBundle size [] more with
    | error e => rw [readMenu_of_error hread]; rfl
    | ok read =>
      obtain ⟨k, rest⟩ := read
      rw [← ih hread]
      simp [Except.map, Part.ofMenu, Menu.ofReversed]
  | case3 before ts j more hslash hj =>
    cases hj.symm.trans h
    rfl

/-- Where no number of picks may stand, what is in front is read as a menu. -/
theorem forget_expression_menu {size power : Nat} (hpower : power < Power.slash) {ts : List Token}
    (hpicks : Power.hash ≤ power ∨ ∀ n p q rest, ts ≠ ⟨.number n, p⟩ :: ⟨.hash, q⟩ :: rest) :
    (expression size power ts).forget =
      match readMenu size [] ts with
      | .error e => .error e
      | .ok (m, rest) => (extend size power (Part.ofMenu m) rest).forget := by
  rw [forget_expression_bundle (Nat.lt_trans hpower (by decide)) hpicks]
  cases hread : readBundle size [] ts with
  | error e => rw [readMenu_of_error hread]
  | ok read => exact forget_extend_menu hpower [] hread

/-! ## Reaches -/

/-- A part with the reach behind it. -/
def Part.withReach (inner : Part) : Reach → Part
  | .squad => inner
  | .anyModel => reaching inner none
  | .every n => reaching inner (some n)

/-- A menu always has alternatives. -/
theorem alternatives?_ofMenu_ne_none (m : Menu) : (Part.ofMenu m).alternatives? ≠ none := by
  cases m <;> exact Option.some_ne_none _

/-- Behind a reach, whatever is left is blamed, a `+` only once its right side has been read. -/
theorem forget_extend_reaching {size power : Nat} (hpower : power < Power.minus) (inner : Part)
    (per : Option Nat) (ts : List Token) :
    (extend size power (.reaching inner per) ts).forget =
      (checkEnd size ts).map fun _ => (.reaching inner per, []) := by
  rcases ts with _ | ⟨⟨lexeme, p⟩, rest⟩
  · rw [extend]
    rfl
  · cases lexeme with
    | plus =>
      have hplus : ¬ Power.plus ≤ power := Nat.not_le.mpr (Nat.lt_trans hpower (by decide))
      rw [forget_extend_plus, if_neg hplus, forget_expression_plus, checkEnd]
      cases readQuantity size [] rest <;> rfl
    | slash =>
      have hslash : ¬ Power.slash ≤ power := Nat.not_le.mpr (Nat.lt_trans hpower (by decide))
      rw [forget_extend_slash, if_neg hslash]
      rfl
    | minus =>
      have hnone : (Part.reaching inner per).alternatives? = none := rfl
      unfold extend
      rw [if_neg (Nat.not_le.mpr hpower), if_pos hnone]
      rfl
    | item | number | star | hash =>
      unfold extend
      rfl

/-- A `-` behind a menu is read as its reach. -/
theorem forget_extend_reach {size power : Nat} (hpower : power < Power.minus) (m : Menu)
    {ts : List Token} (hstop : StopsAt [.minus] ts) :
    (extend size power (Part.ofMenu m) ts).forget =
      (readReach size ts).map fun r => ((Part.ofMenu m).withReach r, []) := by
  have hminus : ¬ Power.minus ≤ power := Nat.not_le.mpr hpower
  have hmenu := alternatives?_ofMenu_ne_none m
  fun_cases readReach size ts with
  | case1 =>
    rw [extend]
    rfl
  | case2 p q rest =>
    rw [forget_extend_minus_number, if_neg hminus, if_neg hmenu, if_pos rfl]
    rfl
  | case3 p n q rest hn =>
    rw [forget_extend_minus_number, if_neg hminus, if_neg hmenu, if_neg hn,
      forget_extend_reaching hpower]
    cases checkEnd size rest <;> rfl
  | case4 p rest hnumber =>
    rw [forget_extend_minus hnumber, if_neg hminus, if_neg hmenu, forget_extend_reaching hpower]
    cases checkEnd size rest <;> rfl
  | case5 t rest _ hother =>
    obtain ⟨lexeme, p⟩ := t
    obtain rfl : lexeme = .minus := List.mem_singleton.mp hstop
    exact (hother p rfl).elim

/-! ## Clauses -/

/-- An offer as a part of a clause. -/
def toPart (o : Offer) : Part :=
  let inner := (Part.ofMenu o.menu).withReach o.reach
  match o.picks with
  | none => inner
  | some n => .picks n inner

/-- An operator that binds loosely is followed by a menu and its reach, up to the end. -/
theorem forget_expression_qualified {size power : Nat} (hpower : power < Power.minus)
    {ts : List Token}
    (hpicks : Power.hash ≤ power ∨ ∀ n p q rest, ts ≠ ⟨.number n, p⟩ :: ⟨.hash, q⟩ :: rest) :
    (expression size power ts).forget =
      (readQualified size none ts).map fun o => (o.toPart, []) := by
  rw [forget_expression_menu (Nat.lt_trans hpower (by decide)) hpicks, readQualified]
  cases hread : readMenu size [] ts with
  | error e => rfl
  | ok read =>
    obtain ⟨m, rest⟩ := read
    obtain ⟨-, -, -, -, hstop, -⟩ := readMenu_sound hread
    dsimp only
    rw [forget_extend_reach hpower m hstop]
    cases readReach size rest <;> rfl

/-- A given number of picks is written into what is read and changes nothing else. -/
theorem readQualified_some (size n : Nat) (ts : List Token) :
    readQualified size (some n) ts =
      (readQualified size none ts).map fun o => { o with picks := some n } := by
  unfold readQualified
  split
  · rfl
  · cases readReach size _ <;> rfl

/-- Reading by binding powers gives the part that the offer is, for every list of tokens, and where
there is no offer the same error. -/
theorem parse_eq_map_ofTokens (size : Nat) (ts : List Token) :
    parse size ts = (ofTokens size ts).map toPart := by
  unfold parse
  fun_cases ofTokens size ts with
  | case1 p q rest =>
    rw [forget_expression, forget_operand_hash]
    rfl
  | case2 n p q rest hn =>
    rw [forget_expression, forget_operand_hash, if_neg (by decide), if_neg hn,
      forget_expression_qualified (by decide) (.inl (Nat.le_refl _)), readQualified_some]
    cases hread : readQualified size none rest with
    | error e => rfl
    | ok o =>
      -- a menu and its reach leave no token, so nothing extends the number of picks
      obtain ⟨m, r, -, rfl⟩ := readQualified_eq_ok_iff.mp hread
      dsimp only [Except.map]
      rw [extend]
      rfl
  | case3 ts hpicks =>
    rw [forget_expression_qualified (by decide) (.inr hpicks)]
    cases readQualified size none ts <;> rfl

/-- A menu with its reach tells both. -/
theorem Part.withReach_ofMenu_inj {m m' : Menu} {r r' : Reach}
    (h : (ofMenu m).withReach r = (ofMenu m').withReach r') : m = m' ∧ r = r' := by
  cases m <;> cases m' <;> cases r <;> cases r' <;> simp_all [withReach, ofMenu]

/-- It never states a number of picks. -/
theorem Part.withReach_ofMenu_ne_picks (m : Menu) (r : Reach) (n : Nat) (inner : Part) :
    (ofMenu m).withReach r ≠ picks n inner := by
  cases m <;> cases r <;> exact Part.noConfusion

/-- No two offers are the same part. -/
theorem toPart_injective : Function.Injective toPart := by
  rintro ⟨picks, reach, menu⟩ ⟨picks', reach', menu'⟩ h
  cases picks with
  | none =>
    cases picks' with
    | none =>
      obtain ⟨rfl, rfl⟩ := Part.withReach_ofMenu_inj h
      rfl
    | some n => exact (Part.withReach_ofMenu_ne_picks _ _ _ _ h).elim
  | some n =>
    cases picks' with
    | none => exact (Part.withReach_ofMenu_ne_picks _ _ _ _ h.symm).elim
    | some n' =>
      obtain ⟨rfl, hinner⟩ := Part.picks.inj h
      obtain ⟨rfl, rfl⟩ := Part.withReach_ofMenu_inj hinner
      rfl

/-- Reading by binding powers gives an offer if and only if the grammar derives it. -/
theorem parse_eq_ok_iff {size : Nat} {ts : List Token} {o : Offer} :
    parse size ts = .ok o.toPart ↔ Clause (ts.map Token.lexeme) o := by
  have hread : ofTokens size ts = .ok o ↔ Clause (ts.map Token.lexeme) o := ofTokens_eq_ok_iff
  rw [parse_eq_map_ofTokens, ← hread]
  cases ofTokens size ts <;> simp [Except.map, toPart_injective.eq_iff]

/-- It gives an error if and only if reading by levels gives the same. -/
theorem parse_eq_error_iff {size : Nat} {ts : List Token} {e : OfferError} :
    parse size ts = .error e ↔ ofTokens size ts = .error e := by
  rw [parse_eq_map_ofTokens]
  cases ofTokens size ts <;> simp [Except.map]

end Muster.Offer
