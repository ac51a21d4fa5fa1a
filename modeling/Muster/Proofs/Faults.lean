import Muster.Proofs.Grammar

/-!
# Faults in option clauses

A list of tokens that spells no offer is refused at one of its tokens or at its end. Which lists can
still be completed is told by a machine over lexemes with seven places, apart from how a clause is
read. A token is blamed only if no offer begins with the tokens up to it. Reading does not stop at
the first fault in all cases: a zero is passed over until the operator behind it has been read, and
a `+` behind a reach until the quantity behind it has been.
-/

namespace Muster

namespace Offer

/-! ## The places of a clause -/

/-- How far into a clause its lexemes lead. -/
inductive Place where
  /-- nothing has been read -/
  | start
  /-- a number at the start, of picks or of copies -/
  | number
  /-- a quantity must follow -/
  | operand
  /-- a number of copies -/
  | factor
  /-- a quantity has ended -/
  | gear
  /-- the `-` behind a menu -/
  | minus
  /-- a reach for every so many models -/
  | reach
deriving DecidableEq, Repr

namespace Place

/-- The place behind a lexeme, if a clause may go on with it. -/
def step : Place → Lexeme → Option Place
  | start, .item _ | operand, .item _ => some gear
  | start, .number n => if n = 0 then none else some number
  | operand, .number n => if n = 0 then none else some factor
  | number, .hash | number, .star | factor, .star => some operand
  | gear, .plus | gear, .slash => some operand
  | gear, .minus => some minus
  | minus, .number n => if n = 0 then none else some reach
  | _, _ => none

/-- The place behind several lexemes. -/
def run (q : Place) (ls : List Lexeme) : Option Place := ls.foldlM step q

/-- A clause may end here. -/
def isFinal : Place → Bool
  | gear | minus | reach => true
  | _ => false

/-- A shortest way to the end of a clause. -/
def completion : Place → List Lexeme
  | start | operand => [.item ⟨"", 1, 0, .melee⟩]
  | number | factor => [.star, .item ⟨"", 1, 0, .melee⟩]
  | _ => []

/-- Behind a reach nothing may follow. -/
@[simp] theorem step_reach (l : Lexeme) : reach.step l = none := rfl

/-- A zero may stand nowhere. -/
@[simp] theorem step_zero (q : Place) : q.step (.number 0) = none := by cases q <;> rfl

/-- A clause begins with what a quantity begins with. -/
theorem step_start_eq_none_iff {l : Lexeme} : start.step l = none ↔ operand.step l = none := by
  cases l <;> simp [step]

/-- A number is a factor, unless a hash follows it. -/
theorem step_number_of_ne {l : Lexeme} (h : l ≠ .hash) : number.step l = factor.step l := by
  cases l with
  | hash => exact absurd rfl h
  | _ => rfl

/-- No lexemes lead nowhere else. -/
@[simp] theorem run_nil (q : Place) : q.run [] = some q := rfl

/-- Lexemes are gone through one after another. -/
@[simp] theorem run_cons (q : Place) (l : Lexeme) (ls : List Lexeme) :
    q.run (l :: ls) = (q.step l).bind fun q' => q'.run ls := rfl

/-- Lexemes behind others go on from where those lead. -/
theorem run_append (q : Place) (ls ls' : List Lexeme) :
    q.run (ls ++ ls') = (q.run ls).bind fun q' => q'.run ls' := List.foldlM_append

/-- Where lexemes lead to no place, more of them do not either. -/
theorem run_append_of_none {q : Place} {ls : List Lexeme} (h : q.run ls = none)
    (ls' : List Lexeme) : q.run (ls ++ ls') = none := by
  rw [run_append, h]
  rfl

/-- More lexemes go on from the place that the first ones lead to. -/
theorem run_append_of_some {q q' : Place} {ls : List Lexeme} (h : q.run ls = some q')
    (ls' : List Lexeme) : q.run (ls ++ ls') = q'.run ls' := by
  rw [run_append, h]
  rfl

/-- From every place there is a way to the end of a clause. -/
theorem exists_run_completion (q : Place) : ∃ q', q.run q.completion = some q' ∧ q'.isFinal := by
  cases q <;> exact ⟨_, rfl, rfl⟩

/-- Only a number that picks are counted by makes a difference to a clause at its start. -/
theorem run_start_cases {ls : List Lexeme} (h : ∀ n rest, ls ≠ .number n :: .hash :: rest) :
    start.run ls = operand.run ls ∨ start.run ls = some start ∧ operand.run ls = some operand ∨
      start.run ls = some number ∧ operand.run ls = some factor := by
  rcases ls with _ | ⟨l, ls⟩
  · exact .inr (.inl ⟨rfl, rfl⟩)
  cases l with
  | number n =>
    by_cases hn : n = 0
    · exact .inl (by simp [step, hn])
    rcases ls with _ | ⟨l, ls⟩
    · exact .inr (.inr (by simp [step, hn]))
    cases l with
    | hash => exact absurd rfl (h n ls)
    | _ => exact .inl (by simp [step, hn])
  | _ => exact .inl rfl

end Place

/-! ## Clauses lead to an end -/

/-- A quantity leads from an operand to what follows gear. -/
theorem Quantity.run_operand {ls : List Lexeme} {factors : List Nat} {i : Item}
    (h : Quantity ls factors i) : Place.operand.run ls = some .gear := by
  induction h with
  | item i => rfl
  | starred hn _ ih => simpa [Place.step, Nat.ne_of_gt hn] using ih

/-- A bundle leads from an operand to what follows gear. -/
theorem Bundled.run_operand {ls : List Lexeme} {members : List Item} (h : Bundled ls members) :
    Place.operand.run ls = some .gear := by
  induction h with
  | single hq => exact hq.run_operand
  | plus hq _ ih =>
    rw [Place.run_append_of_some hq.run_operand]
    exact ih

/-- A list of alternatives leads from an operand to what follows gear. -/
theorem Chosen.run_operand {ls : List Lexeme} {gs : List Gear} (h : Chosen ls gs) :
    Place.operand.run ls = some .gear := by
  induction h with
  | single hb _ => exact hb.run_operand
  | slash hb _ _ ih =>
    rw [Place.run_append_of_some hb.run_operand]
    exact ih

/-- A reach leads from behind gear to an end. -/
theorem Reaching.exists_run_gear {ls : List Lexeme} {r : Reach} (h : Reaching ls r) :
    ∃ q, Place.gear.run ls = some q ∧ q.isFinal := by
  cases h with
  | squad => exact ⟨.gear, rfl, rfl⟩
  | anyModel => exact ⟨.minus, rfl, rfl⟩
  | every hn => exact ⟨.reach, by simp [Place.step, Nat.ne_of_gt hn], rfl⟩

/-- A menu with its reach leads from an operand to an end. -/
theorem Qualified.exists_run_operand {ls : List Lexeme} {m : Menu} {r : Reach}
    (h : Qualified ls m r) : ∃ q, Place.operand.run ls = some q ∧ q.isFinal := by
  obtain ⟨hchosen, -, hreach⟩ := h
  rw [Place.run_append_of_some hchosen.run_operand]
  exact hreach.exists_run_gear

/-- A number of picks is no number of copies. -/
theorem Place.run_operand_hash (n : Nat) (rest : List Lexeme) :
    Place.operand.run (.number n :: .hash :: rest) = none := by
  by_cases hn : n = 0 <;> simp [Place.step, hn]

/-- A clause leads from the start to an end. -/
theorem Clause.exists_run_start {ls : List Lexeme} {o : Offer} (h : Clause ls o) :
    ∃ q, Place.start.run ls = some q ∧ q.isFinal := by
  cases h with
  | plain hq =>
    obtain ⟨q, hrun, hfinal⟩ := hq.exists_run_operand
    have hhash : ∀ n rest, ls ≠ .number n :: .hash :: rest := by
      rintro n rest rfl
      rw [Place.run_operand_hash] at hrun
      cases hrun
    rcases Place.run_start_cases hhash with heq | ⟨-, hopen⟩ | ⟨-, hopen⟩
    · exact ⟨q, heq ▸ hrun, hfinal⟩
    all_goals
      rw [hopen] at hrun
      cases hrun
      cases hfinal
  | picks hn hq => simpa [Place.step, Nat.ne_of_gt hn] using hq.exists_run_operand

/-! ## Where reading is refused -/

/-- The error at the first of the tokens that are left, or at the end of the clause. -/
def refusal (size : Nat) : List Token → OfferError
  | [] => .unexpectedEnd size
  | t :: _ => unexpected t

/-- A fault is passed over in these lexemes: a zero at their end, or a `+` behind a `-`. -/
def PassedOver (ls : List Lexeme) : Prop :=
  ls.getLast? = some (.number 0) ∨ [.minus, .plus].Sublist ls

instance : DecidablePred PassedOver := fun _ => inferInstanceAs (Decidable (_ ∨ _))

/-- A fault is passed over whatever stands before it. -/
theorem PassedOver.append {ls : List Lexeme} (h : PassedOver ls) (front : List Lexeme) :
    PassedOver (front ++ ls) := by
  rcases h with hlast | hsub
  · refine .inl ?_
    rw [List.getLast?_append, hlast]
    rfl
  · exact .inr (hsub.trans (List.sublist_append_right front ls))

/-- Behind a minus no plus has a place. -/
theorem Place.plus_notMem_of_run_minus {q : Place} {ls : List Lexeme}
    (h : Place.minus.run ls = some q) : .plus ∉ ls := by
  rcases ls with _ | ⟨l, ls⟩
  · exact List.not_mem_nil
  obtain ⟨next, hstep, hrun⟩ := Option.bind_eq_some_iff.mp h
  cases l with
  | number n =>
    obtain ⟨-, rfl⟩ : n ≠ 0 ∧ reach = next := by simpa [step] using hstep
    rcases ls with _ | ⟨l, ls⟩
    · simp
    · cases hrun
  | _ => cases hstep

/-- Lexemes that lead to a place have no plus behind a minus. -/
theorem Place.not_sublist_of_run {q q' : Place} {ls : List Lexeme} (h : q.run ls = some q') :
    ¬ [.minus, .plus].Sublist ls := by
  induction ls generalizing q with
  | nil => simp
  | cons l ls ih =>
    obtain ⟨next, hstep, hrun⟩ := Option.bind_eq_some_iff.mp h
    intro hsub
    cases hsub with
    | cons _ hsub => exact ih hrun hsub
    | cons_cons _ hsub =>
      have hnext : next = .minus := by cases q <;> simp_all [step]
      rw [hnext] at hrun
      exact plus_notMem_of_run_minus hrun (List.singleton_sublist.mp hsub)

/-- Nothing has been passed over in lexemes that can still be completed. -/
theorem Place.not_passedOver_of_run {q q' : Place} {ls : List Lexeme} (h : q.run ls = some q') :
    ¬ PassedOver ls := by
  rintro (hlast | hsub)
  · obtain ⟨front, rfl⟩ := List.getLast?_eq_some_iff.mp hlast
    rw [run_append] at h
    obtain ⟨place, -, hstep⟩ := Option.bind_eq_some_iff.mp h
    simp at hstep
  · exact not_sublist_of_run h hsub

/-- Tokens that should follow a place are refused with an error. -/
inductive Refused (size : Nat) : Place → List Token → OfferError → Prop where
  /-- the clause may not end yet -/
  | atEnd {q : Place} : q.isFinal = false → Refused size q [] (.unexpectedEnd size)
  /-- no clause goes on with the first token -/
  | here {q : Place} {t : Token} {rest : List Token} :
      q.step t.lexeme = none → Refused size q (t :: rest) (unexpected t)
  /-- the fault is behind the first token -/
  | behind {q q' : Place} {t : Token} {rest : List Token} {e : OfferError} :
      q.step t.lexeme = some q' → Refused size q' rest e → Refused size q (t :: rest) e
  /-- a zero is passed over, and whatever stands behind it is blamed -/
  | zero {q : Place} {p : Nat} {rest : List Token} :
      q = .start ∨ q = .operand → Refused size q (⟨.number 0, p⟩ :: rest) (refusal size rest)
  /-- a `+` is passed over, and the quantity behind it is refused -/
  | plus {r : Reach} {read rest : List Token} {p : Nat} {e : OfferError} :
      Reaching (read.map Token.lexeme) r → read ≠ [] → Refused size .operand rest e →
      Refused size .gear (read ++ ⟨.plus, p⟩ :: rest) e

/-- A reach that is written has a minus. -/
theorem Reaching.minus_sublist {ls : List Lexeme} {r : Reach} (h : Reaching ls r) (hne : ls ≠ []) :
    [.minus].Sublist ls := by
  cases h with
  | squad => exact absurd rfl hne
  | anyModel => exact .refl _
  | every => exact .cons_cons _ (List.nil_sublist _)

/-- Behind a reach that is written no plus has a place. -/
theorem Reaching.run_plus {ls : List Lexeme} {r : Reach} (h : Reaching ls r) (hne : ls ≠ [])
    (more : List Lexeme) : Place.gear.run (ls ++ .plus :: more) = none := by
  cases h with
  | squad => exact absurd rfl hne
  | anyModel => rfl
  | every hn => simp [Place.step, Nat.ne_of_gt hn]

section Refused

variable {size : Nat} {q q' : Place} {ts : List Token} {e : OfferError}

/-- Tokens that are refused are refused behind tokens that lead to their place. -/
theorem Refused.append (h : Refused size q' ts e) {read : List Token}
    (hread : q.run (read.map Token.lexeme) = some q') : Refused size q (read ++ ts) e := by
  induction read generalizing q with
  | nil =>
    cases hread
    exact h
  | cons t read ih =>
    obtain ⟨next, hstep, hrun⟩ := Option.bind_eq_some_iff.mp hread
    exact .behind hstep (ih hrun)

/-- The tokens in front of the place that an error blames are told from those behind it. If no
clause begins with the former then a fault has been passed over in them. -/
theorem Refused.exists_blamed (h : Refused size q ts e) :
    ∃ before after, ts = before ++ after ∧ e = refusal size after ∧
      (∀ t rest, after = t :: rest → q.run ((before ++ [t]).map Token.lexeme) = none) ∧
      (after = [] → ∀ q', q.run (before.map Token.lexeme) = some q' → q'.isFinal = false) ∧
      (q.run (before.map Token.lexeme) = none → PassedOver (before.map Token.lexeme)) := by
  induction h with
  | @atEnd q hopen =>
    refine ⟨[], [], rfl, rfl, nofun, fun _ q' hrun => ?_, nofun⟩
    cases hrun
    exact hopen
  | @here q t rest hstep =>
    refine ⟨[], t :: rest, rfl, rfl, ?_, nofun, nofun⟩
    rintro t' rest' heq
    cases heq
    simp [hstep]
  | @behind q q' t rest e hstep _ ih =>
    obtain ⟨before, after, rfl, rfl, hdead, hopen, hpassed⟩ := ih
    have hrun : ∀ more : List Token, q.run ((t :: more).map Token.lexeme) =
        q'.run (more.map Token.lexeme) := fun more => by simp [hstep]
    refine ⟨t :: before, after, rfl, rfl, ?_, ?_, fun hnone => ?_⟩
    · simpa only [List.cons_append, hrun] using hdead
    · simpa only [hrun] using hopen
    · exact (hpassed (hrun before ▸ hnone)).append [t.lexeme]
  | @zero q p rest _ =>
    refine ⟨[⟨.number 0, p⟩], rest, rfl, rfl, by simp, by simp, fun _ => .inl rfl⟩
  | @plus r read rest p e hreach hne _ ih =>
    obtain ⟨before, after, rfl, rfl, -, -, -⟩ := ih
    have hne' : read.map Token.lexeme ≠ [] := by simpa using hne
    have hnone : ∀ more : List Token,
        Place.gear.run ((read ++ ⟨.plus, p⟩ :: more).map Token.lexeme) = none := by
      intro more
      rw [List.map_append]
      exact hreach.run_plus hne' _
    refine ⟨read ++ ⟨.plus, p⟩ :: before, after, by simp, rfl, ?_, ?_, fun _ => .inr ?_⟩
    · intro t rest heq
      simpa using hnone (before ++ [t])
    · intro _ q' hrun
      rw [hnone] at hrun
      cases hrun
    · rw [List.map_append]
      exact (hreach.minus_sublist hne').append (.cons_cons _ (List.nil_sublist _))

end Refused

/-! ## Readers that refuse -/

section Readers

variable {size : Nat} {ts : List Token} {e : OfferError}

/-- What may not follow an item has no place behind gear. -/
theorem refused_of_checkFollow (h : checkFollow ts = .error e) : Refused size .gear ts e := by
  rcases ts with _ | ⟨⟨lexeme, p⟩, rest⟩
  · cases h
  · cases lexeme <;> cases h <;> exact .here rfl

/-- What is refused as a quantity has no place as an operand. -/
theorem refused_of_readQuantity {factors : List Nat} (h : readQuantity size factors ts = .error e) :
    Refused size .operand ts e := by
  fun_induction readQuantity size factors ts with
  | case1 =>
    cases h
    exact .atEnd rfl
  | case2 => cases h
  | case3 factors i p rest e' hfollow =>
    cases h
    exact .behind rfl (refused_of_checkFollow hfollow)
  | case4 factors n p =>
    cases h
    by_cases hn : n = 0
    · subst hn
      exact .zero (.inr rfl)
    · exact .behind (if_neg hn) (.atEnd rfl)
  | case5 =>
    cases h
    exact .here rfl
  | case6 factors n p q rest hn ih => exact .behind (if_neg hn) (.behind rfl (ih h))
  | case7 factors n p operator rest hstar =>
    cases h
    by_cases hn : n = 0
    · subst hn
      exact .zero (.inr rfl)
    · refine .behind (if_neg hn) (.here ?_)
      obtain ⟨lexeme, p'⟩ := operator
      cases lexeme with
      | star => exact absurd rfl (hstar p')
      | _ => rfl
  | case8 factors t rest hitem hlone hstar hnumber =>
    cases h
    refine .here ?_
    obtain ⟨lexeme, p⟩ := t
    cases lexeme with
    | item i => exact absurd rfl (hitem i p)
    | number n =>
      rcases rest with _ | ⟨operator, rest⟩
      · exact absurd rfl (hlone n p rfl)
      · exact absurd rfl (hnumber n p operator rest rfl)
    | _ => rfl

/-- What is refused as a bundle has no place as an operand. -/
theorem refused_of_readBundle {before : List Item} (h : readBundle size before ts = .error e) :
    Refused size .operand ts e := by
  fun_induction readBundle size before ts with
  | case1 before ts e' hq =>
    cases h
    exact refused_of_readQuantity hq
  | case2 before ts i p rest hq ih =>
    obtain ⟨read, factors, i, rfl, hread, -, -⟩ := readQuantity_sound hq
    exact (Refused.behind rfl (ih h)).append hread.run_operand
  | case3 => cases h

/-- What is refused as a menu has no place as an operand. -/
theorem refused_of_readMenu {before : List Gear} (h : readMenu size before ts = .error e) :
    Refused size .operand ts e := by
  fun_induction readMenu size before ts with
  | case1 before ts e' hb =>
    cases h
    exact refused_of_readBundle hb
  | case2 before ts g p rest hb ih =>
    obtain ⟨read, members, rfl, hread, -, -⟩ := readBundle_sound hb
    exact (Refused.behind rfl (ih h)).append hread.run_operand
  | case3 => cases h

/-- Behind a reach every token is refused, a `+` only once the quantity behind it has been read. -/
theorem refused_of_checkEnd {read : List Token} {q : Place} {r : Reach}
    (h : checkEnd size ts = .error e) (hreach : Reaching (read.map Token.lexeme) r)
    (hne : read ≠ []) (hrun : Place.gear.run (read.map Token.lexeme) = some q)
    (hstop : ∀ t rest, ts = t :: rest → q.step t.lexeme = none) :
    Refused size .gear (read ++ ts) e := by
  fun_cases checkEnd size ts with
  | case1 => cases h
  | case2 p rest e' hq =>
    rw [checkEnd, hq] at h
    cases h
    exact .plus hreach hne (refused_of_readQuantity hq)
  | case3 p rest x hq =>
    rw [checkEnd, hq] at h
    cases h
    exact (Refused.here (hstop _ _ rfl)).append hrun
  | case4 t rest hplus =>
    have herror : checkEnd size (t :: rest) = .error (unexpected t) := by
      obtain ⟨lexeme, p⟩ := t
      cases lexeme with
      | plus => exact absurd rfl (hplus p)
      | _ => rfl
    rw [herror] at h
    cases h
    exact (Refused.here (hstop _ _ rfl)).append hrun

/-- What is refused as a reach has no place behind gear. -/
theorem refused_of_readReach (hts : StopsAt [.minus] ts) (h : readReach size ts = .error e) :
    Refused size .gear ts e := by
  have hcheck : ∀ {rest : List Token} {r : Reach},
      ((checkEnd size rest).map fun _ => r) = .error e → checkEnd size rest = .error e := by
    intro rest r hmap
    cases hend : checkEnd size rest with
    | error e' =>
      rw [hend] at hmap
      cases hmap
      rfl
    | ok =>
      rw [hend] at hmap
      cases hmap
  fun_cases readReach size ts with
  | case1 => cases h
  | case2 p q rest =>
    cases h
    exact .behind rfl (.here rfl)
  | case3 p n q rest hn =>
    rw [readReach, if_neg hn] at h
    have hn' : n = 0 ↔ False := iff_false_intro hn
    have hreach : Reaching ([⟨.minus, p⟩, ⟨.number n, q⟩].map Token.lexeme) (.every n) :=
      .every (Nat.pos_of_ne_zero hn)
    exact refused_of_checkEnd (hcheck h) hreach (by simp) (q := .reach)
      (by simp [Place.step, hn']) fun _ _ _ => rfl
  | case4 p rest hnumber =>
    have herror : readReach size (⟨.minus, p⟩ :: rest) =
        (checkEnd size rest).map fun _ => .anyModel := by
      rw [readReach]
      exact hnumber
    rw [herror] at h
    have hreach : Reaching ([⟨.minus, p⟩].map Token.lexeme) .anyModel := .anyModel
    refine refused_of_checkEnd (hcheck h) hreach (by simp) (q := .minus) rfl ?_
    rintro ⟨lexeme, q⟩ more rfl
    cases lexeme with
    | number n => exact absurd rfl (hnumber n q more)
    | _ => rfl
  | case5 t rest _ hminus =>
    obtain ⟨lexeme, p⟩ := t
    cases List.mem_singleton.mp hts
    exact absurd rfl (hminus p)

/-- What is refused as a menu with its reach has no place as an operand. -/
theorem refused_of_readQualified {picks : Option Nat} (h : readQualified size picks ts = .error e) :
    Refused size .operand ts e := by
  rw [readQualified] at h
  split at h
  next e' hm =>
    cases h
    exact refused_of_readMenu hm
  next m rest hm =>
    obtain ⟨read, gs, rfl, hread, hrest, -⟩ := readMenu_sound hm
    cases hr : readReach size rest with
    | error e' =>
      rw [hr] at h
      cases h
      exact (refused_of_readReach hrest hr).append hread.run_operand
    | ok r =>
      rw [hr] at h
      cases h

/-- A number at the start of a clause is refused like any other, unless it counts picks. -/
theorem Refused.start (h : Refused size .operand ts e)
    (hhash : ∀ n p q rest, ts ≠ ⟨.number n, p⟩ :: ⟨.hash, q⟩ :: rest) :
    Refused size .start ts e := by
  cases h with
  | atEnd => exact .atEnd rfl
  | zero => exact .zero (.inl rfl)
  | @here _ t rest hstep =>
    refine .here ?_
    rw [Place.step_start_eq_none_iff]
    exact hstep
  | @behind _ q' t rest e hstep h =>
    obtain ⟨lexeme, p⟩ := t
    cases lexeme with
    | item i => exact .behind hstep h
    | number n =>
      obtain ⟨hn, rfl⟩ : n ≠ 0 ∧ .factor = q' := by simpa [Place.step] using hstep
      refine .behind (if_neg hn) ?_
      cases h with
      | atEnd => exact .atEnd rfl
      | zero hplace => simp at hplace
      | @here _ t rest hstep =>
        refine .here ?_
        obtain ⟨lexeme, q⟩ := t
        rw [Place.step_number_of_ne]
        · exact hstep
        · rintro rfl
          exact absurd rfl (hhash n p q rest)
      | @behind _ q' t rest e hstep h =>
        obtain ⟨lexeme, q⟩ := t
        cases lexeme with
        | star => exact .behind hstep h
        | _ => cases hstep
    | _ => cases hstep

/-- An error of reading is a refusal of the clause. -/
theorem refused_of_ofTokens (h : ofTokens size ts = .error e) : Refused size .start ts e := by
  fun_cases ofTokens size ts with
  | case1 =>
    cases h
    exact .here rfl
  | case2 n p q rest hn =>
    rw [ofTokens, if_neg hn] at h
    exact .behind (if_neg hn) (.behind rfl (refused_of_readQualified h))
  | case3 ts hhash =>
    have hread : readQualified size none ts = .error e := by
      rw [ofTokens] at h
      · exact h
      · exact hhash
    exact (refused_of_readQualified hread).start fun n p q rest heq => hhash n p q rest heq

end Readers

/-! ## What is blamed -/

section Blamed

variable {size : Nat} {ts : List Token} {e : OfferError}

/-- The machine knows which lists of tokens are offers. -/
theorem exists_ofTokens_eq_ok_iff : (∃ o, ofTokens size ts = .ok o) ↔
    ∃ q, Place.start.run (ts.map Token.lexeme) = some q ∧ q.isFinal := by
  constructor
  · rintro ⟨o, ho⟩
    exact (ofTokens_eq_ok_iff.mp ho).exists_run_start
  · rintro ⟨q, hrun, hfinal⟩
    cases h : ofTokens size ts with
    | ok o => exact ⟨o, rfl⟩
    | error e =>
      obtain ⟨before, after, rfl, -, hdead, hopen, -⟩ := (refused_of_ofTokens h).exists_blamed
      rcases after with _ | ⟨t, rest⟩
      · rw [List.append_nil] at hrun
        rw [hopen rfl q hrun] at hfinal
        cases hfinal
      · have hnone := Place.run_append_of_none (hdead t rest rfl) (rest.map Token.lexeme)
        rw [← List.map_append, List.append_assoc, List.singleton_append, hrun] at hnone
        cases hnone

/-- It also knows which of them can be completed. -/
theorem exists_ofTokens_append_iff : (∃ more o, ofTokens size (ts ++ more) = .ok o) ↔
    Place.start.run (ts.map Token.lexeme) ≠ none := by
  constructor
  · rintro ⟨more, hmore⟩ hnone
    obtain ⟨q, hrun, -⟩ := exists_ofTokens_eq_ok_iff.mp hmore
    rw [List.map_append, Place.run_append_of_none hnone] at hrun
    cases hrun
  · intro hsome
    obtain ⟨q, hq⟩ := Option.ne_none_iff_exists'.mp hsome
    obtain ⟨q', hrun, hfinal⟩ := q.exists_run_completion
    have hlexemes : (q.completion.map fun l => Token.mk l 0).map Token.lexeme = q.completion := by
      rw [List.map_map]
      exact List.map_id _
    refine ⟨q.completion.map fun l => ⟨l, 0⟩, exists_ofTokens_eq_ok_iff.mpr ⟨q', ?_, hfinal⟩⟩
    rw [List.map_append, hlexemes, Place.run_append_of_some hq]
    exact hrun

/-- An error blames a token, or the end of the clause. No offer begins with the tokens up to one
that is blamed; with those in front of it there are offers, unless a fault has been passed over in
them. -/
theorem exists_blamed_of_error (h : ofTokens size ts = .error e) :
    ∃ before after, ts = before ++ after ∧ e = refusal size after ∧
      (∀ t rest, after = t :: rest →
        ∀ size' more o, ofTokens size' (before ++ t :: more) ≠ .ok o) ∧
      ((∃ more o, ofTokens size (before ++ more) = .ok o) ↔
        ¬ PassedOver (before.map Token.lexeme)) := by
  obtain ⟨before, after, hsplit, herror, hdead, -, hpassed⟩ := (refused_of_ofTokens h).exists_blamed
  refine ⟨before, after, hsplit, herror, ?_, ?_⟩
  · intro t rest hafter size' more o ho
    have hlive : Place.start.run ((before ++ [t]).map Token.lexeme) ≠ none :=
      exists_ofTokens_append_iff.mp ⟨more, o, by rwa [List.append_assoc]⟩
    exact hlive (hdead t rest hafter)
  · rw [exists_ofTokens_append_iff]
    constructor
    · intro hlive
      obtain ⟨q, hq⟩ := Option.ne_none_iff_exists'.mp hlive
      exact Place.not_passedOver_of_run hq
    · exact fun hclean hnone => hclean (hpassed hnone)

/-- A token that is blamed is at fault: whatever stands behind it, the tokens up to it make no
offer. -/
theorem unexpectedToken_at_fault {text : String} {position : Nat}
    (h : ofTokens size ts = .error (.unexpectedToken text position)) :
    ∃ before t after, ts = before ++ t :: after ∧ t.lexeme.describe = text ∧
      t.position = position ∧ ∀ size' more o, ofTokens size' (before ++ t :: more) ≠ .ok o := by
  obtain ⟨before, after, hsplit, herror, hdead, -⟩ := exists_blamed_of_error h
  rcases after with _ | ⟨t, rest⟩
  · cases herror
  · cases herror
    exact ⟨before, t, rest, hsplit, rfl, rfl, hdead t rest rfl⟩

/-- The `/` behind a reach is blamed. -/
theorem unexpectedToken_at_fault_axes :
    let axe := Lexeme.item ⟨"Axe", 1, 3, .melee⟩
    let ts : List Token := [⟨axe, 0⟩, ⟨.minus, 3⟩, ⟨.number 2, 4⟩, ⟨.slash, 5⟩, ⟨axe, 6⟩]
    ofTokens 9 ts = .error (.unexpectedToken "'/'" 5) ∧
      ∃ before t after, ts = before ++ t :: after ∧
        t.lexeme.describe = "'/'" ∧ t.position = 5 ∧
        ∀ size' more o, ofTokens size' (before ++ t :: more) ≠ .ok o := by
  intro axe ts
  have herror : ofTokens 9 ts = .error (.unexpectedToken "'/'" 5) := by with_unfolding_all rfl
  exact ⟨herror, unexpectedToken_at_fault herror⟩

/-- An unexpected end means that tokens are missing if and only if no fault has been passed over. A
token that is blamed is the first one that no offer goes on with if and only if no fault has been
passed over in front of it. A list that no offer begins with is refused for one of its tokens, or a
fault has been passed over in it. -/
theorem blamed_first_iff_not_passedOver (size : Nat) (ts : List Token) :
    (∀ p, ofTokens size ts = .error (.unexpectedEnd p) → p = size ∧
      ((∃ more, more ≠ [] ∧ ∃ o, ofTokens size (ts ++ more) = .ok o) ↔
        ¬ PassedOver (ts.map Token.lexeme))) ∧
    (∀ text p, ofTokens size ts = .error (.unexpectedToken text p) →
      ∃ before t after, ts = before ++ t :: after ∧ unexpected t = .unexpectedToken text p ∧
        (∀ more o, ofTokens size (before ++ t :: more) ≠ .ok o) ∧
        ((∃ more o, ofTokens size (before ++ more) = .ok o) ↔
          ¬ PassedOver (before.map Token.lexeme))) ∧
    ((∀ more o, ofTokens size (ts ++ more) ≠ .ok o) →
      (∃ t ∈ ts, ofTokens size ts = .error (unexpected t)) ∨
        ofTokens size ts = .error (.unexpectedEnd size) ∧ PassedOver (ts.map Token.lexeme)) := by
  refine ⟨fun p h => ?_, fun text p h => ?_, fun hdead => ?_⟩
  · obtain ⟨before, after, hsplit, herror, -, hfirst⟩ := exists_blamed_of_error h
    rcases after with _ | ⟨t, rest⟩
    · -- the end is blamed, so all tokens stand before the place
      cases herror
      rw [List.append_nil] at hsplit
      subst hsplit
      refine ⟨rfl, Iff.trans ⟨?_, ?_⟩ hfirst⟩
      · rintro ⟨more, -, o, ho⟩
        exact ⟨more, o, ho⟩
      · rintro ⟨more, o, ho⟩
        refine ⟨more, ?_, o, ho⟩
        rintro rfl
        rw [List.append_nil, h] at ho
        cases ho
    · cases herror
  · obtain ⟨before, after, hsplit, herror, hdead, hfirst⟩ := exists_blamed_of_error h
    rcases after with _ | ⟨t, rest⟩
    · cases herror
    · exact ⟨before, t, rest, hsplit, herror.symm, hdead t rest rfl size, hfirst⟩
  · cases h : ofTokens size ts with
    | ok o => exact absurd (by rwa [List.append_nil]) (hdead [] o)
    | error e =>
      obtain ⟨before, after, hsplit, rfl, -, hfirst⟩ := exists_blamed_of_error h
      rcases after with _ | ⟨t, rest⟩
      · rw [List.append_nil] at hsplit
        subst hsplit
        refine .inr ⟨rfl, ?_⟩
        by_contra hclean
        obtain ⟨more, o, ho⟩ := hfirst.mpr hclean
        exact hdead more o ho
      · exact .inl ⟨t, by simp [hsplit], rfl⟩

/-- A clause that ends behind a `/` can be completed. -/
theorem blamed_first_axes :
    let ts : List Token := [⟨.item ⟨"Axe", 1, 3, .melee⟩, 0⟩, ⟨.slash, 3⟩]
    ofTokens 4 ts = .error (.unexpectedEnd 4) ∧
      ∃ more, more ≠ [] ∧ ∃ o, ofTokens 4 (ts ++ more) = .ok o := by
  intro ts
  have herror : ofTokens 4 ts = .error (.unexpectedEnd 4) := by with_unfolding_all rfl
  exact ⟨herror, ((blamed_first_iff_not_passedOver 4 ts).1 4 herror).2.mpr (by decide)⟩

/-- An end is called unexpected behind a `+` on a reach, and behind a lone zero, though nothing that
may be added makes an offer. -/
theorem unexpectedEnd_past_fault :
    let ts : List Token := [⟨.item ⟨"Axe", 1, 3, .melee⟩, 0⟩, ⟨.minus, 3⟩, ⟨.plus, 4⟩]
    (ofTokens 5 ts = .error (.unexpectedEnd 5) ∧ ∀ more o, ofTokens 5 (ts ++ more) ≠ .ok o) ∧
      ofTokens 1 [⟨.number 0, 0⟩] = .error (.unexpectedEnd 1) ∧
      ∀ more o, ofTokens 1 ([⟨.number 0, 0⟩] ++ more) ≠ .ok o := by
  intro ts
  have hreach : ∀ more o, ofTokens 5 (ts ++ more) ≠ .ok o := by
    intro more o ho
    exact exists_ofTokens_append_iff.mp ⟨more, o, ho⟩ rfl
  have hzero : ∀ more o, ofTokens 1 ([⟨.number 0, 0⟩] ++ more) ≠ .ok o := by
    intro more o ho
    exact exists_ofTokens_append_iff.mp ⟨more, o, ho⟩ rfl
  exact ⟨⟨by with_unfolding_all rfl, hreach⟩, by with_unfolding_all rfl, hzero⟩

end Blamed

end Offer

end Muster
