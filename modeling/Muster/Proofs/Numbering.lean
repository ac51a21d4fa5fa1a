import Muster.Proofs.Totals

/-!
# Names of detachments

A new detachment is named after its kind and a number, and the number comes from a counter that only
new detachments of the kind move. Kinds are any texts, with blanks and digits in them too; still a
name tells kind and number apart, since the number is all that stands behind its last blank. So no
name is given twice, whatever is removed in between. A counter is a register: a history aborts exactly
where more detachments of one kind are added than it has room for, and up to there the names are as
they should be.
-/

namespace Muster

namespace Force

/-- The name of the detachment that is so many-th of its kind. -/
def title (kind : String) (number : Nat) : String := kind ++ " " ++ toString number

/-- How many detachments of a kind there have been. -/
def counter (f : Force) (kind : String) : Nat := (f.numbering.get? kind).getD 0

/-- The kind of the detachment that is added, if one is. -/
def Act.kind? : Act → Option String
  | addDetachment kind => some kind
  | _ => none

/-- The names that a history gives to new detachments, in order, up to where it aborts. -/
def given (f : Force) : List Act → List String
  | [] => []
  | a :: rest =>
    ((a.kind?.bind f.addDetachment).map Prod.snd).toList ++
      (f.act a).elim [] fun f' => f'.given rest

/-! ## Names -/

/-- A number is written without blanks. -/
theorem blank_notMem_toString (n : Nat) : ' ' ∉ (toString n).toList := by
  rw [Nat.toString_eq_ofList_toDigits, String.toList_ofList]
  intro hblank
  have hdigit : Char.isDigit ' ' = true :=
    Nat.isDigit_of_mem_toDigits (by decide) (by decide) hblank
  cases hdigit

/-- Different numbers are written differently. -/
theorem toString_injective {m n : Nat} (h : (toString m).toList = (toString n).toList) :
    m = n := by
  rw [Nat.toString_eq_ofList_toDigits, Nat.toString_eq_ofList_toDigits, String.toList_ofList,
    String.toList_ofList] at h
  calc
    m = Nat.ofDigitChars 10 (Nat.toDigits 10 m) 0 := Nat.ofDigitChars_ten_toDigits.symm
    _ = Nat.ofDigitChars 10 (Nat.toDigits 10 n) 0 := by rw [h]
    _ = n := Nat.ofDigitChars_ten_toDigits

/-- A list is cut in one way only at a mark that is not in the part behind it. -/
theorem append_cons_inj_of_notMem_right {mark : α} {front front' back back' : List α}
    (hback : mark ∉ back) (hback' : mark ∉ back')
    (h : front ++ mark :: back = front' ++ mark :: back') : front = front' ∧ back = back' := by
  rcases List.append_eq_append_iff.mp h with ⟨more, rfl, hrest⟩ | ⟨more, rfl, hrest⟩
  · cases more with
    | nil => exact ⟨(List.append_nil _).symm, (List.cons.inj hrest).2⟩
    | cons c more =>
      obtain ⟨-, rfl⟩ := List.cons.inj hrest
      exact absurd (List.mem_append_right more List.mem_cons_self) hback
  · cases more with
    | nil => exact ⟨List.append_nil _, (List.cons.inj hrest).2.symm⟩
    | cons c more =>
      obtain ⟨-, rfl⟩ := List.cons.inj hrest
      exact absurd (List.mem_append_right more List.mem_cons_self) hback'

/-- A name tells kind and number apart. -/
theorem title_injective {kind kind' : String} {n n' : Nat} (h : title kind n = title kind' n') :
    kind = kind' ∧ n = n' := by
  have hlists : kind.toList ++ ' ' :: (toString n).toList =
      kind'.toList ++ ' ' :: (toString n').toList := by
    simpa [title] using congrArg String.toList h
  obtain ⟨hkind, hnumber⟩ := append_cons_inj_of_notMem_right (blank_notMem_toString n)
    (blank_notMem_toString n') hlists
  exact ⟨String.toList_injective hkind, toString_injective hnumber⟩

/-! ## Counters -/

open Amount (cap)

variable {f f' : Force}

/-- A new detachment takes the next number of its kind, where there is room for it. -/
theorem addDetachment_eq (f : Force) (kind : String) :
    f.addDetachment kind = if f.counter kind + 1 ≤ cap then
      some ({ f with
        detachments := f.detachments ++ [.empty kind (title kind (f.counter kind + 1))]
        numbering := f.numbering.insert kind (f.counter kind + 1) },
          title kind (f.counter kind + 1))
    else none := by
  unfold addDetachment Amount.checked
  rw [← counter]
  split <;> rfl

/-- What is done to a force adds a detachment, or it neither names one nor aborts nor moves a
counter. -/
theorem act_cases (f : Force) (a : Act) :
    (∃ kind, a = .addDetachment kind) ∨
      a.kind? = none ∧ ∃ f', f.act a = some f' ∧ ∀ kind, f'.counter kind = f.counter kind := by
  cases a with
  | addDetachment kind => exact .inl ⟨kind, rfl⟩
  | removeDetachment | change | rename => exact .inr ⟨rfl, _, rfl, fun _ => rfl⟩

/-- A new detachment moves the counter of its kind by one, and no other. -/
theorem counter_addDetachment {kind name : String} (h : f.addDetachment kind = some (f', name))
    (kind' : String) : f'.counter kind' = f.counter kind' + [kind].count kind' := by
  obtain ⟨-, -, rfl⟩ := addDetachment_eq_some_iff.mp h
  have hget : ((f.numbering.insert kind (f.counter kind + 1)).get? kind').getD 0 =
      f.counter kind' + [kind].count kind' := by
    rw [Table.get?_insert]
    by_cases hkind : kind = kind'
    · subst hkind
      rw [if_pos rfl, Option.getD_some, List.count_singleton_self]
    · rw [if_neg hkind, List.count_eq_zero_of_not_mem (by simpa using Ne.symm hkind)]
      rfl
  exact hget

/-! ## Histories -/

/-- The names that detachments of these kinds should have, from the present counters on. -/
def titles (f : Force) (kinds : List String) : List String :=
  kinds.mapIdx fun i kind => title kind (f.counter kind + (kinds.take (i + 1)).count kind)

/-- The first of some names has the next number, and the others come after it. -/
theorem titles_cons {kind name : String} (h : f.addDetachment kind = some (f', name))
    (kinds : List String) :
    f.titles (kind :: kinds) = title kind (f.counter kind + 1) :: f'.titles kinds := by
  rw [titles, titles, List.mapIdx_cons, List.take_succ_cons, List.take_zero,
    List.count_singleton_self]
  congr 2
  funext i kind'
  have hcount : ((kind :: kinds).take (i + 1 + 1)).count kind' =
      [kind].count kind' + (kinds.take (i + 1)).count kind' := by
    rw [List.take_succ_cons, ← List.count_append]
    rfl
  exact congrArg (title kind') (by rw [hcount, counter_addDetachment h, Nat.add_assoc])

/-- The names that should be given depend on the counters only. -/
theorem titles_congr (h : ∀ kind, f'.counter kind = f.counter kind) (kinds : List String) :
    f'.titles kinds = f.titles kinds := by
  simp only [titles, h]

/-- A history that goes on after a new detachment. -/
theorem run_addDetachment {kind name : String} (h : f.addDetachment kind = some (f', name))
    (rest : List Act) :
    f.run (.addDetachment kind :: rest) = f'.run rest ∧
      f.given (.addDetachment kind :: rest) = name :: f'.given rest := by
  have hact : f.act (.addDetachment kind) = some f' := congrArg (Option.map Prod.fst) h
  have hname : (((Act.addDetachment kind).kind?.bind f.addDetachment).map Prod.snd).toList =
      [name] := congrArg (fun outcome => (outcome.map Prod.snd).toList) h
  rw [run, List.foldlM_cons, given, hact, hname]
  exact ⟨rfl, rfl⟩

/-- A history that a new detachment aborts. -/
theorem run_addDetachment_of_none {kind : String} (h : f.addDetachment kind = none)
    (rest : List Act) :
    f.run (.addDetachment kind :: rest) = none ∧ f.given (.addDetachment kind :: rest) = [] := by
  have hact : f.act (.addDetachment kind) = none := congrArg (Option.map Prod.fst) h
  have hname : (((Act.addDetachment kind).kind?.bind f.addDetachment).map Prod.snd).toList = [] :=
    congrArg (fun outcome => (outcome.map Prod.snd).toList) h
  rw [run, List.foldlM_cons, given, hact, hname]
  exact ⟨rfl, rfl⟩

/-- A history that goes on after anything else. -/
theorem run_of_kind_eq_none {a : Act} (hkind : a.kind? = none) (hact : f.act a = some f')
    (rest : List Act) :
    f.run (a :: rest) = f'.run rest ∧ f.given (a :: rest) = f'.given rest := by
  rw [run, List.foldlM_cons, given, hact, hkind]
  exact ⟨rfl, rfl⟩

/-- A history comes to its end exactly where every counter that it moves has room for the
detachments of its kind. -/
theorem exists_run_iff (acts : List Act) :
    (∃ f', f.run acts = some f') ↔ ∀ kind ∈ acts.filterMap Act.kind?,
      f.counter kind + (acts.filterMap Act.kind?).count kind ≤ cap := by
  induction acts generalizing f with
  | nil => exact ⟨fun _ kind hkind => absurd hkind List.not_mem_nil, fun _ => ⟨f, rfl⟩⟩
  | cons a rest ih =>
    obtain ⟨kind, rfl⟩ | ⟨hkind, next, hact, hcounter⟩ := act_cases f a
    · have hkinds : (Act.addDetachment kind :: rest).filterMap Act.kind? =
          kind :: rest.filterMap Act.kind? := rfl
      rw [hkinds]
      cases hadd : f.addDetachment kind with
      | none =>
        have hfull : ¬ f.counter kind + 1 ≤ cap := by
          intro hroom
          rw [addDetachment_eq, if_pos hroom] at hadd
          cases hadd
        rw [(run_addDetachment_of_none hadd rest).1]
        refine iff_of_false (by simp) fun hall => hfull ?_
        have hfirst := hall kind List.mem_cons_self
        rw [List.count_cons_self] at hfirst
        omega
      | some outcome =>
        obtain ⟨next, name⟩ := outcome
        obtain ⟨hroom, -, -⟩ := addDetachment_eq_some_iff.mp hadd
        rw [(run_addDetachment hadd rest).1, ih, List.forall_mem_cons]
        -- the counter has moved by the first detachment, and the rest starts from there
        have hsplit (kind' : String) : f.counter kind' +
            (kind :: rest.filterMap Act.kind?).count kind' =
              next.counter kind' + (rest.filterMap Act.kind?).count kind' := by
          rw [counter_addDetachment hadd, Nat.add_assoc, ← List.count_append]
          rfl
        simp only [hsplit]
        refine ⟨fun hall => ⟨?_, hall⟩, And.right⟩
        by_cases hlater : kind ∈ rest.filterMap Act.kind?
        · exact hall kind hlater
        · rw [List.count_eq_zero_of_not_mem hlater, counter_addDetachment hadd,
            List.count_singleton_self]
          exact hroom
    · rw [(run_of_kind_eq_none hkind hact rest).1, ih, List.filterMap_cons_none hkind]
      simp only [hcounter]

/-- At the end of a history the counters have moved by the detachments of their kinds. -/
theorem counter_run {acts : List Act} (hrun : f.run acts = some f') (kind : String) :
    f'.counter kind = f.counter kind + (acts.filterMap Act.kind?).count kind := by
  induction acts generalizing f with
  | nil =>
    cases hrun
    rfl
  | cons a rest ih =>
    obtain ⟨kind', rfl⟩ | ⟨hkind, next, hact, hcounter⟩ := act_cases f a
    · cases hadd : f.addDetachment kind' with
      | none =>
        rw [(run_addDetachment_of_none hadd rest).1] at hrun
        cases hrun
      | some outcome =>
        rw [(run_addDetachment hadd rest).1] at hrun
        rw [ih hrun, counter_addDetachment hadd, Nat.add_assoc, ← List.count_append]
        rfl
    · rw [(run_of_kind_eq_none hkind hact rest).1] at hrun
      rw [ih hrun, hcounter, List.filterMap_cons_none hkind]

/-- The names that are given are the first ones of those that should be, and all of them at the end
of a history. -/
theorem given_isPrefix (acts : List Act) :
    f.given acts <+: f.titles (acts.filterMap Act.kind?) ∧
      ((∃ f', f.run acts = some f') → f.given acts = f.titles (acts.filterMap Act.kind?)) := by
  induction acts generalizing f with
  | nil => exact ⟨List.nil_prefix, fun _ => rfl⟩
  | cons a rest ih =>
    obtain ⟨kind, rfl⟩ | ⟨hkind, next, hact, hcounter⟩ := act_cases f a
    · cases hadd : f.addDetachment kind with
      | none =>
        obtain ⟨hrun, hgiven⟩ := run_addDetachment_of_none hadd rest
        rw [hrun, hgiven]
        exact ⟨List.nil_prefix, by simp⟩
      | some outcome =>
        obtain ⟨next, name⟩ := outcome
        obtain ⟨-, hname, -⟩ := addDetachment_eq_some_iff.mp hadd
        obtain ⟨hrun, hgiven⟩ := run_addDetachment hadd rest
        have htitles : f.titles ((Act.addDetachment kind :: rest).filterMap Act.kind?) =
            name :: next.titles (rest.filterMap Act.kind?) := by
          rw [hname]
          exact titles_cons hadd _
        rw [hrun, hgiven, htitles, List.prefix_cons_inj, List.cons.injEq]
        exact ⟨ih.1, fun hend => ⟨rfl, ih.2 hend⟩⟩
    · obtain ⟨hrun, hgiven⟩ := run_of_kind_eq_none hkind hact rest
      rw [hrun, hgiven, List.filterMap_cons_none hkind, ← titles_congr hcounter]
      exact ih

/-- No name should be given twice: the number of a kind goes up from one to the next. -/
theorem nodup_titles (f : Force) (kinds : List String) : (f.titles kinds).Nodup := by
  refine List.pairwise_iff_getElem.mpr fun i j hi hj hij heq => ?_
  simp only [titles, List.length_mapIdx] at hi hj
  simp only [titles, List.getElem_mapIdx] at heq
  obtain ⟨hkind, hnumber⟩ := title_injective heq
  have hfront : (kinds.take (i + 1)).count kinds[j] ≤ (kinds.take j).count kinds[j] :=
    (List.take_sublist_take_left hij).count_le _
  have hnext : (kinds.take (j + 1)).count kinds[j] = (kinds.take j).count kinds[j] + 1 := by
    rw [List.take_succ_eq_append_getElem hj, List.count_append, List.count_singleton_self]
  rw [hkind] at hnumber
  omega

/-- Whatever is done to a force in between, the names of its new detachments are pairwise distinct
and the n-th detachment of a kind gets number n, up to where the history aborts. It aborts exactly
where more detachments of one kind are added than a register can count; where it does not, all of
them are named and the counter of a kind stands at the number of its detachments. -/
theorem names_run (name faction : String) (acts : List Act) :
    let f := empty name faction
    let kinds := acts.filterMap Act.kind?
    let names := kinds.mapIdx fun i kind =>
      kind ++ " " ++ toString ((kinds.take (i + 1)).count kind)
    (f.given acts).Nodup ∧ f.given acts <+: names ∧
      ((∃ f', f.run acts = some f') ↔ ∀ kind, kinds.count kind ≤ cap) ∧
      ∀ f', f.run acts = some f' → f.given acts = names ∧
        ∀ kind, (f'.numbering.get? kind).getD 0 = kinds.count kind := by
  intro f kinds names
  have hstart (kind : String) : f.counter kind = 0 := rfl
  have htitles : f.titles kinds = names := by
    simp only [titles, hstart, Nat.zero_add]
    rfl
  obtain ⟨hfront, hall⟩ := f.given_isPrefix acts
  refine ⟨(f.nodup_titles kinds).sublist hfront.sublist, htitles ▸ hfront, ?_,
    fun f' hrun => ⟨htitles ▸ hall ⟨f', hrun⟩, fun kind => ?_⟩⟩
  · rw [exists_run_iff]
    simp only [hstart, Nat.zero_add]
    refine ⟨fun hroom kind => ?_, fun hroom kind _ => hroom kind⟩
    by_cases hkind : kind ∈ kinds
    · exact hroom kind hkind
    · rw [List.count_eq_zero_of_not_mem hkind]
      exact Nat.zero_le _
  · have hcounter := counter_run hrun kind
    rw [hstart, Nat.zero_add] at hcounter
    exact hcounter

/-- Kinds that end in a number of their own, one of them removed in between. -/
example : (empty "Host" "Watch").given [.addDetachment "A", .addDetachment "A 1",
    .removeDetachment 0, .addDetachment "A"] = ["A 1", "A 1 1", "A 2"] := by decide

end Force

end Muster
