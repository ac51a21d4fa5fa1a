import Muster.Proofs.Picks
import Muster.Proofs.Prices

/-!
# Selections

The picks on a sheet stand for a list of indices, where each choice is listed as often as it is
picked. After any history of calls the choices are distinct and each of them is picked at least once,
so that the list tells all there is to the picks: whoever picks it gets them back. A list that is
picked at once gives the same picks as its choices one after another, as far as these keep to the
number allowed. The gear that is selected has one piece for each choice, in a larger quantity where
the choice is picked more than once, and costs as much as the choices of the list one by one.

Counts are in registers, and so is the number of all picks. A history that asks for no more picks
than a register can count aborts nowhere.
-/

namespace Muster

open Amount (clamp)

/-- An amount so many times. -/
theorem Amount.sum_replicate (count amount : Nat) :
    sum (List.replicate count amount) = count * amount := by
  induction count with
  | zero => exact (Nat.zero_mul amount).symm
  | succ count ih => rw [List.replicate_succ, sum, ih, Nat.succ_mul, Nat.add_comm]

namespace Sheet

variable {s t t' : Sheet} {index : Nat} {cs : List Choice}

/-! ## One pick after another -/

/-- Picks one choice after another, none beyond the number allowed. -/
def pickEach (t : Sheet) : List Choice → Except PickError Sheet
  | [] => .ok t
  | c :: rest =>
    match t.pick c .refuse with
    | .error e => .error e
    | .ok t' => t'.pickEach rest

/-- Picking one choice after another succeeds exactly where the first pick and then the rest do. -/
theorem pickEach_cons_eq_ok_iff {c : Choice} :
    t.pickEach (c :: cs) = .ok t' ↔ ∃ t₁, t.pick c .refuse = .ok t₁ ∧ t₁.pickEach cs = .ok t' := by
  rw [pickEach]
  cases t.pick c .refuse with
  | error e => simp
  | ok t₁ => simp

/-- Picking one choice after another changes the picks only. -/
theorem Marked.pickEach (hmarked : Marked s t) (h : t.pickEach cs = .ok t') : Marked s t' := by
  induction cs generalizing t with
  | nil =>
    cases h
    exact hmarked
  | cons c cs ih =>
    obtain ⟨t₁, hpick, hrest⟩ := pickEach_cons_eq_ok_iff.mp h
    exact ih (.mark (.pick c .refuse) hmarked hpick) hrest

/-- Picking one choice after another stays within the number allowed. -/
theorem Within.pickEach (hwithin : t.Within) (h : t.pickEach cs = .ok t') : t'.Within := by
  induction cs generalizing t with
  | nil =>
    cases h
    exact hwithin
  | cons c cs ih =>
    obtain ⟨t₁, hpick, hrest⟩ := pickEach_cons_eq_ok_iff.mp h
    exact ih (within_of_pick_refuse hpick) hrest

/-- After a pick there are picks. -/
theorem addPick_ne_nil (index : Nat) (picks : List Pick) : addPick index picks ≠ [] := by
  cases picks with
  | nil => exact List.cons_ne_nil _ _
  | cons p rest =>
    rw [addPick]
    split <;> exact List.cons_ne_nil _ _

/-- Picks do not go away. -/
theorem picks_ne_nil_of_pickEach (hsome : t.picks ≠ [] ∨ cs ≠ []) (h : t.pickEach cs = .ok t') :
    t'.picks ≠ [] := by
  induction cs generalizing t with
  | nil =>
    cases h
    exact hsome.resolve_right fun hne => hne rfl
  | cons c cs ih =>
    obtain ⟨t₁, hpick, hrest⟩ := pickEach_cons_eq_ok_iff.mp h
    obtain ⟨index, -, ⟨-, -, rfl⟩ | ⟨-, hevict, -⟩⟩ := pick_cases hpick
    · exact ih (.inl (addPick_ne_nil index t.picks)) hrest
    · cases hevict

/-- What picking one choice after another on a copy of a sheet leaves. -/
theorem proper_of_pickEach (h : s.clear.pickEach cs = .ok t) :
    t.offer = s.offer ∧ t.gear = s.gear ∧ t.Proper ∧ t.Within := by
  have hmarked : Marked s.clear t := Marked.unmarked.pickEach h
  exact ⟨hmarked.offer_eq, congrArg Offer.gear hmarked.offer_eq,
    hmarked.proper (proper_of_picks_eq_nil rfl), Within.pickEach (Nat.zero_le _) h⟩

/-! ## A list at once -/

/-- Picks that stay within the number allowed with one more did so before. -/
theorem Within.of_add (h : (t.add index).Within) : t.Within := by
  have hfewer : t.distinctPicks ≤ (t.add index).distinctPicks := by
    rw [distinctPicks_add]
    exact Nat.le_add_right _ _
  exact Nat.le_trans hfewer h

/-- Where there is room for all choices, there is room for the first few. -/
theorem Within.of_foldl_add {indices : List Nat} (h : (indices.foldl add t).Within) :
    t.Within := by
  induction indices generalizing t with
  | nil => exact h
  | cons n indices ih => exact (ih h).of_add

/-- One index after another is picked throughout if and only if all are on offer, their counts have
room and the picks that they leave keep to the number allowed. -/
theorem pickEach_index_eq_ok_iff {indices : List Nat} (hwithin : t.Within) :
    t.pickEach (indices.map .index) = .ok t' ↔
      (∀ n ∈ indices, n < t.gear.length) ∧ t.HasRoomFor indices ∧ t' = indices.foldl add t ∧
        t'.Within := by
  induction indices generalizing t with
  | nil =>
    constructor
    · intro h
      cases h
      exact ⟨fun n hn => absurd hn List.not_mem_nil, fun n hn => absurd hn List.not_mem_nil, rfl,
        hwithin⟩
    · rintro ⟨-, -, rfl, -⟩
      rfl
  | cons n indices ih =>
    rw [List.map_cons, pickEach_cons_eq_ok_iff]
    constructor
    · rintro ⟨t₁, hpick, hrest⟩
      obtain ⟨index, hresolve, ⟨hfirst, hroom, rfl⟩ | ⟨-, hevict, -⟩⟩ := pick_cases hpick
      · obtain ⟨hnamed, hindex⟩ := resolve_eq_ok_iff.mp hresolve
        obtain rfl : n = index := Option.some.inj hnamed
        obtain ⟨hindices, hrooms, hlast⟩ := (ih hfirst).mp hrest
        exact ⟨List.forall_mem_cons.mpr ⟨hindex, hindices⟩, hasRoomFor_cons.mpr ⟨hroom, hrooms⟩,
          hlast⟩
      · cases hevict
    · rintro ⟨hall, hrooms, rfl, hlast⟩
      obtain ⟨hn, hindices⟩ := List.forall_mem_cons.mp hall
      obtain ⟨hroom, hrooms⟩ := hasRoomFor_cons.mp hrooms
      rw [List.foldl_cons] at hlast ⊢
      have hfirst : (t.add n).Within := hlast.of_foldl_add
      have hresolve : t.resolve (.index n) = .ok n := resolve_eq_ok_iff.mpr ⟨rfl, hn⟩
      have hpick : t.pick (.index n) .refuse = .ok (t.add n) := by
        rw [pick_of_resolve hresolve, if_pos hfirst, if_pos hroom]
      exact ⟨t.add n, hpick, (ih hfirst).mpr ⟨hindices, hrooms, rfl, hlast⟩⟩

/-- On a sheet without picks, one index after another is picked throughout if and only if the list is
picked at once and keeps to the number allowed, and the picks are then the same. -/
theorem pickEach_iff_pickList (h : s.picks = []) (indices : List Nat) (t : Sheet) :
    s.pickEach (indices.map .index) = .ok t ↔
      s.pickList indices = .ok t ∧ t.checkPicks = .ok () := by
  have hclear : s.clear = s := by rw [clear, ← h]
  have hstart : s.Within := by
    rw [Within, distinctPicks, h]
    exact Nat.zero_le _
  rw [pickEach_index_eq_ok_iff hstart, pickList_eq_ok_iff, hclear, checkPicks_eq_ok_iff, and_assoc,
    and_assoc]

/-- Two picks are allowed: two choices may be picked in turn, one of them twice, but not three. -/
theorem pickEach_iff_pickList_drill :
    let s := { Guards.drillSheet "2#Axe/Bow/2*Axe"
      [Guards.axe, Guards.bow, .item ⟨"Axe", 2, 3, .melee⟩] [] with offer.picks := some 2 }
    s.picks = [] ∧
      s.pickEach [.index 1, .index 0, .index 1] = .ok { s with picks := [⟨1, 2⟩, ⟨0, 1⟩] } ∧
      ∀ t, s.pickEach [.index 0, .index 1, .index 2] ≠ .ok t := by
  intro s
  have hnone : s.picks = [] := rfl
  refine ⟨hnone, (pickEach_iff_pickList hnone [1, 0, 1] _).mpr ⟨rfl, rfl⟩, fun t h => ?_⟩
  obtain ⟨hlist, hcheck⟩ := (pickEach_iff_pickList hnone [0, 1, 2] t).mp h
  obtain rfl := Except.ok.inj hlist
  cases hcheck

/-! ## Counts -/

/-- Every choice that is picked is picked at least once, and no more often than a register can
count. -/
def Counted (t : Sheet) : Prop := ∀ p ∈ t.picks, 1 ≤ p.count ∧ p.count ≤ Amount.cap

/-- One pick more leaves all counts in range, if there is room for it. -/
theorem count_addPick_mem {picks : List Pick} (h : ∀ p ∈ picks, 1 ≤ p.count ∧ p.count ≤ Amount.cap)
    (hroom : countIn index picks < Amount.cap) :
    ∀ p ∈ addPick index picks, 1 ≤ p.count ∧ p.count ≤ Amount.cap := by
  induction picks with
  | nil => exact List.forall_mem_singleton.mpr ⟨Nat.le_refl 1, hroom⟩
  | cons q rest ih =>
    obtain ⟨hq, hrest⟩ := List.forall_mem_cons.mp h
    rw [countIn] at hroom
    rw [addPick]
    split
    · next hindex =>
      rw [if_pos hindex] at hroom
      exact List.forall_mem_cons.mpr ⟨⟨Nat.le_add_left 1 _, hroom⟩, hrest⟩
    · next hindex =>
      rw [if_neg hindex] at hroom
      exact List.forall_mem_cons.mpr ⟨hq, ih hrest hroom⟩

/-- Without picks there is nothing to count. -/
theorem counted_of_picks_eq_nil (h : t.picks = []) : t.Counted := by
  rw [Counted, h]
  exact fun p hp => absurd hp List.not_mem_nil

/-- Picking leaves the counts in range. -/
theorem Marked.counted (hs : s.Counted) (h : Marked s t) : t.Counted :=
  h.keep (fun _ => counted_of_picks_eq_nil) (fun _ hroom h => count_addPick_mem h hroom)
    (fun h p hp => h p (List.mem_of_mem_tail hp)) hs

/-- The picks of a sheet are of choices on offer, and their counts are in range. -/
theorem Proper.forall_picks (h : t.Proper) (hcounted : t.Counted) :
    ∀ p ∈ t.picks, p.index < t.gear.length ∧ 1 ≤ p.count ∧ p.count ≤ Amount.cap :=
  fun p hp => ⟨h.offered p.index (List.mem_map_of_mem hp), hcounted p hp⟩

/-- No choice is counted beyond its register. -/
theorem Counted.countIn_le (h : t.Counted) (index : Nat) : countIn index t.picks ≤ Amount.cap := by
  by_cases hpos : 0 < countIn index t.picks
  · obtain ⟨p, hp, -, hcount⟩ := exists_mem_of_countIn_pos hpos
    exact hcount ▸ (h p hp).2
  · exact Nat.le_trans (Nat.le_of_not_lt hpos) (Nat.zero_le _)

section Read

variable {a : Arsenal} {clause : String} {b : Bearer}

/-- A sheet that is read stays proper whatever is called. -/
theorem proper_run_of_read (h : read a clause b = .ok s) (calls : List Call) :
    (s.run calls).Proper :=
  (marked_run s calls).proper (proper_of_picks_eq_nil (offer_of_read h).2)

/-- The picks of a sheet that is read stay counted whatever is called. -/
theorem counted_run_of_read (h : read a clause b = .ok s) (calls : List Call) :
    (s.run calls).Counted :=
  (marked_run s calls).counted (counted_of_picks_eq_nil (offer_of_read h).2)

end Read

/-! ## The list of all picks -/

/-- The exact number of picks, each choice as often as it is picked. -/
def totalPicks (t : Sheet) : Nat := Amount.sum (t.picks.map Pick.count)

/-- The number of picks is given where a register has room for it. -/
theorem totalPicks?_eq (t : Sheet) : t.totalPicks? = Amount.checked t.totalPicks :=
  Amount.total?_eq_checked_sum fun _ _ => rfl

/-- The list of indices has one entry for each pick. -/
theorem length_selectedIndices (t : Sheet) : t.selectedIndices.length = t.totalPicks := by
  rw [selectedIndices, totalPicks]
  induction t.picks with
  | nil => rfl
  | cons p rest ih =>
    rw [List.flatMap_cons, List.length_append, List.length_replicate, ih, List.map_cons, Amount.sum]

/-- Every place that is listed as selected is picked. -/
theorem mem_picked_of_mem_selectedIndices {n : Nat} (h : n ∈ t.selectedIndices) :
    n ∈ t.picked := by
  obtain ⟨p, hp, hn⟩ := List.mem_flatMap.mp h
  rw [List.eq_of_mem_replicate hn]
  exact List.mem_map_of_mem hp

/-- A choice that is not picked yet comes last. -/
theorem addPick_of_not_mem {picks : List Pick} (h : index ∉ picks.map Pick.index) :
    addPick index picks = picks ++ [⟨index, 1⟩] := by
  induction picks with
  | nil => rfl
  | cons p rest ih =>
    obtain ⟨hp, hrest⟩ := not_or.mp (mt List.mem_cons.mpr h)
    rw [addPick, if_neg (Ne.symm hp), ih hrest]
    rfl

/-- A pick of the last choice adds to its count. -/
theorem addPick_last {picks : List Pick} (h : index ∉ picks.map Pick.index) (count : Nat) :
    addPick index (picks ++ [⟨index, count⟩]) = picks ++ [⟨index, count + 1⟩] := by
  induction picks with
  | nil => exact if_pos rfl
  | cons p rest ih =>
    obtain ⟨hp, hrest⟩ := not_or.mp (mt List.mem_cons.mpr h)
    rw [List.cons_append, addPick, if_neg (Ne.symm hp), ih hrest]
    rfl

/-- A choice that is picked so many times has this count. -/
theorem foldl_addPick_replicate {picks : List Pick} (h : index ∉ picks.map Pick.index)
    (count : Nat) :
    (List.replicate (count + 1) index).foldl (fun picks n => addPick n picks) picks =
      picks ++ [⟨index, count + 1⟩] := by
  induction count with
  | zero => exact addPick_of_not_mem h
  | succ count ih =>
    rw [List.replicate_succ', List.foldl_append, ih]
    exact addPick_last h (count + 1)

/-- Picking the list of some picks puts these picks behind the earlier ones. -/
theorem foldl_addPick_flatMap {earlier picks : List Pick}
    (hnodup : ((earlier ++ picks).map Pick.index).Nodup) (hcounted : ∀ p ∈ picks, 1 ≤ p.count) :
    (picks.flatMap fun p => List.replicate p.count p.index).foldl
      (fun picks n => addPick n picks) earlier = earlier ++ picks := by
  induction picks generalizing earlier with
  | nil => exact (List.append_nil earlier).symm
  | cons p picks ih =>
    obtain ⟨index, count⟩ := p
    obtain ⟨hcount, hrest⟩ := List.forall_mem_cons.mp hcounted
    obtain ⟨count, rfl⟩ := Nat.exists_eq_add_of_le' hcount
    have hnew : index ∉ earlier.map Pick.index := by
      rw [List.map_append, List.nodup_append] at hnodup
      exact fun hmem => hnodup.2.2 index hmem index List.mem_cons_self rfl
    rw [List.flatMap_cons, List.foldl_append, foldl_addPick_replicate hnew]
    rw [List.append_cons earlier _ picks] at hnodup ⊢
    exact ih hnodup hrest

/-- Each pick of a list is counted under its choice. -/
theorem countIn_foldl_add (t : Sheet) (indices : List Nat) (index : Nat) :
    countIn index (indices.foldl add t).picks = countIn index t.picks + indices.count index := by
  induction indices generalizing t with
  | nil => rfl
  | cons n indices ih =>
    rw [List.foldl_cons, ih, countIn_add_count]

/-- The list of all picks is picked as they are. -/
theorem Proper.pickList_selectedIndices (h : t.Proper) (hcounted : t.Counted) :
    t.pickList t.selectedIndices = .ok t := by
  have hagain : t.selectedIndices.foldl Sheet.add t.clear = t := by
    have hpicks : t.selectedIndices.foldl (fun picks n => addPick n picks) [] = t.picks :=
      foldl_addPick_flatMap h.nodup fun p hp => (hcounted p hp).1
    rw [foldl_add, clear, hpicks]
  refine pickList_eq_ok_iff.mpr
    ⟨fun n hn => h.offered n (mem_picked_of_mem_selectedIndices hn), fun n _ => ?_, hagain.symm⟩
  rw [← countIn_foldl_add, hagain]
  exact hcounted.countIn_le n

/-- The picks of a sheet are of choices on offer, so each of them gives something. -/
theorem Proper.length_selected (h : t.Proper) : t.selected.length = t.distinctPicks := by
  refine List.filterMap_length_eq_length.mpr fun p hp => ?_
  have hindex : p.index < t.gear.length := h.offered p.index (List.mem_map_of_mem hp)
  rw [gearOf?, List.getElem?_eq_getElem hindex]
  rfl

/-- A proper sheet with picks selects something. -/
theorem Proper.selected_ne_nil (h : t.Proper) (hpicks : t.picks ≠ []) : t.selected ≠ [] := by
  intro hnone
  have hlength := h.length_selected
  rw [hnone] at hlength
  exact hpicks (List.length_eq_zero_iff.mp hlength.symm)

/-! ## The number of picks -/

/-- How many picks a call asks for. -/
def Call.asked : Call → Nat
  | pick _ _ => 1
  | pickList indices => indices.length
  | clear => 0

/-- A pick is one pick more in total. -/
theorem totalPicks_add (t : Sheet) (index : Nat) :
    (t.add index).totalPicks = t.totalPicks + 1 := by
  rw [totalPicks, totalPicks, add]
  dsimp only
  induction t.picks with
  | nil => rfl
  | cons p rest ih =>
    rw [addPick]
    split
    · simp only [List.map_cons, Amount.sum]
      omega
    · simp only [List.map_cons, Amount.sum, ih]
      omega

/-- A list of picks is as many picks more in total. -/
theorem totalPicks_foldl_add (t : Sheet) (indices : List Nat) :
    (indices.foldl add t).totalPicks = t.totalPicks + indices.length := by
  induction indices generalizing t with
  | nil => rfl
  | cons n indices ih => rw [List.foldl_cons, ih, totalPicks_add, List.length_cons]; omega

/-- Without the oldest pick there are no more picks in total. -/
theorem totalPicks_evict_le (t : Sheet) : t.evict.totalPicks ≤ t.totalPicks := by
  rw [totalPicks, totalPicks, evict]
  cases t.picks with
  | nil => exact Nat.le_refl _
  | cons p rest => exact Nat.le_add_left _ _

/-- No call makes more picks than it asks for. -/
theorem totalPicks_after_le (t : Sheet) (c : Call) :
    (t.after c).totalPicks ≤ t.totalPicks + c.asked := by
  unfold after
  split
  · next t' hc =>
    cases c with
    | pick c overflow =>
      obtain ⟨index, -, ⟨-, -, rfl⟩ | ⟨-, -, -, rfl⟩⟩ := pick_cases hc
      · exact Nat.le_of_eq (totalPicks_add t index)
      · rw [totalPicks_add]
        exact Nat.add_le_add_right t.totalPicks_evict_le 1
    | pickList indices =>
      obtain ⟨-, -, rfl⟩ := pickList_eq_ok_iff.mp hc
      rw [totalPicks_foldl_add]
      exact Nat.add_le_add_right (Nat.zero_le _) _
    | clear =>
      cases hc
      exact Nat.zero_le _
  · exact Nat.le_add_right _ _

/-- A history makes no more picks in total than its calls ask for. -/
theorem totalPicks_run_le (s : Sheet) (calls : List Call) :
    (s.run calls).totalPicks ≤ s.totalPicks + Amount.sum (calls.map Call.asked) := by
  induction calls using List.reverseRecOn with
  | nil => exact Nat.le_refl _
  | append_singleton calls c ih =>
    have hlast := totalPicks_after_le (s.run calls) c
    rw [run_append_singleton, List.map_append, Amount.sum_append]
    simp only [List.map_cons, List.map_nil, Amount.sum]
    omega

/-- A choice is not picked more often than all choices together. -/
theorem countIn_le_totalPicks (t : Sheet) (index : Nat) : countIn index t.picks ≤ t.totalPicks := by
  rw [totalPicks]
  induction t.picks with
  | nil => exact Nat.zero_le _
  | cons p rest ih =>
    rw [countIn, List.map_cons, Amount.sum]
    split
    · exact Nat.le_add_right _ _
    · exact Nat.le_trans ih (Nat.le_add_left _ _)

/-- A call does not abort where a register has room for all picks that there are and that it asks
for. -/
theorem answer_ne_aborted {c : Call} (h : t.totalPicks + c.asked ≤ Amount.cap) :
    c.answer t ≠ .error .aborted := by
  cases c with
  | pick c overflow =>
    have hfew : t.totalPicks < Amount.cap := h
    -- the count of one choice is part of the number of all picks
    have hroom (index : Nat) : t.HasRoom index :=
      Nat.lt_of_le_of_lt (t.countIn_le_totalPicks index) hfew
    have hroom' (index : Nat) : t.evict.HasRoom index :=
      Nat.lt_of_le_of_lt (t.evict.countIn_le_totalPicks index)
        (Nat.lt_of_le_of_lt t.totalPicks_evict_le hfew)
    rw [Call.answer]
    cases hresolve : t.resolve c with
    | error e =>
      rw [pick, hresolve]
      rintro h
      obtain rfl := Except.error.inj h
      unfold resolve at hresolve
      split at hresolve <;> cases hresolve
    | ok index =>
      rw [pick_of_resolve hresolve, if_pos (hroom index), if_pos (hroom' index)]
      cases overflow
      all_goals split <;> simp
  | pickList indices =>
    have hroom : t.clear.HasRoomFor indices := by
      intro n _
      change 0 + indices.count n ≤ Amount.cap
      have hcount : indices.count n ≤ indices.length := List.count_le_length
      rw [Call.asked] at h
      omega
    have hholds : indices.foldlM (fun picks n => addPick? n picks) [] =
        some (indices.foldl add t.clear).picks :=
      (foldlM_addPick?_eq_some_iff (t := t.clear)).mpr ⟨hroom, rfl⟩
    rw [Call.answer, pickList, hholds]
    split <;> simp [holding]
  | clear => simp [Call.answer]

/-- No call of a history aborts. -/
def Completes (s : Sheet) (calls : List Call) : Prop :=
  ∀ before c after, calls = before ++ c :: after → c.answer (s.run before) ≠ .error .aborted

/-- A history completes if a register has room for all picks that it asks for. -/
theorem completes_of_asked_le {calls : List Call}
    (h : s.totalPicks + Amount.sum (calls.map Call.asked) ≤ Amount.cap) : s.Completes calls := by
  rintro before c after rfl
  have hbefore := totalPicks_run_le s before
  rw [List.map_append, Amount.sum_append, List.map_cons, Amount.sum] at h
  exact answer_ne_aborted (by omega)

/-- After any history of calls on a sheet that has been read, no choice is picked under two entries,
all choices picked are on offer and each of them is picked at least once, and no more often than a
register can count; there is one piece for each choice; the number of picks is the length of the
list of indices, where a register has room for it; and the list of all picks is picked as they are.
No call aborts and the number of picks is there as long as the calls ask for no more picks than a
register can count. -/
theorem picks_run {a : Arsenal} {clause : String} {b : Bearer} (h : read a clause b = .ok s)
    (calls : List Call) :
    let t := s.run calls
    t.picked.Nodup ∧
      (∀ p ∈ t.picks, p.index < t.gear.length ∧ 1 ≤ p.count ∧ p.count ≤ Amount.cap) ∧
      t.distinctPicks = t.selected.length ∧
      t.totalPicks? = Amount.checked t.selectedIndices.length ∧
      t.pickList t.selectedIndices = .ok t ∧
      (Amount.sum (calls.map Call.asked) ≤ Amount.cap →
        s.Completes calls ∧ t.totalPicks? = some t.selectedIndices.length) := by
  intro t
  have hproper : t.Proper := proper_run_of_read h calls
  have hcounted : t.Counted := counted_run_of_read h calls
  have hnone : s.totalPicks = 0 := by rw [totalPicks, (offer_of_read h).2]; rfl
  have htotal : t.totalPicks? = Amount.checked t.selectedIndices.length := by
    rw [totalPicks?_eq, length_selectedIndices]
  refine ⟨hproper.nodup, hproper.forall_picks hcounted, hproper.length_selected.symm, htotal,
    hproper.pickList_selectedIndices hcounted, fun hfew => ⟨?_, ?_⟩⟩
  · exact completes_of_asked_le (by omega)
  · have hasked : t.totalPicks ≤ s.totalPicks + Amount.sum (calls.map Call.asked) :=
      totalPicks_run_le s calls
    rw [htotal, length_selectedIndices]
    exact Amount.checked_of_le (by omega)

/-- The oldest pick is picked once more and makes room for itself; a choice that is not on offer
changes nothing. -/
theorem picks_run_drill :
    let s := Guards.drillSheet "Axe/Bow/2*Axe"
      [Guards.axe, Guards.bow, .item ⟨"Axe", 2, 3, .melee⟩] []
    let calls : List Call :=
      [.pickList [0, 1, 0], .pick (.index 0) .evictOldest, .pick (.index 7) .evictOldest]
    let t := s.run calls
    read (Guards.drill 5 [] "Axe/Bow/2*Axe").arsenal "Axe/Bow/2*Axe" ⟨[], .squad⟩ = .ok s ∧
      t.picks = [⟨1, 1⟩, ⟨0, 1⟩] ∧ t.picked.Nodup ∧ t.distinctPicks = t.selected.length ∧
      t.pickList t.selectedIndices = .ok t ∧ Amount.sum (calls.map Call.asked) ≤ Amount.cap ∧
      s.Completes calls ∧ t.totalPicks? = some t.selectedIndices.length := by
  intro s calls t
  have hread : read (Guards.drill 5 [] "Axe/Bow/2*Axe").arsenal "Axe/Bow/2*Axe" ⟨[], .squad⟩ =
      .ok s := by
    with_unfolding_all rfl
  have hfew : Amount.sum (calls.map Call.asked) ≤ Amount.cap := by decide
  obtain ⟨hnodup, -, hdistinct, -, hagain, hall⟩ := picks_run hread calls
  exact ⟨hread, rfl, hnodup, hdistinct, hagain, hfew, hall hfew⟩

/-! ## What the picks cost -/

/-- A choice that is picked so many times costs so many times as much. -/
theorem exists_gearOf? (hgear : ∀ g ∈ t.gear, 1 ≤ g.quantity) {p : Pick}
    (hindex : p.index < t.gear.length) (hcount : 1 ≤ p.count) :
    ∃ g piece, t.gear[p.index]? = some g ∧ t.gearOf? p = some piece ∧
      piece.cost = clamp (p.count * g.cost) := by
  have hat := List.getElem?_eq_getElem hindex
  have hquantity := hgear _ (List.getElem_mem hindex)
  generalize t.gear[p.index] = g at hat hquantity
  rw [gearOf?, hat]
  refine ⟨g, _, rfl, rfl, ?_⟩
  split
  · exact g.cost_times hquantity hcount
  · next hone =>
    have hcost : g.cost ≤ Amount.cap := g.cost_eq_clamp ▸ Amount.clamp_le_cap _
    obtain hone : p.count = 1 := by omega
    rw [hone, Nat.one_mul, Amount.clamp_of_le hcost]

/-- The selected pieces cost what the choices of the list cost one by one. -/
theorem exists_clamp_sum_cost (hgear : ∀ g ∈ t.gear, 1 ≤ g.quantity) {picks : List Pick}
    (hpicks : ∀ p ∈ picks, p.index < t.gear.length ∧ 1 ≤ p.count ∧ p.count ≤ Amount.cap) :
    ∃ gs : Loadout,
      (picks.flatMap fun p => List.replicate p.count p.index).map (fun n => t.gear[n]?) =
        gs.map some ∧
      clamp (Amount.sum ((picks.filterMap t.gearOf?).map Gear.cost)) =
        clamp (Amount.sum (gs.map Gear.cost)) := by
  induction picks with
  | nil => exact ⟨[], rfl, rfl⟩
  | cons p rest ih =>
    obtain ⟨⟨hindex, hcount, -⟩, hrest⟩ := List.forall_mem_cons.mp hpicks
    obtain ⟨g, piece, hat, hpiece, hcost⟩ := exists_gearOf? hgear hindex hcount
    obtain ⟨gs, hgs, hsum⟩ := ih hrest
    refine ⟨List.replicate p.count g ++ gs, ?_, ?_⟩
    · rw [List.flatMap_cons, List.map_append, List.map_append, List.map_replicate,
        List.map_replicate, hat, hgs]
    · rw [List.filterMap_cons_some hpiece, List.map_cons, Amount.sum, hcost,
        Amount.clamp_clamp_add, ← Amount.clamp_add_clamp, hsum, Amount.clamp_add_clamp,
        List.map_append, Amount.sum_append, List.map_replicate, Amount.sum_replicate]

/-- After any history of calls on a sheet that has been read, the selected gear costs what the
choices in the list of indices cost one by one, stopped once. No call of the history aborts as long
as it asks for no more picks than a register can count. -/
theorem cost_selected_run {a : Arsenal} {clause : String} {b : Bearer}
    (h : read a clause b = .ok s) (calls : List Call) :
    (∃ gs : Loadout, (s.run calls).selectedIndices.map (fun n => s.gear[n]?) = gs.map some ∧
        Loadout.cost (s.run calls).selected = clamp (Amount.sum (gs.map Gear.cost))) ∧
      (Amount.sum (calls.map Call.asked) ≤ Amount.cap → s.Completes calls) := by
  have hgear : ∀ g ∈ s.gear, 1 ≤ g.quantity := Offer.one_le_quantity_of_read (offer_of_read h).1
  have hsame : (s.run calls).gear = s.gear := congrArg Offer.gear (marked_run s calls).offer_eq
  have hnone : s.totalPicks = 0 := by rw [totalPicks, (offer_of_read h).2]; rfl
  refine ⟨?_, fun hfew => completes_of_asked_le (by omega)⟩
  rw [← hsame] at hgear ⊢
  rw [Loadout.cost, Amount.total_eq_clamp_sum]
  exact exists_clamp_sum_cost hgear
    ((proper_run_of_read h calls).forall_picks (counted_run_of_read h calls))

/-- Two piles of axes come to more than the largest amount, whatever is picked besides. -/
theorem cost_selected_run_piles :
    let o : Offer := ⟨some 2, .squad, .choice [.item ⟨"Axe", 997002999, 3, .melee⟩, Guards.kit 1]⟩
    let s : Sheet := ⟨"2#999*999*999*Axe/Axe+Bow", o, o.header ⟨[], .squad⟩, []⟩
    let calls : List Call := [.pickList [1, 0, 1], .pick (.index 0) .refuse]
    let t := s.run calls
    read (Guards.drill 5 [] "").arsenal "2#999*999*999*Axe/Axe+Bow" ⟨[], .squad⟩ = .ok s ∧
      t.selectedIndices = [1, 1, 0, 0] ∧ Loadout.cost t.selected = Amount.cap ∧
      (∃ gs : Loadout, t.selectedIndices.map (fun n => s.gear[n]?) = gs.map some ∧
        Loadout.cost t.selected = clamp (Amount.sum (gs.map Gear.cost))) ∧
      s.Completes calls := by
  intro o s calls t
  have hread : read (Guards.drill 5 [] "").arsenal "2#999*999*999*Axe/Axe+Bow" ⟨[], .squad⟩ =
      .ok s := by
    decide +kernel
  obtain ⟨hcost, hcompletes⟩ := cost_selected_run hread calls
  exact ⟨hread, rfl, by decide, hcost, hcompletes (by decide)⟩

end Sheet

end Muster
