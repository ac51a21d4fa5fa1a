import Mathlib.Data.List.Induction
import Mathlib.Data.List.Nodup
import Muster.Proofs.Calls
import Muster.Proofs.Grammar

/-!
# Picks

What picking one choice after another leaves on a sheet. No choice is picked under two entries and
all choices picked are on offer, so there are never more different picks than choices. Whether they
stay within the number allowed is another matter, since a list of picks is taken as it is. A pick
that is refused when there is no room keeps to the number allowed after any history. A pick that
takes the place of the oldest one drops this one only, so where a list has gone beyond the number
allowed, there may be too many still. The count of a choice is in a register, and a pick for which it
has no room aborts; in a history of calls nothing comes of it.

A choice can be picked by the letter that it is shown with, as far as there are letters.
-/

namespace Muster

namespace Sheet

variable {s t t' : Sheet} {c : Choice} {index : Nat}

/-! ## One pick more -/

/-- The choices picked, the oldest first. -/
def picked (t : Sheet) : List Nat := t.picks.map Pick.index

/-- Some picks with one pick more, whether or not a register has room for its count. -/
def addPick (index : Nat) : List Pick → List Pick
  | [] => [⟨index, 1⟩]
  | p :: rest =>
    if p.index = index then ⟨index, p.count + 1⟩ :: rest else p :: addPick index rest

/-- How often a choice is picked. -/
def countIn (index : Nat) : List Pick → Nat
  | [] => 0
  | p :: rest => if p.index = index then p.count else countIn index rest

/-- There is one pick more if and only if its count has room. -/
theorem addPick?_eq (index : Nat) (picks : List Pick) :
    addPick? index picks =
      if countIn index picks < Amount.cap then some (addPick index picks) else none := by
  induction picks with
  | nil => rfl
  | cons p rest ih =>
    rw [addPick?, addPick, countIn]
    by_cases hp : p.index = index
    · simp only [if_pos hp, Amount.checked, Nat.succ_le_iff]
      split <;> rfl
    · simp only [if_neg hp, ih]
      split <;> rfl

/-- One pick more is counted under its own choice only. -/
theorem countIn_addPick (index index' : Nat) (picks : List Pick) :
    countIn index' (addPick index picks) =
      countIn index' picks + if index = index' then 1 else 0 := by
  induction picks with
  | nil => simp only [addPick, countIn, Nat.zero_add]
  | cons p rest ih =>
    by_cases hp : p.index = index
    · by_cases hindex : index = index'
      · simp only [addPick, countIn, hp, hindex, if_true]
      · simp only [addPick, countIn, hp, hindex, if_true, if_false, Nat.add_zero]
    · by_cases hp' : p.index = index'
      · have hne : ¬ index = index' := fun h => hp (hp'.trans h.symm)
        simp only [addPick, countIn, if_neg hp, if_pos hp', if_neg hne, Nat.add_zero]
      · simp only [addPick, countIn, if_neg hp, if_neg hp', ih]

/-- A choice without an entry is not picked at all. -/
theorem countIn_of_notMem {picks : List Pick} (h : index ∉ picks.map Pick.index) :
    countIn index picks = 0 := by
  induction picks with
  | nil => rfl
  | cons p rest ih =>
    obtain ⟨hp, hrest⟩ := not_or.mp (mt List.mem_cons.mpr h)
    rw [countIn, if_neg (Ne.symm hp), ih hrest]

/-- A choice that is picked has an entry with its count. -/
theorem exists_mem_of_countIn_pos {picks : List Pick} (h : 0 < countIn index picks) :
    ∃ p ∈ picks, p.index = index ∧ p.count = countIn index picks := by
  induction picks with
  | nil => exact absurd h (Nat.lt_irrefl 0)
  | cons p rest ih =>
    rw [countIn] at h ⊢
    split at h
    · next hp => exact ⟨p, List.mem_cons_self, hp, (if_pos hp).symm⟩
    · next hp =>
      obtain ⟨q, hq, hindex, hcount⟩ := ih h
      exact ⟨q, List.mem_cons_of_mem p hq, hindex, by rw [if_neg hp, hcount]⟩

/-- The sheet with one pick more. -/
def add (t : Sheet) (index : Nat) : Sheet := { t with picks := addPick index t.picks }

/-- The count of a choice has room for one pick more. -/
def HasRoom (t : Sheet) (index : Nat) : Prop := countIn index t.picks < Amount.cap

instance (t : Sheet) (index : Nat) : Decidable (t.HasRoom index) :=
  inferInstanceAs (Decidable (countIn index t.picks < Amount.cap))

/-- The counts have room for a list of picks. -/
def HasRoomFor (t : Sheet) (indices : List Nat) : Prop :=
  ∀ n ∈ indices, countIn n t.picks + indices.count n ≤ Amount.cap

/-- The first pick of a list counts with the list or with the picks before it. -/
theorem countIn_add_count (t : Sheet) (n : Nat) (indices : List Nat) (index : Nat) :
    countIn index (t.add n).picks + indices.count index =
      countIn index t.picks + (n :: indices).count index := by
  rw [add, countIn_addPick, List.count_cons, beq_eq_decide]
  simp only [decide_eq_true_eq]
  omega

/-- There is room for a list where there is room for its first pick, and after it for the others. -/
theorem hasRoomFor_cons {n : Nat} {indices : List Nat} :
    t.HasRoomFor (n :: indices) ↔ t.HasRoom n ∧ (t.add n).HasRoomFor indices := by
  constructor
  · intro h
    refine ⟨?_, fun m hm => ?_⟩
    · have hfirst := h n List.mem_cons_self
      rw [List.count_cons_self] at hfirst
      exact Nat.lt_of_lt_of_le (by omega) hfirst
    · rw [countIn_add_count]
      exact h m (List.mem_cons_of_mem n hm)
  · rintro ⟨hfirst, hrest⟩ m hm
    rw [← countIn_add_count]
    by_cases hlater : m ∈ indices
    · exact hrest m hlater
    · obtain rfl := (List.mem_cons.mp hm).resolve_right hlater
      rw [List.count_eq_zero_of_not_mem hlater, add, countIn_addPick, if_pos rfl]
      exact hfirst

/-- The sheet with one pick more, or the abort where its count has no room. -/
theorem holding_addPick? (t : Sheet) (index : Nat) :
    t.holding (addPick? index t.picks) =
      if t.HasRoom index then .ok (t.add index) else .error .aborted := by
  rw [addPick?_eq]
  by_cases hroom : t.HasRoom index
  · rw [if_pos hroom, if_pos (show countIn index t.picks < Amount.cap from hroom)]
    rfl
  · rw [if_neg hroom, if_neg (show ¬ countIn index t.picks < Amount.cap from hroom)]
    rfl

/-- The sheet without the oldest pick. -/
def evict (t : Sheet) : Sheet := { t with picks := t.picks.tail }

/-- The picks stay within the number allowed. -/
def Within (t : Sheet) : Prop := t.distinctPicks ≤ t.offer.picksAllowed

instance (t : Sheet) : Decidable t.Within :=
  inferInstanceAs (Decidable (t.distinctPicks ≤ t.offer.picksAllowed))

/-- The check of the picks passes exactly where they stay within the number allowed. -/
theorem checkPicks_eq_ok_iff : t.checkPicks = .ok () ↔ t.Within := by
  rw [checkPicks, Within]
  split <;> simp_all

/-- There are as many choices picked as distinct picks. -/
theorem length_picked (t : Sheet) : t.picked.length = t.distinctPicks := List.length_map _

/-- A choice is found among the picks exactly where it is one of those picked. -/
theorem isPicked_iff : t.isPicked index = true ↔ index ∈ t.picked := by
  simp [isPicked, picked]

/-- A choice that is picked already keeps its place, another comes last. -/
theorem map_index_addPick (index : Nat) (picks : List Pick) :
    (addPick index picks).map Pick.index =
      if index ∈ picks.map Pick.index then picks.map Pick.index
      else picks.map Pick.index ++ [index] := by
  induction picks with
  | nil => rfl
  | cons p rest ih =>
    by_cases hp : p.index = index
    · simp [addPick, hp]
    · have hp' : ¬ index = p.index := fun h => hp h.symm
      rw [addPick, if_neg hp, List.map_cons, List.map_cons, ih]
      simp only [List.mem_cons, hp', false_or]
      split <;> rfl

/-- A pick of a new choice puts it last; a pick of a choice made before adds no choice. -/
theorem picked_add (t : Sheet) (index : Nat) :
    (t.add index).picked = if index ∈ t.picked then t.picked else t.picked ++ [index] :=
  map_index_addPick index t.picks

/-- Without the oldest pick, the choices picked are those after the first. -/
theorem picked_evict (t : Sheet) : t.evict.picked = t.picked.tail := List.map_tail

/-- A pick of a new choice is one distinct pick more. -/
theorem distinctPicks_add (t : Sheet) (index : Nat) :
    (t.add index).distinctPicks = t.distinctPicks + if index ∈ t.picked then 0 else 1 := by
  rw [← length_picked, ← length_picked, picked_add]
  split
  · rfl
  · rw [List.length_append, List.length_singleton]

/-- Without the oldest pick there is one distinct pick less. -/
theorem distinctPicks_evict (t : Sheet) : t.evict.distinctPicks = t.distinctPicks - 1 :=
  List.length_tail

/-- The choices picked in turn are those of the list, each where it comes first. -/
theorem picked_foldl_add (t : Sheet) (indices : List Nat) :
    (indices.foldl add t.clear).picked = indices.eraseDups := by
  induction indices using List.reverseRecOn with
  | nil => rfl
  | append_singleton indices n ih =>
    rw [List.foldl_append, List.foldl_cons, List.foldl_nil, picked_add, ih, List.eraseDups_append]
    by_cases hn : n ∈ indices <;> simp [List.removeAll, List.eraseDups_cons, hn]

/-! ## What a call leaves -/

/-- A choice is resolved exactly where it names a place and the place is on offer. -/
theorem resolve_eq_ok_iff :
    t.resolve c = .ok index ↔ t.named? c = some index ∧ index < t.gear.length := by
  rw [resolve]
  cases hfilter : (t.named? c).filter fun n => n < t.gear.length with
  | none =>
    rw [Option.filter_eq_none_iff] at hfilter
    simpa using hfilter index
  | some n =>
    rw [Option.filter_eq_some_iff, decide_eq_true_eq] at hfilter
    obtain ⟨hnamed, hn⟩ := hfilter
    rw [hnamed, Except.ok.injEq, Option.some.injEq]
    exact ⟨fun h => ⟨h, h ▸ hn⟩, And.left⟩

/-- A choice on offer is picked where there is room. Where there is none, it is refused or takes the
place of the oldest pick. -/
theorem pick_of_resolve (h : t.resolve c = .ok index) (overflow : Overflow) :
    t.pick c overflow =
      if (t.add index).Within then
        if t.HasRoom index then .ok (t.add index) else .error .aborted
      else match overflow with
        | .refuse => .error (.overselection t.offer.picksAllowed (t.add index).distinctPicks)
        | .evictOldest =>
          if t.evict.HasRoom index then .ok (t.evict.add index) else .error .aborted := by
  have hattempted : t.distinctPicks + (if t.isPicked index then 0 else 1) =
      (t.add index).distinctPicks := by
    rw [distinctPicks_add, if_congr isPicked_iff rfl rfl]
  rw [pick, h]
  dsimp only
  rw [hattempted]
  by_cases hroom : (t.add index).Within
  · have hle : ¬ (t.add index).distinctPicks > t.offer.picksAllowed := Nat.not_lt.mpr hroom
    rw [if_pos hroom, if_neg hle, holding_addPick?]
  · have hgt : (t.add index).distinctPicks > t.offer.picksAllowed := Nat.not_le.mp hroom
    rw [if_neg hroom, if_pos hgt]
    cases overflow with
    | refuse => rfl
    | evictOldest => exact t.evict.holding_addPick? index

/-- What a pick that is accepted leaves. -/
theorem pick_cases {overflow : Overflow} (h : t.pick c overflow = .ok t') :
    ∃ index, t.resolve c = .ok index ∧
      ((t.add index).Within ∧ t.HasRoom index ∧ t' = t.add index ∨
        ¬ (t.add index).Within ∧ overflow = .evictOldest ∧ t.evict.HasRoom index ∧
          t' = t.evict.add index) := by
  cases hresolve : t.resolve c with
  | error e =>
    rw [pick, hresolve] at h
    cases h
  | ok index =>
    refine ⟨index, rfl, ?_⟩
    rw [pick_of_resolve hresolve] at h
    split at h
    · next hwithin =>
      split at h <;> cases h
      next hroom => exact .inl ⟨hwithin, hroom, rfl⟩
    · next hover =>
      cases overflow with
      | refuse => cases h
      | evictOldest =>
        dsimp only at h
        split at h <;> cases h
        next hroom => exact .inr ⟨hover, rfl, hroom, rfl⟩

/-- Picking one choice after another changes nothing but the picks. -/
theorem foldl_add (t : Sheet) (indices : List Nat) :
    indices.foldl add t =
      { t with picks := indices.foldl (fun picks n => addPick n picks) t.picks } := by
  induction indices generalizing t with
  | nil => rfl
  | cons n indices ih => exact ih (t.add n)

/-- A list of picks is added if and only if there is room for it. -/
theorem foldlM_addPick?_eq_some_iff {indices : List Nat} {picks : List Pick} :
    indices.foldlM (fun picks n => addPick? n picks) t.picks = some picks ↔
      t.HasRoomFor indices ∧ picks = (indices.foldl add t).picks := by
  induction indices generalizing t with
  | nil => simp [HasRoomFor, eq_comm]
  | cons n indices ih =>
    rw [List.foldlM_cons, addPick?_eq, hasRoomFor_cons]
    by_cases hroom : t.HasRoom n
    · rw [if_pos (show countIn n t.picks < Amount.cap from hroom), and_iff_right hroom]
      exact ih (t := t.add n)
    · rw [if_neg (show ¬ countIn n t.picks < Amount.cap from hroom)]
      simp [hroom]

/-- A list is picked as it is if every choice of it is on offer and its count has room. -/
theorem pickList_eq_ok_iff {indices : List Nat} :
    t.pickList indices = .ok t' ↔
      (∀ n ∈ indices, n < t.gear.length) ∧ t.clear.HasRoomFor indices ∧
        t' = indices.foldl add t.clear := by
  rw [pickList]
  cases hfind : indices.find? fun n => t.gear.length ≤ n with
  | none =>
    simp only [List.find?_eq_none, decide_eq_true_eq, Nat.not_le] at hfind
    dsimp only
    rw [holding_eq_ok_iff]
    constructor
    · rintro ⟨picks, hpicks, rfl⟩
      obtain ⟨hroom, rfl⟩ := (foldlM_addPick?_eq_some_iff (t := t.clear)).mp hpicks
      exact ⟨hfind, hroom, by rw [foldl_add]; rfl⟩
    · rintro ⟨-, hroom, rfl⟩
      exact ⟨_, (foldlM_addPick?_eq_some_iff (t := t.clear)).mpr ⟨hroom, rfl⟩, by
        rw [foldl_add]; rfl⟩
  | some n =>
    have hn : t.gear.length ≤ n := by simpa using List.find?_some hfind
    constructor
    · intro h
      cases h
    · rintro ⟨hoffered, -⟩
      exact absurd (hoffered n (List.mem_of_find?_eq_some hfind)) (Nat.not_lt.mpr hn)

/-! ## Histories of calls -/

/-- The sheet after a call; one that is refused changes nothing, and nothing comes of one that
aborts. -/
def after (t : Sheet) (c : Call) : Sheet :=
  match c.answer t with
  | .ok t' => t'
  | .error _ => t

/-- The sheet after a history of calls. -/
def run (t : Sheet) (calls : List Call) : Sheet := calls.foldl after t

/-- A history of one call more goes on with that call. -/
theorem run_append_singleton (t : Sheet) (calls : List Call) (c : Call) :
    t.run (calls ++ [c]) = (t.run calls).after c := List.foldl_append

/-- A call on a sheet changes its picks only. -/
theorem Marked.after (h : Marked s t) (c : Call) : Marked s (t.after c) := by
  unfold Sheet.after
  split
  · next hc => exact .mark c h hc
  · exact h

/-- A history of calls on a sheet changes its picks only. -/
theorem marked_run (s : Sheet) (calls : List Call) : Marked s (s.run calls) := by
  induction calls using List.reverseRecOn with
  | nil => exact .unmarked
  | append_singleton calls c ih =>
    rw [run_append_singleton]
    exact ih.after c

/-- What single picks keep, a list of picks keeps, where there is room to count them. -/
theorem keep_foldl_add {P : Sheet → Prop}
    (hadd : ∀ {t : Sheet} {index : Nat}, index < t.gear.length → t.HasRoom index → P t →
      P (t.add index))
    {indices : List Nat} (hindices : ∀ n ∈ indices, n < t.gear.length)
    (hroom : t.HasRoomFor indices) (ht : P t) : P (indices.foldl add t) := by
  induction indices generalizing t with
  | nil => exact ht
  | cons n indices ih =>
    obtain ⟨hn, hrest⟩ := List.forall_mem_cons.mp hindices
    obtain ⟨hfirst, hlater⟩ := hasRoomFor_cons.mp hroom
    exact ih hrest hlater (hadd hn hfirst ht)

/-- A call picks choices on offer one by one, takes out the oldest pick or starts anew. What none of
this takes away from a sheet, no history does. -/
theorem Marked.keep {P : Sheet → Prop} (hnone : ∀ t : Sheet, t.picks = [] → P t)
    (hadd : ∀ {t : Sheet} {index : Nat}, index < t.gear.length → t.HasRoom index → P t →
      P (t.add index))
    (hevict : ∀ {t : Sheet}, P t → P t.evict) (hs : P s) (h : Marked s t) : P t := by
  induction h with
  | unmarked => exact hs
  | mark c _ hc ih =>
    cases c with
    | pick c overflow =>
      obtain ⟨index, hresolve, hpick⟩ := pick_cases hc
      obtain ⟨-, hindex⟩ := resolve_eq_ok_iff.mp hresolve
      obtain ⟨-, hroom, rfl⟩ | ⟨-, -, hroom, rfl⟩ := hpick
      · exact hadd hindex hroom ih
      · exact hadd hindex hroom (hevict ih)
    | pickList indices =>
      obtain ⟨hindices, hroom, rfl⟩ := pickList_eq_ok_iff.mp hc
      exact keep_foldl_add hadd hindices hroom (hnone _ rfl)
    | clear =>
      cases hc
      exact hnone _ rfl

/-- No choice is picked under two entries, and all choices picked are on offer. -/
structure Proper (t : Sheet) : Prop where
  nodup : t.picked.Nodup
  offered : ∀ i ∈ t.picked, i < t.gear.length

/-- A sheet without picks is proper. -/
theorem proper_of_picks_eq_nil (h : t.picks = []) : t.Proper := by
  have hpicked : t.picked = [] := by rw [picked, h]; rfl
  exact ⟨by simp [hpicked], by simp [hpicked]⟩

/-- A pick of a choice on offer leaves a sheet proper. -/
theorem Proper.add (h : t.Proper) (hindex : index < t.gear.length) : (t.add index).Proper := by
  by_cases hmem : index ∈ t.picked
  · have hpicked : (t.add index).picked = t.picked := by rw [picked_add, if_pos hmem]
    exact ⟨hpicked ▸ h.nodup, hpicked ▸ h.offered⟩
  · have hpicked : (t.add index).picked = t.picked.concat index := by
      rw [picked_add, if_neg hmem, List.concat_eq_append]
    refine ⟨hpicked ▸ h.nodup.concat hmem, fun i hi => ?_⟩
    rw [hpicked, List.concat_eq_append, List.mem_append, List.mem_singleton] at hi
    rcases hi with hi | rfl
    · exact h.offered i hi
    · exact hindex

/-- Without the oldest pick a proper sheet stays proper. -/
theorem Proper.evict (h : t.Proper) : t.evict.Proper where
  nodup := by
    rw [picked_evict]
    exact h.nodup.tail
  offered := by
    rw [picked_evict]
    exact fun i hi => h.offered i (List.mem_of_mem_tail hi)

/-- Picking on a proper sheet leaves it proper. -/
theorem Marked.proper (hs : s.Proper) (h : Marked s t) : t.Proper :=
  h.keep (fun _ => proper_of_picks_eq_nil) (fun hindex _ h => h.add hindex) Proper.evict hs

/-- There are never more different picks than choices. -/
theorem Proper.distinctPicks_le (h : t.Proper) : t.distinctPicks ≤ t.gear.length := by
  have hsub : t.picked ⊆ List.range t.gear.length :=
    fun i hi => List.mem_range.mpr (h.offered i hi)
  have hle := h.nodup.length_le_of_subset hsub
  rwa [length_picked, List.length_range] at hle

/-! ## The number of picks allowed -/

/-- A pick that is not to replace another one stays within the number allowed where it succeeds. -/
theorem within_of_pick_refuse (h : t.pick c .refuse = .ok t') : t'.Within := by
  obtain ⟨index, -, ⟨hwithin, -, rfl⟩ | ⟨-, heq, -⟩⟩ := pick_cases h
  · exact hwithin
  · cases heq

/-- A pick that may take the place of the oldest one keeps to the number allowed if and only if the
picks did before, or one was too many and the choice is among the picks that stay. -/
theorem within_of_pick_evictOldest_iff (hallowed : 1 ≤ t.offer.picksAllowed)
    (h : t.resolve c = .ok index) (hpick : t.pick c .evictOldest = .ok t') :
    t'.Within ↔ t.Within ∨
      t.distinctPicks = t.offer.picksAllowed + 1 ∧ index ∈ t.picked.tail := by
  obtain ⟨index', hresolve, hcases⟩ := pick_cases hpick
  obtain rfl : index = index' := Except.ok.inj (h.symm.trans hresolve)
  obtain ⟨hwithin, -, rfl⟩ | ⟨hover, -, -, rfl⟩ := hcases
  · -- nothing has to make room
    have hbefore : t.Within := Nat.le_trans (by rw [distinctPicks_add]; omega) hwithin
    exact iff_of_true hwithin (.inl hbefore)
  · -- one pick goes and one comes, unless the choice is among those that stay
    change (t.evict.add index).distinctPicks ≤ t.offer.picksAllowed ↔ _
    have hfull : ¬ (t.add index).distinctPicks ≤ t.offer.picksAllowed := hover
    rw [distinctPicks_add] at hfull
    rw [distinctPicks_add, distinctPicks_evict, picked_evict, Within]
    by_cases htail : index ∈ t.picked.tail
    · rw [if_pos htail]
      rw [if_pos (List.mem_of_mem_tail htail)] at hfull
      simp only [htail, and_true]
      omega
    · rw [if_neg htail]
      simp only [htail, and_false, or_false]
      split at hfull <;> omega

/-- A choice on offer is picked where the oldest pick may make room, unless its count is full. -/
theorem pick_evictOldest_cases (h : t.resolve c = .ok index) :
    (∃ t', t.pick c .evictOldest = .ok t') ∨
      t.pick c .evictOldest = .error .aborted ∧
        ∃ p ∈ t.picks, p.index = index ∧ Amount.cap ≤ p.count := by
  have hfull {picks : List Pick} (h : ¬ countIn index picks < Amount.cap) :
      ∃ p ∈ picks, p.index = index ∧ Amount.cap ≤ p.count := by
    have hcap : Amount.cap ≤ countIn index picks := Nat.not_lt.mp h
    obtain ⟨p, hp, hindex, hcount⟩ :=
      exists_mem_of_countIn_pos (Nat.lt_of_lt_of_le (by decide) hcap)
    exact ⟨p, hp, hindex, hcount ▸ hcap⟩
  rw [pick_of_resolve h]
  dsimp only
  split
  · split
    · exact .inl ⟨_, rfl⟩
    · next hroom => exact .inr ⟨rfl, hfull hroom⟩
  · split
    · exact .inl ⟨_, rfl⟩
    · next hroom =>
      obtain ⟨p, hp, hcount⟩ := hfull hroom
      exact .inr ⟨rfl, p, List.mem_of_mem_tail hp, hcount⟩

/-- Only a list with too many choices goes beyond the number allowed where the picks are within
it. -/
theorem Within.answer (h : t.Within) (hallowed : 1 ≤ t.offer.picksAllowed) {c : Call}
    (hlist : ∀ indices, c = .pickList indices → indices.eraseDups.length ≤ t.offer.picksAllowed)
    (hc : c.answer t = .ok t') : t'.Within := by
  cases c with
  | pick c overflow =>
    cases overflow with
    | refuse => exact within_of_pick_refuse hc
    | evictOldest =>
      have hpick : t.pick c .evictOldest = .ok t' := hc
      obtain ⟨index, hresolve, -⟩ := pick_cases hpick
      exact (within_of_pick_evictOldest_iff hallowed hresolve hpick).mpr (.inl h)
  | pickList indices =>
    have hoffer := offer_answer hc
    obtain ⟨-, -, rfl⟩ := pickList_eq_ok_iff.mp hc
    rw [Within, hoffer, ← length_picked, picked_foldl_add]
    exact hlist indices rfl
  | clear =>
    cases hc
    exact Nat.zero_le _

/-- A history stays within the number allowed if its lists do. -/
theorem Within.run (h : s.Within) (hallowed : 1 ≤ s.offer.picksAllowed) {calls : List Call}
    (hlists : ∀ indices, .pickList indices ∈ calls →
      indices.eraseDups.length ≤ s.offer.picksAllowed) : (s.run calls).Within := by
  induction calls using List.reverseRecOn with
  | nil => exact h
  | append_singleton calls c ih =>
    have hoffer := (marked_run s calls).offer_eq
    have hbefore : (s.run calls).Within :=
      ih fun indices hmem => hlists indices (List.mem_append_left _ hmem)
    rw [run_append_singleton, after]
    split
    · next t hc =>
      refine hbefore.answer (hoffer ▸ hallowed) (fun indices heq => ?_) hc
      rw [hoffer]
      exact hlists indices (List.mem_append_right _ (heq ▸ List.mem_singleton_self _))
    · exact hbefore

/-- A list can pick all choices. -/
theorem exists_run_full (s : Sheet) : ∃ calls, s.gear.length ≤ (s.run calls).distinctPicks := by
  let all := List.range s.gear.length
  have hroom : s.clear.HasRoomFor all := by
    intro n _
    have honce : all.count n ≤ 1 := List.nodup_iff_count_le_one.mp List.nodup_range n
    change 0 + all.count n ≤ Amount.cap
    have hcap : 1 ≤ Amount.cap := by decide
    omega
  have hlist : s.pickList all = .ok (all.foldl add s.clear) :=
    pickList_eq_ok_iff.mpr ⟨fun _ => List.mem_range.mp, hroom, rfl⟩
  have hrun : s.run [.pickList all] = all.foldl add s.clear := by
    change s.after (.pickList all) = _
    rw [after, Call.answer, hlist]
  have hsub : all ⊆ all.eraseDups := fun _ => List.mem_eraseDups.mpr
  refine ⟨[.pickList all], ?_⟩
  rw [hrun, ← length_picked, picked_foldl_add]
  simpa [all] using List.nodup_range.length_le_of_subset hsub

/-- Where all choices are picked and that is more than is allowed, the oldest pick makes room for
itself. -/
theorem exists_pick_not_within (hproper : s.Proper) (hallowed : 1 ≤ s.offer.picksAllowed)
    (hmany : s.offer.picksAllowed < s.gear.length) :
    ∃ calls c t, (s.run calls).pick c .evictOldest = .ok t ∧ ¬ t.Within := by
  obtain ⟨calls, hfull⟩ := exists_run_full s
  have hmarked := marked_run s calls
  have hoffer := hmarked.offer_eq
  obtain ⟨hnodup, hoffered⟩ := hmarked.proper hproper
  generalize hsheet : s.run calls = t at hfull hoffer hnodup hoffered
  cases hpicked : t.picked with
  | nil =>
    rw [← length_picked, hpicked] at hfull
    exact absurd (Nat.lt_of_lt_of_le hmany hfull) (Nat.not_lt_zero _)
  | cons oldest rest =>
    rw [hpicked] at hnodup hoffered
    have hresolve : t.resolve (.index oldest) = .ok oldest :=
      resolve_eq_ok_iff.mpr ⟨rfl, hoffered oldest List.mem_cons_self⟩
    have hgone : oldest ∉ t.evict.picked := by
      rw [picked_evict, hpicked]
      exact (List.nodup_cons.mp hnodup).1
    have hroom : t.evict.HasRoom oldest := by
      rw [HasRoom, countIn_of_notMem hgone]
      decide
    have hover : ¬ (t.add oldest).Within := by
      change ¬ (t.add oldest).distinctPicks ≤ t.offer.picksAllowed
      rw [distinctPicks_add, hoffer]
      omega
    have hpick : t.pick (.index oldest) .evictOldest = .ok (t.evict.add oldest) := by
      rw [pick_of_resolve hresolve, if_neg hover]
      exact if_pos hroom
    refine ⟨calls, .index oldest, t.evict.add oldest, hsheet ▸ hpick, fun hwithin => ?_⟩
    rw [within_of_pick_evictOldest_iff (hoffer ▸ hallowed) hresolve hpick, ← picked_evict, Within,
      hoffer] at hwithin
    rcases hwithin with hle | ⟨-, hmem⟩
    · exact Nat.not_lt.mpr (Nat.le_trans hfull hle) hmany
    · exact hgone hmem

/-- A sheet that is read has the offer of its clause and no picks. -/
theorem offer_of_read {a : Arsenal} {clause : String} {b : Bearer} (h : read a clause b = .ok s) :
    Offer.read a clause = .ok s.offer ∧ s.picks = [] := by
  unfold read at h
  split at h
  · cases h
  · next o hread =>
    cases h
    exact ⟨hread, rfl⟩

/-- A sheet that has been read allows a pick and has none. -/
theorem fresh_of_read {a : Arsenal} {clause : String} {b : Bearer} (h : read a clause b = .ok s) :
    1 ≤ s.offer.picksAllowed ∧ s.picks = [] := by
  obtain ⟨hread, hpicks⟩ := offer_of_read h
  exact ⟨(Offer.one_le_of_read hread).1, hpicks⟩

/-- After any history of calls on a sheet that has been read, a pick that is refused beyond the
number allowed keeps to it. A pick that takes the place of the oldest one keeps to it if and only if
the picks did before, or one was too many and the choice is among those that stay; it aborts only
where the count of the choice is full. Histories without lists of too many choices keep to the number
allowed; all histories do if and only if there are not more choices than picks allowed. -/
theorem checkPicks_pick_run {a : Arsenal} {clause : String} {b : Bearer}
    (h : read a clause b = .ok s) :
    (∀ calls c t, (s.run calls).pick c .refuse = .ok t → t.checkPicks = .ok ()) ∧
      (∀ calls c index, (s.run calls).resolve c = .ok index →
        (∃ t, (s.run calls).pick c .evictOldest = .ok t ∧
          (t.checkPicks = .ok () ↔ (s.run calls).checkPicks = .ok () ∨
            (s.run calls).distinctPicks = s.offer.picksAllowed + 1 ∧
              index ∈ (s.run calls).picked.tail)) ∨
        (s.run calls).pick c .evictOldest = .error .aborted ∧
          ∃ p ∈ (s.run calls).picks, p.index = index ∧ Amount.cap ≤ p.count) ∧
      (∀ calls, (∀ indices, .pickList indices ∈ calls →
        indices.eraseDups.length ≤ s.offer.picksAllowed) → (s.run calls).checkPicks = .ok ()) ∧
      ((∀ calls c overflow t, (s.run calls).pick c overflow = .ok t → t.checkPicks = .ok ()) ↔
        s.gear.length ≤ s.offer.picksAllowed) := by
  obtain ⟨hallowed, hpicks⟩ := fresh_of_read h
  have hoffer : ∀ calls, (s.run calls).offer = s.offer := fun calls => (marked_run s calls).offer_eq
  simp only [checkPicks_eq_ok_iff]
  refine ⟨fun _ _ _ => within_of_pick_refuse, fun calls c index hresolve => ?_,
    fun calls hlists => ?_, fun hall => ?_, fun hfew calls c overflow t hpick => ?_⟩
  · rw [← hoffer calls]
    exact (pick_evictOldest_cases hresolve).imp_left fun ⟨t, hpick⟩ =>
      ⟨t, hpick, within_of_pick_evictOldest_iff (hoffer calls ▸ hallowed) hresolve hpick⟩
  · have hstart : s.Within := by
      rw [Within, distinctPicks, hpicks]
      exact Nat.zero_le _
    exact hstart.run hallowed hlists
  · by_contra hmany
    obtain ⟨calls, c, t, hpick, hover⟩ :=
      exists_pick_not_within (proper_of_picks_eq_nil hpicks) hallowed (Nat.not_le.mp hmany)
    exact hover (hall calls c .evictOldest t hpick)
  · have hmarked : Marked s t := .mark (.pick c overflow) (marked_run s calls) hpick
    have hle := (hmarked.proper (proper_of_picks_eq_nil hpicks)).distinctPicks_le
    rw [gear, hmarked.offer_eq] at hle
    rw [Within, hmarked.offer_eq]
    exact Nat.le_trans hle hfew

/-- An option for one of three choices keeps to one pick after a history without lists of two. -/
theorem checkPicks_pick_run_drill :
    let s := Guards.drillSheet "Axe/Bow/2*Axe"
      [Guards.axe, Guards.bow, .item ⟨"Axe", 2, 3, .melee⟩] []
    read (Guards.drill 5 [] "Axe/Bow/2*Axe").arsenal "Axe/Bow/2*Axe" ⟨[], .squad⟩ = .ok s ∧
      (∀ calls c t, (s.run calls).pick c .refuse = .ok t → t.checkPicks = .ok ()) ∧
      (∀ calls, (∀ indices, .pickList indices ∈ calls → indices.eraseDups.length ≤ 1) →
        (s.run calls).checkPicks = .ok ()) ∧
      ¬ ∀ calls c overflow t, (s.run calls).pick c overflow = .ok t → t.checkPicks = .ok () := by
  intro s
  have hread : read (Guards.drill 5 [] "Axe/Bow/2*Axe").arsenal "Axe/Bow/2*Axe" ⟨[], .squad⟩ =
      .ok s := by
    with_unfolding_all rfl
  obtain ⟨hrefuse, -, hlists, hall⟩ := checkPicks_pick_run hread
  exact ⟨hread, hrefuse, hlists, fun h => absurd (hall.mp h) (by decide)⟩

/-- Of two picks where one is allowed the older makes room for a third, so there are two again. -/
theorem checkPicks_pick_list_drill :
    let s := Guards.drillSheet "Axe/Bow/2*Axe"
      [Guards.axe, Guards.bow, .item ⟨"Axe", 2, 3, .melee⟩] []
    read (Guards.drill 5 [] "Axe/Bow/2*Axe").arsenal "Axe/Bow/2*Axe" ⟨[], .squad⟩ = .ok s ∧
      ∃ t, (s.run [.pickList [0, 1]]).pick (.index 2) .evictOldest = .ok t ∧
        t.checkPicks = .error (.overselection 1 2) := by
  intro s
  exact ⟨by with_unfolding_all rfl, _, rfl, rfl⟩

end Sheet

/-! ## Picking by letter -/

/-- A line shows the choice in its place, with the letter of the place. -/
theorem Offer.getElem?_linesFrom (exchanged : Option Gear) (index i : Nat) (gs : List Gear) :
    (linesFrom exchanged index gs)[i]? = (gs[i]?).map fun g =>
      ⟨letterAt (index + i), g.label, g.cost,
        exchanged.map fun x => (g.cost : Int) - (x.cost : Int)⟩ := by
  induction gs generalizing index i with
  | nil => rfl
  | cons g gs ih =>
    rw [linesFrom]
    cases i with
    | zero => rfl
    | succ i =>
      rw [List.getElem?_cons_succ, List.getElem?_cons_succ, ih, Nat.add_right_comm]
      rfl

namespace Sheet

variable {s t : Sheet} {c : Choice} {index : Nat}

/-- A copy of a sheet with one choice picked once and nothing else. -/
def once (t : Sheet) (index : Nat) : Sheet := { t with picks := [⟨index, 1⟩] }

/-- That is what picking a choice on offer gives on a sheet without picks. -/
theorem pick_eq_once (hpicks : t.picks = []) (hallowed : 1 ≤ t.offer.picksAllowed)
    (h : t.resolve c = .ok index) (overflow : Overflow) :
    t.pick c overflow = .ok (t.once index) := by
  have hadd : t.add index = t.once index := by
    rw [add, hpicks]
    rfl
  have hroom : t.HasRoom index := by
    rw [HasRoom, hpicks]
    exact (show 0 < Amount.cap by decide)
  rw [pick_of_resolve h, hadd, if_pos hroom]
  exact if_pos hallowed

/-- A pick on a cleared sheet picks that choice once and nothing else. -/
theorem pick_clear_eq_once (hindex : index < t.gear.length) (hpicks : 1 ≤ t.offer.picksAllowed)
    (overflow : Overflow) : t.clear.pick (.index index) overflow = .ok (t.once index) := by
  have hallowed : 1 ≤ t.clear.offer.picksAllowed := hpicks
  have hresolve : t.clear.resolve (.index index) = .ok index :=
    resolve_eq_ok_iff.mpr ⟨rfl, hindex⟩
  exact pick_eq_once rfl hallowed hresolve overflow

/-- One choice picked once selects the piece on offer there. -/
theorem selected_once {g : Gear} (h : t.gear[index]? = some g) : (t.once index).selected = [g] := by
  have hgear : (t.once index).gear[index]? = some g := h
  have hpicked : (t.once index).gearOf? ⟨index, 1⟩ = some g := by simp [gearOf?, hgear]
  change [Pick.mk index 1].filterMap (t.once index).gearOf? = [g]
  rw [List.filterMap_cons_some hpicked]
  rfl

/-- The letter that a choice is shown with picks this choice, up to `z`. The characters that later
choices are shown with pick nothing. -/
theorem pick_letter_shown {a : Arsenal} {clause : String} {b b' : Bearer} {place : Nat}
    {line : Line} (h : read a clause b = .ok s)
    (hline : (s.listing place b').choices[index]? = some line) :
    s.pick (.letter line.letter) .refuse =
      if index < 26 then .ok (s.once index) else .error (.notOffered (.letter line.letter)) := by
  obtain ⟨hallowed, hpicks⟩ := fresh_of_read h
  change (Offer.linesFrom _ 0 s.gear)[index]? = some line at hline
  rw [Offer.getElem?_linesFrom, Option.map_eq_some_iff, Nat.zero_add] at hline
  obtain ⟨g, hg, rfl⟩ := hline
  obtain ⟨hindex, -⟩ := List.getElem?_eq_some_iff.mp hg
  split
  · next hz =>
    have hresolve : s.resolve (.letter (Offer.letterAt index)) = .ok index :=
      resolve_eq_ok_iff.mpr ⟨Offer.letterIndex?_letterAt hz, hindex⟩
    exact pick_eq_once hpicks hallowed hresolve .refuse
  · next hz =>
    have hnone : s.named? (.letter (Offer.letterAt index)) = none :=
      Offer.letterIndex?_letterAt_of_le (Nat.not_lt.mp hz)
    rw [pick, resolve, hnone]
    rfl

/-- The second of two choices is picked as `b`. -/
theorem pick_letter_shown_drill :
    let s := Guards.drillSheet "Axe/Bow" [Guards.axe, Guards.bow] []
    read (Guards.drill 5 [] "Axe/Bow").arsenal "Axe/Bow" ⟨[], .squad⟩ = .ok s ∧
      (s.listing 0 ⟨[], .model⟩).choices[1]? = some ⟨'b', "Bow", 5, none⟩ ∧
      s.pick (.letter 'b') .refuse = .ok (s.once 1) := by
  intro s
  have hread : read (Guards.drill 5 [] "Axe/Bow").arsenal "Axe/Bow" ⟨[], .squad⟩ = .ok s := by
    with_unfolding_all rfl
  have hline : (s.listing 0 ⟨[], .model⟩).choices[1]? = some ⟨'b', "Bow", 5, none⟩ := by decide
  exact ⟨hread, hline, pick_letter_shown hread hline⟩

/-- A clause with one choice more than there are letters. -/
def manyChoices : String := "A/A/A/A/A/A/A/A/A/A/A/A/A/A/A/A/A/A/A/A/A/A/A/A/A/A/A"

/-- The last of 27 choices is shown with a brace, which names none of them. -/
theorem pick_letter_after_z :
    let s := Guards.drillSheet manyChoices (List.replicate 27 (.item ⟨"A", 1, 1, .melee⟩)) []
    let brace := Char.ofNat 123
    read (Arsenal.empty.insert "A" 1 .melee) manyChoices ⟨[], .squad⟩ = .ok s ∧
      (s.listing 0 ⟨[], .squad⟩).choices[26]? = some ⟨brace, "A", 1, none⟩ ∧
      s.pick (.letter brace) .refuse = .error (.notOffered (.letter brace)) := by
  intro s brace
  exact ⟨by with_unfolding_all rfl, by decide, by decide⟩

end Sheet

end Muster
