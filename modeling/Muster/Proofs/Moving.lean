import Muster.Proofs.Points
import Muster.Proofs.Steps

/-!
# Moving models

An option for some models moves models between the lead group and one other group: the one that
carries the selection already, or a new one that comes last. No model comes or goes, and nothing
else about the groups changes. Groups without models are dropped at the end, but there never are
any: outside the lead group every group has models, and the one that carries the selection is always
to have some.
-/

namespace Muster.Squad

variable {s s' : Squad} {t : Sheet}

/-- The second squad is the first with `n` models gone from the lead group to one other group, which
was there or comes last. Where `n` is negative, models have come back. -/
inductive Moves (n : Int) (s s' : Squad) : Prop where
  | nowhere : n = 0 → s'.lead = s.lead → s'.others = s.others → Moves n s s'
  | toPresent (i leadCount count : Nat) (hi : i < s.others.length) :
      s'.lead = { s.lead with count := leadCount } →
      s'.others = s.others.set i { s.others[i] with count } →
      (leadCount : Int) = s.lead.count - n → (count : Int) = s.others[i].count + n → Moves n s s'
  | toNew (g : Group) (leadCount : Nat) :
      s'.lead = { s.lead with count := leadCount } → s'.others = s.others ++ [g] →
      (leadCount : Int) = s.lead.count - n → (g.count : Int) = n → Moves n s s'

/-! ## No model comes or goes -/

/-- The models of two lists of groups are those of both. -/
theorem headcount_append (gs hs : List Group) :
    headcount (gs ++ hs) = headcount gs + headcount hs := by
  simp [headcount]

/-- Another group in a place changes the total by the difference. -/
theorem headcount_set (gs : List Group) (i : Nat) (g : Group) (hi : i < gs.length) :
    headcount (gs.set i g) + gs[i].count = headcount gs + g.count := by
  induction gs generalizing i with
  | nil => simp at hi
  | cons h gs ih =>
    cases i with
    | zero =>
      simp only [List.set_cons_zero, List.getElem_cons_zero, headcount_cons]
      omega
    | succ i =>
      have hrest := ih i (by simpa using hi)
      simp only [List.set_cons_succ, List.getElem_cons_succ, headcount_cons]
      omega

/-- Moving models keeps the size. -/
theorem Moves.size_eq {n : Int} (h : Moves n s s') : s'.size = s.size := by
  have hothers (s : Squad) : s.othersCount = headcount s.others := rfl
  rw [Squad.size_eq, Squad.size_eq, hothers, hothers]
  cases h with
  | nowhere _ hlead hothers' => rw [hlead, hothers']
  | toPresent i leadCount count hi hlead hothers' hleave harrive =>
    have hset := headcount_set s.others i { s.others[i] with count } hi
    rw [hlead, hothers']
    dsimp only at hset ⊢
    omega
  | toNew g leadCount hlead hothers' hleave harrive =>
    have hone : headcount [g] = g.count := rfl
    rw [hlead, hothers', headcount_append, hone]
    dsimp only
    omega

/-- Bringing the points up to date makes no difference to the models that have moved. -/
theorem Moves.refresh {n : Int} (h : Moves n s s') : Moves n s s'.refresh := by
  cases h with
  | nowhere hn hlead hothers => exact .nowhere hn hlead hothers
  | toPresent i leadCount count hi hlead hothers hleave harrive =>
    exact .toPresent i leadCount count hi hlead hothers hleave harrive
  | toNew g leadCount hlead hothers hleave harrive =>
    exact .toNew g leadCount hlead hothers hleave harrive

/-! ## Carving moves models -/

/-- The group that carries the selection is to have some models. -/
theorem target_pos {existing : Option Nat} {current target : Nat}
    (h : s.target t existing current = .ok target) : 0 < target := by
  unfold Squad.target at h
  split at h
  · obtain ⟨-, rfl⟩ := register_eq_ok_iff.mp h
    exact Nat.succ_pos current
  · dsimp only at h
    split at h
    · cases h
    · next hleft =>
      cases h
      omega

/-- An option for any model asks for one model more, if a register has room for it. -/
theorem target_of_perModel (hper : t.offer.perModel = true) (existing : Option Nat)
    (current : Nat) : s.target t existing current = SquadError.register (current + 1) := if_pos hper

/-- An option aborts only over one model more in a group that is full. -/
theorem full_of_target_aborted {existing : Option Nat} {current : Nat}
    (h : s.target t existing current = .error .aborted) :
    t.offer.perModel = true ∧ Amount.cap ≤ current := by
  unfold Squad.target at h
  split at h
  · next hper => exact ⟨hper, Nat.le_of_lt_succ (register_eq_error_iff.mp h).1⟩
  · dsimp only at h
    split at h <;> cases h

/-- Of groups that all have models none is dropped for having none. -/
theorem filter_manned {gs : List Group} (h : ∀ g ∈ gs, 0 < g.count) :
    gs.filter (fun g => g.count > 0) = gs :=
  List.filter_eq_self.mpr fun g hg => decide_eq_true (h g hg)

section Regroup

variable {g : Group} {count : Nat}

/-- Where all groups have models, none is dropped when models move to a new group. -/
theorem others_regroup_none (hmanned : ∀ g ∈ s.others, 0 < g.count) (leadCount : Nat)
    (hpos : 0 < count) :
    (s.regroup none g leadCount count).others = s.others ++ [{ g with count }] := by
  refine filter_manned fun k hk => ?_
  rcases List.mem_append.mp hk with hold | hnew
  · exact hmanned k hold
  · rw [List.mem_singleton.mp hnew]
    exact hpos

/-- Nor is one when they move to a group that is there. -/
theorem others_regroup_some (hmanned : ∀ g ∈ s.others, 0 < g.count) (leadCount : Nat) {i : Nat}
    (hi : i < s.others.length) (hpos : 0 < count) :
    (s.regroup (some i) g leadCount count).others =
      s.others.set i { s.others[i] with count } := by
  change (s.others.modify i _).filter _ = _
  rw [List.modify_eq_set_get _ hi]
  refine filter_manned fun k hk => ?_
  rcases List.mem_or_eq_of_mem_set hk with hold | rfl
  · exact hmanned k hold
  · exact hpos

/-- A group that keeps its number of models is left as it is. -/
theorem regroup_eq_self (hmanned : ∀ g ∈ s.others, 0 < g.count) {i : Nat}
    (h : s.existing? g = some i) :
    s.regroup (some i) g s.lead.count (s.currentCount (some i)) = s := by
  obtain ⟨hi, -, -⟩ := List.findIdx?_eq_some_iff_getElem.mp h
  have hcurrent : s.currentCount (some i) = s.others[i].count := by simp [currentCount, hi]
  have hpos : 0 < s.others[i].count := hmanned _ (List.getElem_mem hi)
  have hothers := others_regroup_some (g := g) hmanned s.lead.count hi hpos
  have hsame : { s.others[i] with count := s.others[i].count } = s.others[i] := rfl
  rw [hsame, List.set_getElem_self] at hothers
  rw [hcurrent]
  change { s with
    lead := { s.lead with count := s.lead.count }
    others := (s.regroup (some i) g s.lead.count s.others[i].count).others } = s
  rw [hothers]

end Regroup

/-- Models move in whole numbers, some out of the lead group and some back into it. -/
theorem moves_regroup (hmanned : ∀ g ∈ s.others, 0 < g.count) {g : Group}
    {existing : Option Nat} {moved returned : Nat} (hexisting : existing = s.existing? g)
    (hmoved : moved ≤ s.lead.count) (hreturned : returned ≤ s.currentCount existing)
    (hpos : 0 < s.currentCount existing + moved - returned) :
    Moves ((moved : Int) - returned) s (s.regroup existing g (s.lead.count - moved + returned)
      (s.currentCount existing + moved - returned)) := by
  cases existing with
  | none =>
    have hcurrent : s.currentCount none = 0 := rfl
    rw [hcurrent] at hpos hreturned ⊢
    exact .toNew { g with count := 0 + moved - returned } _ rfl
      (others_regroup_none hmanned _ hpos) (by omega) (by dsimp only; omega)
  | some i =>
    obtain ⟨hi, -, -⟩ := List.findIdx?_eq_some_iff_getElem.mp hexisting.symm
    have hcurrent : s.currentCount (some i) = s.others[i].count := by simp [currentCount, hi]
    rw [hcurrent] at hpos hreturned ⊢
    exact .toPresent i _ (s.others[i].count + moved - returned) hi rfl
      (others_regroup_some hmanned _ hi hpos) (by omega) (by omega)

/-- A carving that succeeds moves models and keeps the base gear; an option for any model moves one
if it changes anything. -/
theorem moves_of_carved (hmanned : ∀ g ∈ s.others, 0 < g.count) (h : Carved s t s') :
    s'.gear = s.gear ∧ ∃ n, Moves n s s' ∧ (t.offer.perModel = true → s' ≠ s → n = 1) := by
  cases h with
  | kept => exact ⟨rfl, 0, .nowhere rfl rfl rfl, fun _ hne => absurd rfl hne⟩
  | @regrouped existing current target moved returned _ hexisting hcurrent htarget hmoved hreturned
      hsome =>
    -- models come back from the group only down to the number that it is to have
    have hwanted := target_pos htarget
    have hpos : 0 < current + moved - returned := by omega
    refine ⟨rfl, (moved : Int) - returned, ?_, fun hper _ => ?_⟩
    · rw [hcurrent] at hpos ⊢
      exact moves_regroup hmanned hexisting (by omega) (by omega) hpos
    · rw [target_of_perModel hper] at htarget
      obtain ⟨-, hone⟩ := register_eq_ok_iff.mp htarget
      have := hsome (by omega)
      omega

/-! ## The law -/

/-- The points of a reachable squad are up to date. -/
theorem Reachable.upToDate {x : Codex} (h : Reachable x s) : s.UpToDate := by
  obtain ⟨role, unit, s₀, calls, hmuster, rfl⟩ := h
  exact upToDate_run (upToDate_muster hmuster) calls

/-- Points that are up to date are left as they are. -/
theorem UpToDate.refresh_eq (h : s.UpToDate) : s.refresh = s := by
  unfold Squad.refresh
  rw [← h]

/-- Bringing the points up to date is no change by itself. -/
theorem UpToDate.ne_of_refresh_ne (h : s.UpToDate) (hchanged : s'.refresh ≠ s) : s' ≠ s := by
  intro hsame
  rw [hsame, h.refresh_eq] at hchanged
  exact hchanged rfl

/-- What an option does to the groups of a squad that stands. -/
theorem moves_of_equipped {x : Codex} {u : UnitTemplate} (hstanding : Standing x u s)
    (hcurrent : s.UpToDate) (h : Equipped s t s') :
    (¬ s.SetsApart t → s'.groups = s.groups) ∧
      (s.SetsApart t → s'.gear = s.gear ∧
        ∃ n, Moves n s s' ∧ (t.offer.perModel = true → s' ≠ s → n = 1)) := by
  cases h with
  | unpicked =>
    exact ⟨fun _ => rfl, fun _ => ⟨rfl, 0, .nowhere rfl rfl rfl, fun _ hne => absurd rfl hne⟩⟩
  | @apart carved _ happart hcarve =>
    obtain ⟨hgear, n, hmoves, hone⟩ := moves_of_carved hstanding.manned (carved_of_ok hcarve)
    refine ⟨fun hwhole => absurd happart hwhole, fun _ => ⟨hgear, n, hmoves.refresh, ?_⟩⟩
    exact fun hper hchanged => hone hper (hcurrent.ne_of_refresh_ne hchanged)
  | whole _ hwhole =>
    refine ⟨fun _ => ?_, fun happart => absurd happart hwhole⟩
    rw [hstanding.leadPlain.equipAll_eq]
    rfl

end Muster.Squad
