import Muster.Proofs.Grammar
import Muster.Proofs.Machine
import Muster.Proofs.Sizes
import Muster.Squad.Report

/-!
# Squads on a machine

The operations on a squad are put on a machine that can abort. Its groups are in one list there,
where the lead is found in the first place and any other group by its place, and every number of
models is kept in a register. A squad that can be reached has no more models than a register holds,
and an option that can be read is for one model at least, so no difference falls below zero, nothing
is divided by zero and no place is off the list. Two sums can be too large: that of a group with one
model more, which must hold all models that a register can count, and that of the numbers asked for
of all types.
-/

namespace Muster

/-- What operations on a squad write: its base gear, its groups in one list, its points. -/
structure Ranks where
  gear : Loadout
  groups : List Group
  points : Nat
deriving DecidableEq, Repr

namespace Squad

/-- What operations write of a squad as it stands. -/
def ranks (s : Squad) : Ranks := ⟨s.gear, s.groups, s.points⟩

/-- What an operation that succeeds leaves, or why it fails. -/
def ending (s : Squad) (act : Action Unit) : Except SquadError Ranks :=
  (s.perform act).2.map fun _ => (s.perform act).1.ranks

end Squad

namespace Machine

open Amount (cap)

/-! ## Numbers of models -/

/-- The number of models in some groups. -/
def headcount (gs : List Group) : Machine Nat := sum (gs.map Group.count)

/-- A total of counts that has room in a register is reached without a fault. -/
theorem headcount_of_le {gs : List Group} (h : Squad.headcount gs ≤ cap) :
    headcount gs = pure (Squad.headcount gs) := sum_of_le h

/-- Groups that are among those of a squad can be counted. -/
theorem headcount_of_sublist {s : Squad} {gs : List Group} (hsize : s.size ≤ cap)
    (h : gs.Sublist s.groups) : headcount gs = pure (Squad.headcount gs) :=
  headcount_of_le (Nat.le_trans (Squad.headcount_le_of_sublist h) hsize)

/-- A squad's counts are added up without a fault where its size has room. -/
theorem headcount_groups {s : Squad} (hsize : s.size ≤ cap) : headcount s.groups = pure s.size :=
  headcount_of_sublist hsize (.refl _)

/-! ## Points -/

/-- Base gear and groups with the points that they come to. -/
def tally (gear : Loadout) (groups : List Group) : Machine Ranks := do
  let points ← groups.foldlM (fun total g => Amount.add total <$> points g gear) 0
  pure ⟨gear, groups, points⟩

/-- The points of the groups are taken without a fault. -/
theorem tally_eq (s : Squad) : tally s.gear s.groups = pure s.refresh.ranks := by
  have hstep : (fun (total : Nat) g => Amount.add total <$> points g s.gear) =
      fun total g => pure (Amount.add total (g.points s.gear)) := by
    funext total g
    rw [points_eq, map_pure]
  rw [tally, hstep, List.foldlM_pure, pure_bind, ← List.foldl_map]
  rfl

/-! ## Setting models apart -/

/-- Gives up a piece that is carried. -/
def giveUp (carried : Loadout) (g : Group) (piece : Gear) : Machine Group :=
  if carried.carries piece then do
    match ← take? g.gear piece with
    | some own => pure { g with gear := own }
    | none => pure { g with exchanged := g.exchanged ++ [piece] }
  else pure g

/-- A lead model that gives up what is on offer and takes the selection. -/
def variant (lead : Group) (base : Loadout) (t : Sheet) : Machine Group := do
  let carried ← loadout lead base
  let g ← t.gear.foldlM (giveUp carried) { lead with count := 0 }
  pure { g with gear := g.gear ++ t.selected }

/-- Giving up a piece takes nothing from below zero. -/
theorem giveUp_eq (carried : Loadout) (g : Group) (piece : Gear) :
    giveUp carried g piece = pure (g.giveUp carried piece) := by
  unfold giveUp Group.giveUp
  rw [take?_eq, pure_bind]
  by_cases hcarried : carried.carries piece = true
  · rw [if_pos hcarried, if_pos hcarried]
    by_cases hown : g.gear.carries piece = true
    · rw [if_pos hown, if_pos hown]
    · rw [if_neg hown, if_neg hown]
  · rw [if_neg hcarried, if_neg hcarried]

/-- The group an application carves is built without a fault. -/
theorem variant_eq (s : Squad) (t : Sheet) : variant s.lead s.gear t = pure (s.variant t) := by
  have hstep : giveUp (s.lead.loadout s.gear) =
      fun g piece => pure (g.giveUp (s.lead.loadout s.gear) piece) :=
    funext₂ (giveUp_eq _)
  rw [variant, loadout_eq, pure_bind, hstep, List.foldlM_pure, pure_bind, Squad.variant]

/-- The place of the group besides the lead that is equipped like `g`, among all groups. -/
def existing? (s : Squad) (g : Group) : Machine (Option Nat) :=
  (·.map (· + 1)) <$> position (fun h => equippedLike h g s.gear) (s.groups.drop 1)

/-- The search for a group of the same look answers the place it has in the whole list. -/
theorem existing?_eq (s : Squad) (g : Group) :
    existing? s g = pure ((s.existing? g).map (· + 1)) := by
  have htest : (fun h => equippedLike h g s.gear) = fun h => pure (h.equippedLike g s.gear) :=
    funext fun h => equippedLike_eq h g s.gear
  rw [existing?, htest, position_pure, map_pure]
  rfl

/-- The place of a group that has been found is among the others. -/
theorem lt_length_of_existing? {s : Squad} {g : Group} {i : Nat} (h : s.existing? g = some i) :
    i < s.others.length :=
  (List.findIdx?_eq_some_iff_getElem.mp h).1

/-- The number of models in the group in a place; none stands for a group yet to come. -/
def currentCount (s : Squad) : Option Nat → Machine Nat
  | some place => Group.count <$> get s.groups place
  | none => pure 0

/-- The count of the group already there is read at a place of the list. -/
theorem currentCount_eq (s : Squad) (g : Group) :
    currentCount s ((s.existing? g).map (· + 1)) = pure (s.currentCount (s.existing? g)) := by
  cases hexisting : s.existing? g with
  | none => rfl
  | some i =>
    have hi := lt_length_of_existing? hexisting
    have hget : s.groups[i + 1]? = some s.others[i] := List.getElem?_eq_getElem (l := s.others) hi
    rw [Option.map_some, currentCount, get_of_getElem? hget, map_pure]
    simp [Squad.currentCount, hi]

/-- The models that already carry something of the option, in all groups but the lead and the one in
the place `skip`. -/
def carvedBy (s : Squad) (lead : Group) (t : Sheet) (skip : Option Nat) : Machine Nat := do
  let names := t.gear.map Gear.name
  let others := (s.groups.zipIdx.drop 1).filter fun (g, place) =>
    decide (some place ≠ skip) && g.kind == lead.kind
  let carved ← filter (fun g => do
    let gained ← gainedOver g lead s.gear
    pure (gained.any fun piece => names.contains piece.name)) (others.map Prod.fst)
  headcount carved

/-- The groups at every place but one are the list without that place. -/
theorem map_fst_filter_zipIdx (gs : List Group) (i first : Nat) :
    ((gs.zipIdx first).filter fun place => decide (some place.2 ≠ some (i + first))).map Prod.fst =
      gs.eraseIdx i := by
  induction gs generalizing i first with
  | nil => rfl
  | cons g gs ih =>
    cases i with
    | zero =>
      have hlater : ∀ place ∈ gs.zipIdx (first + 1), decide (some place.2 ≠ some (0 + first)) := by
        intro place hplace
        have hfirst := (List.mem_zipIdx hplace).1
        simp
        omega
      rw [List.zipIdx_cons, List.filter_cons, List.filter_eq_self.mpr hlater]
      simp
    | succ i =>
      have hplace : i + 1 + first = i + (first + 1) := by omega
      have hfirst : decide (some first ≠ some (i + (first + 1))) = true := by
        simp only [ne_eq, Option.some.injEq, decide_eq_true_eq]
        omega
      rw [List.zipIdx_cons, List.filter_cons, hplace, if_pos hfirst, List.map_cons, ih,
        List.eraseIdx_cons_succ]

/-- Skipping a place leaves the groups besides the one in it. -/
theorem map_fst_filter_groups (s : Squad) (existing : Option Nat) (p : Group → Bool) :
    ((s.groups.zipIdx.drop 1).filter fun place =>
        decide (some place.2 ≠ existing.map (· + 1)) && p place.1).map Prod.fst =
      (s.besides existing).filter p := by
  have hothers : s.groups.zipIdx.drop 1 = s.others.zipIdx 1 := rfl
  have hbesides : ((s.others.zipIdx 1).filter fun place =>
      decide (some place.2 ≠ existing.map (· + 1))).map Prod.fst = s.besides existing := by
    cases existing with
    | none =>
      rw [List.filter_eq_self.mpr (by simp), List.zipIdx_map_fst]
      rfl
    | some i => exact map_fst_filter_zipIdx s.others i 1
  rw [hothers, ← hbesides, List.filter_map, List.filter_filter]
  congr 1
  refine List.filter_congr fun place _ => ?_
  rw [Bool.and_comm]
  rfl

/-- The models that already carry an application are counted without a fault. -/
theorem carvedBy_eq {s : Squad} (hsize : s.size ≤ cap) (t : Sheet) (existing : Option Nat) :
    carvedBy s s.lead t (existing.map (· + 1)) = pure (s.carvedBy t existing) := by
  have htest : (fun g => do
      let gained ← gainedOver g s.lead s.gear
      pure (gained.any fun piece => (t.gear.map Gear.name).contains piece.name)) =
      fun g => (pure ((g.gainedOver s.lead s.gear).any fun piece =>
        (t.gear.map Gear.name).contains piece.name) : Machine Bool) := by
    funext g
    rw [gainedOver_eq, pure_bind]
  have hamong : (s.besides existing).Sublist s.groups := by
    refine List.Sublist.trans ?_ (List.sublist_cons_self s.lead s.others)
    cases existing with
    | none => exact .refl _
    | some i => exact List.eraseIdx_sublist s.others i
  simp only [carvedBy]
  rw [map_fst_filter_groups s existing fun g => g.kind == s.lead.kind, htest, filter_pure, pure_bind,
    headcount_of_sublist hsize
      (List.filter_sublist.trans (List.filter_sublist.trans hamong)), List.filter_filter]
  simp only [Bool.and_comm]
  cases existing <;> rfl

/-- The number of models that the group in a place, or a new one, is to have. -/
def target (s : Squad) (lead : Group) (t : Sheet) (existing : Option Nat) (current : Nat) :
    Machine (Except SquadError Nat) :=
  if t.offer.perModel then .ok <$> add current 1
  else do
    let size ← headcount s.groups
    let entitled ← div size t.offer.modelsPer
    let taken ← carvedBy s lead t existing
    if taken ≥ entitled then pure (.error (.entitlementUsed s.name t.source entitled))
    else .ok <$> sub entitled taken

/-- Writes the numbers of the lead and of the group in a place, or adds a new one; groups without
models go, but not the lead. -/
def regroup (groups : List Group) (existing : Option Nat) (g : Group) (leadCount count : Nat) :
    Machine (List Group) := do
  let groups ← modify groups 0 fun lead => { lead with count := leadCount }
  let groups ← match existing with
    | some place => modify groups place fun h => { h with count }
    | none => pure (groups ++ [{ g with count }])
  pure ((groups.zipIdx.filter fun (h, place) => place == 0 || h.count > 0).map Prod.fst)

/-- Moves models between the lead group and the group in a place, which has `current` models and is to
have `target`. -/
def move (s : Squad) (existing : Option Nat) (g : Group) (current target : Nat) :
    Machine (Except SquadError Ranks) := do
  let available ← Group.count <$> get s.groups 0
  let wanted := target - current
  if wanted > 0 ∧ available = 0 then pure (.error (.noModelsAvailable s.name))
  else do
    let moved := min wanted available
    let returned := current - target
    let count ← sub (← add current moved) returned
    let leadCount ← add (← sub available moved) returned
    let groups ← regroup s.groups existing g leadCount count
    pure (.ok { s.ranks with groups })

/-- Sets models apart for the selection, if that is not what they carry already. -/
def carve (s : Squad) (t : Sheet) : Machine (Except SquadError Ranks) :=
  match s.groups.head? with
  | none => pure (.error (.noModelsAvailable s.name))
  | some lead => do
    let g ← variant lead s.gear t
    if ← equippedLike g lead s.gear then pure (.ok s.ranks)
    else do
      let existing ← existing? s g
      let current ← currentCount s existing
      match ← target s lead t existing current with
      | .error e => pure (.error e)
      | .ok target => move s existing g current target

/-- The count an application works towards is reached without a fault, where the group has room for
one more. -/
theorem target_eq {s : Squad} {t : Sheet} (hsize : s.size ≤ cap) (hper : 1 ≤ t.offer.modelsPer)
    (existing : Option Nat) {current : Nat}
    (hroom : t.offer.perModel = true → current < cap) :
    target s s.lead t (existing.map (· + 1)) current = pure (s.target t existing current) := by
  unfold target Squad.target
  by_cases hmodel : t.offer.perModel = true
  · rw [if_pos hmodel, if_pos hmodel, add_of_le (hroom hmodel), map_pure,
      Squad.register_eq_ok_iff.mpr ⟨hroom hmodel, rfl⟩]
  · rw [if_neg hmodel, if_neg hmodel, headcount_groups hsize, pure_bind,
      div_of_pos hper, pure_bind, carvedBy_eq hsize, pure_bind]
    dsimp only
    split
    · rfl
    · next hleft => rw [sub_of_le (Nat.le_of_lt (Nat.not_le.mp hleft)), map_pure]

/-- The first place is kept whatever is in it, any other if there are models. -/
theorem map_fst_filter_manned (lead : Group) (others : List Group) :
    ((lead :: others).zipIdx.filter fun place => place.2 == 0 || place.1.count > 0).map Prod.fst =
      lead :: others.filter fun h => h.count > 0 := by
  have hlater : ((others.zipIdx 1).filter fun place => place.2 == 0 || place.1.count > 0) =
      (others.zipIdx 1).filter ((fun h => decide (h.count > 0)) ∘ Prod.fst) := by
    refine List.filter_congr fun place hmem => ?_
    have hone := (List.mem_zipIdx hmem).1
    have hzero : (place.2 == 0) = false := beq_false_of_ne (by omega)
    rw [hzero, Bool.false_or]
    rfl
  rw [List.zipIdx_cons, List.filter_cons_of_pos (by simp), List.map_cons, Nat.zero_add, hlater,
    ← List.filter_map, List.zipIdx_map_fst]

/-- Groups are written back at places of the list only. -/
theorem regroup_eq (s : Squad) (existing : Option Nat) (g : Group) (leadCount count : Nat)
    (hplace : ∀ i, existing = some i → i < s.others.length) :
    regroup s.groups (existing.map (· + 1)) g leadCount count =
      pure (s.regroup existing g leadCount count).groups := by
  unfold regroup Squad.regroup
  rw [modify_of_lt (Nat.succ_pos s.others.length), pure_bind]
  dsimp only [Squad.groups]
  rw [List.modify_zero_cons]
  cases existing with
  | none =>
    rw [Option.map_none, pure_bind, List.cons_append, map_fst_filter_manned]
  | some i =>
    have hi : i + 1 < ({ s.lead with count := leadCount } :: s.others).length :=
      Nat.succ_lt_succ (hplace i rfl)
    rw [Option.map_some]
    dsimp only
    rw [modify_of_lt hi, pure_bind, List.modify_succ_cons, map_fst_filter_manned]

/-- No more models move than there are in the lead group, and no more return than have been set
apart. -/
theorem move_eq {s : Squad} {g : Group} {current : Nat} (hsize : s.size ≤ cap)
    (hcurrent : current + s.lead.count ≤ s.size) (target : Nat) :
    move s ((s.existing? g).map (· + 1)) g current target =
      pure (if target - current > 0 ∧ s.lead.count = 0 then .error (.noModelsAvailable s.name)
        else .ok (s.regroup (s.existing? g) g
          (s.lead.count - min (target - current) s.lead.count + (current - target))
          (current + min (target - current) s.lead.count - (current - target))).ranks) := by
  have hget : get s.groups 0 = pure s.lead := rfl
  rw [move, hget, map_pure, pure_bind]
  dsimp only
  split
  · rfl
  · have hmoved : min (target - current) s.lead.count ≤ s.lead.count := Nat.min_le_right _ _
    generalize min (target - current) s.lead.count = moved at *
    rw [add_of_le (by omega), pure_bind, sub_of_le (by omega), pure_bind, sub_of_le hmoved,
      pure_bind, add_of_le (by omega), pure_bind,
      regroup_eq s (s.existing? g) g _ _ fun i hi => lt_length_of_existing? hi, pure_bind]
    rfl

/-- Carving on the list is carving on the squad, where no count is full. -/
theorem carve_eq {s : Squad} {t : Sheet} (hsize : s.size ≤ cap) (hper : 1 ≤ t.offer.modelsPer)
    (hbrim : ¬ s.Brimming t) : carve s t = pure (s.ending (Squad.carve t)) := by
  have hcurrent := Squad.currentCount_le s (s.variant t)
  have hroom : t.offer.perModel = true → s.currentCount (s.existing? (s.variant t)) < cap := by
    intro hmodel
    have hne : s.currentCount (s.existing? (s.variant t)) ≠ cap := fun h => hbrim ⟨hmodel, h⟩
    omega
  unfold Squad.ending
  rw [Squad.perform_carve]
  simp only [carve, Squad.groups, List.head?_cons]
  rw [variant_eq, pure_bind, equippedLike_eq, pure_bind]
  split
  · rfl
  · rw [existing?_eq, pure_bind, currentCount_eq, pure_bind, target_eq hsize hper _ hroom, pure_bind]
    cases s.target t (s.existing? (s.variant t)) (s.currentCount (s.existing? (s.variant t))) with
    | error e => rfl
    | ok target =>
      dsimp only
      rw [move_eq hsize hcurrent]
      split
      · rfl
      · rfl

/-- One model more in a group that holds all there can be is too many. -/
theorem carve_of_brimming {s : Squad} {t : Sheet} (hbrim : s.Brimming t) :
    carve s t = pure (s.ending (Squad.carve t)) ∨
      carve s t = throw .overflow ∧ s.ending (Squad.carve t) = .error .aborted := by
  simp only [carve, Squad.groups, List.head?_cons]
  rw [variant_eq, pure_bind, equippedLike_eq, pure_bind]
  unfold Squad.ending
  rw [Squad.perform_carve]
  split
  · exact .inl rfl
  · obtain ⟨hmodel, hfull⟩ := hbrim
    have htarget : s.target t (s.existing? (s.variant t)) cap = .error .aborted := by
      rw [Squad.target_of_perModel hmodel]
      exact Squad.register_eq_error_iff.mpr ⟨Nat.lt_succ_self cap, rfl⟩
    refine .inr ⟨?_, ?_⟩
    · rw [existing?_eq, pure_bind, currentCount_eq, pure_bind, target, if_pos hmodel, hfull,
        add_of_lt (Nat.lt_succ_self cap)]
      rfl
    · dsimp only
      rw [hfull, htarget]
      rfl

/-! ## Equipping -/

/-- Gives up a piece of base gear, or one of the lead group's own. -/
def giveUpFirst (held : Loadout × List Group) (piece : Gear) : Machine (Loadout × List Group) := do
  match ← take? held.1 piece with
  | some gear => pure (gear, held.2)
  | none =>
    match held.2 with
    | [] => pure held
    | lead :: others => do
      let own ← drop lead.gear piece
      pure (held.1, { lead with gear := own } :: others)

/-- Everything on offer is given up and the selection taken in its place. -/
def equipAll (s : Squad) (t : Sheet) : Machine Ranks := do
  let (gear, groups) ← t.gear.foldlM giveUpFirst (s.gear, s.groups)
  tally (gear ++ t.selected) groups

/-- The points of a lead model, or of one without gear. -/
def leadPoints (s : Squad) : Machine Nat :=
  match s.groups.head? with
  | some lead => pointsEach lead s.gear
  | none => pure s.template.basePoints

/-- Applies the picks on a sheet. -/
def equip (s : Squad) (t : Sheet) : Machine (Except SquadError Ranks) :=
  match t.checkPicks with
  | .error e => pure (.error (.pick e))
  | .ok () => do
    let size ← headcount s.groups
    let required := t.offer.modelsPer
    if required > size then do
      let shortfall ← sub required size
      let each ← leadPoints s
      pure (.error (.insufficientModels required size shortfall (Amount.mul shortfall each)))
    else if t.selected.isEmpty then pure (.ok s.ranks)
    else if required > 1 ∨ t.offer.perModel ∧ size > 1 then do
      match ← carve s t with
      | .error e => pure (.error e)
      | .ok carved => .ok <$> tally carved.gear carved.groups
    else .ok <$> equipAll s t

/-- Giving up a base piece on the list is giving it up on the squad. -/
theorem giveUpFirst_eq (s : Squad) (piece : Gear) :
    giveUpFirst (s.gear, s.groups) piece =
      pure ((s.giveUp piece).gear, (s.giveUp piece).groups) := by
  unfold giveUpFirst Squad.giveUp
  rw [take?_eq, pure_bind]
  by_cases hcarried : s.gear.carries piece = true
  · rw [if_pos hcarried, if_pos hcarried]
    rfl
  · rw [if_neg hcarried, if_neg hcarried]
    dsimp only [Squad.groups]
    rw [drop_eq, pure_bind]

/-- Giving up a list of base pieces never faults. -/
theorem foldlM_giveUpFirst (s : Squad) (pieces : Loadout) :
    pieces.foldlM giveUpFirst (s.gear, s.groups) =
      pure ((pieces.foldl Squad.giveUp s).gear, (pieces.foldl Squad.giveUp s).groups) := by
  induction pieces generalizing s with
  | nil => rfl
  | cons piece rest ih => rw [List.foldlM_cons, giveUpFirst_eq, pure_bind, ih, List.foldl_cons]

/-- Equipping every model on the list is equipping every model of the squad. -/
theorem equipAll_eq (s : Squad) (t : Sheet) :
    equipAll s t = pure (s.equipAll t).refresh.ranks := by
  rw [equipAll, foldlM_giveUpFirst, pure_bind]
  exact tally_eq (s.equipAll t)

/-- Carving on the list is carving on the squad, or both stop because a count is full. -/
theorem carve_eq_or {s : Squad} {t : Sheet} (hsize : s.size ≤ cap) (hper : 1 ≤ t.offer.modelsPer) :
    carve s t = pure (s.ending (Squad.carve t)) ∨
      s.Brimming t ∧ carve s t = throw .overflow ∧ s.ending (Squad.carve t) = .error .aborted := by
  by_cases hbrim : s.Brimming t
  · rcases carve_of_brimming hbrim with hkept | hover
    · exact .inl hkept
    · exact .inr ⟨hbrim, hover⟩
  · exact .inl (carve_eq hsize hper hbrim)

/-- Applying the picks aborts only where setting models apart does. -/
theorem equip_eq_or {s : Squad} {t : Sheet} (hsize : s.size ≤ cap) (hper : 1 ≤ t.offer.modelsPer) :
    equip s t = pure (s.ending (Squad.equip t)) ∨
      s.Brimming t ∧ equip s t = throw .overflow ∧ s.ending (Squad.equip t) = .error .aborted := by
  have hlead : leadPoints s = pure (s.lead.pointsEach s.gear) := pointsEach_eq s.lead s.gear
  unfold equip Squad.ending
  rw [Squad.perform_equip, headcount_groups hsize, hlead]
  cases t.checkPicks with
  | error e => exact .inl rfl
  | ok _ =>
    simp only [pure_bind]
    split
    · next hshort =>
      rw [sub_of_le (Nat.le_of_lt hshort)]
      exact .inl rfl
    · split
      · exact .inl rfl
      · split
        · rcases carve_eq_or hsize hper with hcarve | ⟨hbrim, hover, haborted⟩
          · refine .inl ?_
            rw [hcarve, pure_bind, Squad.ending]
            rcases s.perform (Squad.carve t) with ⟨s', e | _⟩
            · rfl
            · exact congrArg (Except.ok <$> ·) (tally_eq s')
          · refine .inr ⟨hbrim, by rw [hover]; rfl, ?_⟩
            unfold Squad.ending at haborted
            rcases hcarve : s.perform (Squad.carve t) with ⟨s', e | _⟩
            all_goals
              rw [hcarve] at haborted
              cases haborted
            rfl
        · rw [equipAll_eq]
          exact .inl rfl

/-! ## Sizing -/

/-- Writes the number of the group in the first place, if there is one. -/
def setLead (count : Machine Nat) : List Group → Machine (List Group)
  | [] => pure []
  | lead :: others => do
    let count ← count
    pure ({ lead with count } :: others)

/-- Sets the number of models by changing the lead group. -/
def resize (s : Squad) (size : Nat) : Machine (Except SquadError Ranks) :=
  match s.checkRange size with
  | .error e => pure (.error e)
  | .ok () => do
    let others ← headcount (s.groups.drop 1)
    if size < others then
      pure (.error (.invalidSize s.name size (max others s.template.minSize) s.template.maxSize))
    else do
      let groups ← setLead (sub size others) s.groups
      .ok <$> tally s.gear groups

/-- Sets the number of models of each type. -/
def resizeModels (s : Squad) (counts : List Nat) : Machine (Except SquadError Ranks) :=
  let expected := 1 + s.template.models.length
  if counts.length ≠ expected then
    pure (.error (.modelCountMismatch s.name expected counts.length))
  else do
    let total ← sum counts
    match s.checkRange total with
    | .error e => pure (.error e)
    | .ok () => do
      let extra ← dropFrom counts 1
      match s.extraGroups extra with
      | .error e => pure (.error e)
      | .ok groups => do
        let ownKind := fun (g : Group) => decide (g.kind = s.template.name)
        let kept ← headcount ((s.groups.drop 1).filter ownKind)
        let own ← get counts 0
        if own < kept then pure (.error (.invalidSize s.name own kept s.template.maxSize))
        else do
          let others ← setLead (sub own kept) (s.groups.filter ownKind)
          .ok <$> tally s.gear (others ++ groups)

/-- Resizing on the list is resizing the squad. -/
theorem resize_eq {s : Squad} (hsize : s.size ≤ cap) (size : Nat) :
    resize s size = pure (s.ending (Squad.resize size)) := by
  have hothers : headcount (s.groups.drop 1) = pure s.othersCount :=
    headcount_of_sublist hsize (List.drop_sublist 1 _)
  unfold resize Squad.ending
  rw [Squad.perform_resize]
  cases s.checkRange size with
  | error e => rfl
  | ok _ =>
    dsimp only
    rw [hothers, pure_bind]
    split
    · rfl
    · next hroom =>
      rw [sub_of_le (Nat.not_lt.mp hroom)]
      exact congrArg (Except.ok <$> ·)
        (tally_eq { s with lead := { s.lead with count := size - s.othersCount } })

/-- Where there is a count for each type and a register has room for them all, sizing by types on the
list is sizing the squad: the groups of its own type are the lead group and those that come after
it. -/
theorem resizeModels_eq {s : Squad} {own : Nat} {extra : List Nat} (hsize : s.size ≤ cap)
    (hlead : s.lead.kind = s.template.name) (hlength : extra.length = s.template.models.length)
    (hcounts : Amount.sum (own :: extra) ≤ cap) :
    resizeModels s (own :: extra) = pure (s.ending (Squad.resizeModels (own :: extra))) := by
  have hexpected : (own :: extra).length = 1 + s.template.models.length := by
    rw [List.length_cons, hlength, Nat.add_comm]
  have hregister : SquadError.register (own + Amount.sum extra) = .ok (own + Amount.sum extra) :=
    Squad.register_eq_ok_iff.mpr ⟨hcounts, rfl⟩
  have hrest : dropFrom (own :: extra) 1 = pure extra := if_pos (Nat.le_add_left 1 extra.length)
  have hfirst : get (own :: extra) 0 = pure own := rfl
  have hown : (s.groups.filter fun g => decide (g.kind = s.template.name)) =
      s.lead :: s.ownOthers := List.filter_cons_of_pos (decide_eq_true hlead)
  have hkept : headcount ((s.groups.drop 1).filter fun g => decide (g.kind = s.template.name)) =
      pure (Amount.sum (s.ownOthers.map Group.count)) :=
    headcount_of_sublist hsize (List.filter_sublist.trans (List.drop_sublist 1 _))
  unfold resizeModels Squad.ending
  rw [Squad.perform_resizeModels]
  dsimp only
  rw [if_neg (not_not_intro hexpected), if_neg (not_not_intro hlength), sum_of_le hcounts, pure_bind,
    hregister, Amount.sum]
  dsimp only
  cases s.checkRange (own + Amount.sum extra) with
  | error e => rfl
  | ok _ =>
    dsimp only
    rw [hrest, pure_bind]
    cases s.extraGroups extra with
    | error e => rfl
    | ok groups =>
      dsimp only
      rw [hkept, pure_bind, hfirst, pure_bind, hown]
      split
      · rfl
      · next hroom =>
        rw [sub_of_le (Nat.not_lt.mp hroom)]
        exact congrArg (Except.ok <$> ·) (tally_eq { s with
          lead := { s.lead with count := own - Squad.headcount s.ownOthers }
          others := s.ownOthers ++ groups })

/-- Sizing by types on the list is sizing the squad, or both stop because the counts are more than a
register holds. -/
theorem resizeModels_eq_or {s : Squad} (hsize : s.size ≤ cap)
    (hlead : s.lead.kind = s.template.name) (counts : List Nat) :
    resizeModels s counts = pure (s.ending (Squad.resizeModels counts)) ∨
      cap < Amount.sum counts ∧ resizeModels s counts = throw .overflow ∧
        s.ending (Squad.resizeModels counts) = .error .aborted := by
  cases counts with
  | nil =>
    have hexpected : ([] : List Nat).length ≠ 1 + s.template.models.length := by
      rw [List.length_nil]
      omega
    unfold resizeModels Squad.ending
    rw [Squad.perform_resizeModels]
    dsimp only
    rw [if_pos hexpected]
    exact .inl rfl
  | cons own extra =>
    -- counts are added up only where there is one for each type
    by_cases hlength : extra.length = s.template.models.length
    · rcases Nat.lt_or_ge cap (Amount.sum (own :: extra)) with hover | hcounts
      · have hexpected : (own :: extra).length = 1 + s.template.models.length := by
          rw [List.length_cons, hlength, Nat.add_comm]
        have hregister : SquadError.register (own + Amount.sum extra) = .error .aborted :=
          Squad.register_eq_error_iff.mpr ⟨hover, rfl⟩
        unfold resizeModels Squad.ending
        rw [Squad.perform_resizeModels]
        dsimp only
        rw [if_neg (not_not_intro hexpected), if_neg (not_not_intro hlength), sum_of_lt hover,
          hregister]
        exact .inr ⟨hover, rfl, rfl⟩
      · exact .inl (resizeModels_eq hsize hlead hlength hcounts)
    · have hexpected : (own :: extra).length ≠ 1 + s.template.models.length := by
        rw [List.length_cons]
        omega
      unfold resizeModels Squad.ending
      rw [Squad.perform_resizeModels]
      dsimp only
      rw [if_pos hexpected, if_pos hlength]
      exact .inl rfl

/-! ## Reports -/

/-- What is wrong with the size. -/
def sizeProblem? (s : Squad) : Machine (Option String) := do
  let size ← headcount s.groups
  pure (if size < s.template.minSize ∨ size > s.template.maxSize then
    some (s.name ++ " has " ++ toString size ++ " models; it must have between "
      ++ toString s.template.minSize ++ " and " ++ toString s.template.maxSize)
  else none)

/-- What is wrong with the number of models of a group's type. -/
def limitProblem? (s : Squad) (g : Group) : Machine (Option String) :=
  match g.limit with
  | none => pure none
  | some limit => do
    let total ← headcount (s.groups.filter fun h => h.kind = g.kind)
    pure (if total > limit then
      some (s.name ++ " may include at most " ++ toString limit ++ " " ++ g.kind ++ ", not "
        ++ toString total)
    else none)

/-- What makes a squad illegal, each problem once. -/
def problems (s : Squad) : Machine (List String) := do
  let first ← sizeProblem? s
  s.groups.foldlM (fun found g => do
    match ← limitProblem? s g with
    | some problem => pure (if found.contains problem then found else found ++ [problem])
    | none => pure found) first.toList

/-- What is shown of a group. -/
def groupReport (base : Loadout) (g : Group) : Machine GroupReport := do
  let each ← pointsEach g base
  let carried ← loadout g base
  let labels ← labels carried
  pure ⟨g.kind, g.count, each, labels⟩

/-- The report on a squad as it stands. -/
def report (s : Squad) : Machine SquadReport := do
  let size ← headcount s.groups
  let wargear ← labels s.gear
  let models ← s.groups.mapM (groupReport s.gear)
  let problems ← problems s
  pure ⟨s.name, s.template.name, s.role, size, s.template.minSize, s.template.maxSize, s.points,
    wargear, models, problems⟩

/-- The problems of a squad are found without a fault. -/
theorem problems_eq {s : Squad} (hsize : s.size ≤ cap) : problems s = pure s.problems := by
  have hfirst : sizeProblem? s = pure s.sizeProblem? := by
    rw [sizeProblem?, headcount_groups hsize, pure_bind, Squad.sizeProblem?]
  have hlimit (g : Group) : limitProblem? s g = pure (s.limitProblem? g) := by
    unfold limitProblem? Squad.limitProblem?
    cases g.limit with
    | none => rfl
    | some limit =>
      dsimp only
      rw [headcount_of_sublist hsize List.filter_sublist, pure_bind]
      rfl
  have hstep : (fun found g => do
      match ← limitProblem? s g with
      | some problem => pure (if found.contains problem then found else found ++ [problem])
      | none => pure found) =
      fun (found : List String) g => (pure (match s.limitProblem? g with
        | some problem => if found.contains problem then found else found ++ [problem]
        | none => found) : Machine (List String)) := by
    funext found g
    rw [hlimit, pure_bind]
    cases s.limitProblem? g <;> rfl
  rw [problems, hfirst, pure_bind, hstep, List.foldlM_pure]
  rfl

/-- The report of a squad is made without a fault. -/
theorem report_eq {s : Squad} (hsize : s.size ≤ cap) : report s = pure s.report := by
  have hgroup : groupReport s.gear = fun g =>
      pure ⟨g.kind, g.count, g.pointsEach s.gear, (g.loadout s.gear).labels⟩ := by
    funext g
    rw [groupReport, pointsEach_eq, pure_bind, loadout_eq, pure_bind, labels_eq, pure_bind]
  rw [report, headcount_groups hsize, pure_bind, labels_eq, pure_bind, hgroup, List.mapM_pure,
    pure_bind, problems_eq hsize, pure_bind, Squad.report]

end Machine

namespace Squad

open Amount (cap)

variable {x : Codex} {u : UnitTemplate} {s s' : Squad}

/-! ## Squads that can be reached -/

/-- On a machine, a squad that can be reached neither takes a number from a smaller one, nor divides
by zero, nor looks past the end of a list: with any picks on any option that can be read, when models
are set apart, picks applied and the option shown; when it is sized, in all or by types; when it is
reported on, and whatever gear is labelled or group counted in points. The machine comes to what the
operations come to. It aborts only over a sum of models, where one more is to join a group that holds
all that a register can count or where the models of all types are more than that, and the operations
abort there too. -/
theorem Reachable.runs_on_machine (h : Reachable x s) :
    (∀ a clause b t picks, Sheet.read a clause b = .ok t →
        (Machine.carve s { t with picks } = .ok (s.ending (carve { t with picks })) ∨
          s.Brimming { t with picks } ∧ Machine.carve s { t with picks } = .error .overflow ∧
            s.ending (carve { t with picks }) = .error .aborted) ∧
        (Machine.equip s { t with picks } = .ok (s.ending (equip { t with picks })) ∨
          s.Brimming { t with picks } ∧ Machine.equip s { t with picks } = .error .overflow ∧
            s.ending (equip { t with picks }) = .error .aborted) ∧
        ∀ index b', Machine.listing { t with picks } index b' =
          .ok (Sheet.listing { t with picks } index b')) ∧
      (∀ size, Machine.resize s size = .ok (s.ending (resize size))) ∧
      (∀ counts, Machine.resizeModels s counts = .ok (s.ending (resizeModels counts)) ∨
        cap < Amount.sum counts ∧ Machine.resizeModels s counts = .error .overflow ∧
          s.ending (resizeModels counts) = .error .aborted) ∧
      Machine.report s = .ok s.report ∧
      (∀ g, Machine.label g = .ok g.label ∧ Machine.priced g = .ok g.priced) ∧
      ∀ g base, Machine.pointsEach g base = .ok (g.pointsEach base) ∧
        Machine.points g base = .ok (g.points base) := by
  have hsize := h.size_le
  obtain ⟨role, unit, u, -, hstanding⟩ := h.standing
  have hlead : s.lead.kind = s.template.name := by
    rw [hstanding.lead, hstanding.template]
    rfl
  refine ⟨fun a clause b t picks hread => ?_, Machine.resize_eq hsize,
    Machine.resizeModels_eq_or hsize hlead, Machine.report_eq hsize,
    fun g => ⟨Machine.label_eq g, Machine.priced_eq g⟩,
    fun g base => ⟨Machine.pointsEach_eq g base, Machine.points_eq g base⟩⟩
  have hper : 1 ≤ t.offer.modelsPer := by
    unfold Sheet.read at hread
    split at hread
    · cases hread
    · next hoffer =>
      cases hread
      exact (Offer.one_le_of_read hoffer).2
  exact ⟨Machine.carve_eq_or hsize hper, Machine.equip_eq_or hsize hper,
    fun index b' => Machine.listing_eq _ index b'⟩

/-- Four guards and a scout: one guard in two takes a bow, and then three models is the least that
the others leave room for. -/
theorem Reachable.runs_on_machine_patrol :
    let s := (Guards.patroller "Axe/Bow-2" (Guards.scout none) ["Scout"]).run
      [.resizeModels [4, 1]]
    let armed := s.run [.equip (Guards.sheet [⟨1, 1⟩])]
    (Machine.equip s (Guards.sheet [⟨1, 1⟩])).map
        (Except.map fun ranks => ranks.groups.map Group.count) = .ok (.ok [2, 1, 2]) ∧
      Machine.resize armed 2 = .ok (.error (.invalidSize "Guards" 2 3 8)) ∧
      (Machine.report armed).map (fun r => (r.size, r.problems)) = .ok (5, []) := by
  intro s armed
  have hreach : Reachable (Guards.patrol "Axe/Bow-2" (Guards.scout none) ["Scout"]) s :=
    ⟨.troops, "Guards", _, _, by with_unfolding_all rfl, rfl⟩
  have hread : Sheet.read s.codex.arsenal "Axe/Bow-2" ⟨[Guards.axe], .squad⟩ =
      .ok (Guards.sheet []) := by with_unfolding_all rfl
  obtain ⟨hsheets, -⟩ := hreach.runs_on_machine
  obtain ⟨-, hequip, -⟩ := hsheets _ _ _ _ [⟨1, 1⟩] hread
  have harmed := hreach.run [.equip (Guards.sheet [⟨1, 1⟩])]
  obtain ⟨-, hresize, -, hreport, -⟩ := harmed.runs_on_machine
  refine ⟨?_, (hresize 2).trans ?_, ?_⟩
  · rcases hequip with hequip | ⟨⟨hmodel, -⟩, -⟩
    · exact (congrArg _ hequip).trans (by decide +kernel)
    · cases hmodel
  · have hrefused : armed.ending (resize 2) = .error (.invalidSize "Guards" 2 3 8) := by
      decide +kernel
    exact congrArg Except.ok hrefused
  · exact (congrArg _ hreport).trans (by decide +kernel)

end Squad

end Muster
