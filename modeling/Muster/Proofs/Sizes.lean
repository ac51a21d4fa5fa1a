import Muster.Proofs.Audits
import Muster.Proofs.Moving

/-!
# Sizes

What holds of a squad whatever has been done with it. Its lead group comes first and is as the
template has it but for the number of models, every other group has models, and in all there are as
many as the template allows. Applying options moves models without changing their number; the two
ways of sizing a squad look at the number that there will be, which takes in the groups that a
sizing by types makes or keeps. So there is always room for all models in a register, and an option
aborts only over one model more in a group that has all models that can be.
-/

namespace Muster.Squad

variable {x : Codex} {u : UnitTemplate} {s s' : Squad} {t : Sheet}

/-! ## Models of further types -/

/-- Types of model are told by name, and so the groups that are made have the models asked for. -/
theorem headcount_filterMap_extraGroup (p : String → Bool) {rows : List (String × Nat)}
    {found : List (Option Group)}
    (h : rows.mapM (fun row => s.extraGroup row.1 row.2) = .ok found) :
    headcount ((found.filterMap id).filter fun g => p g.kind) =
      Amount.sum ((rows.filter fun row => p row.1).map Prod.snd) := by
  induction rows generalizing found with
  | nil =>
    cases h
    rfl
  | cons row rest ih =>
    obtain ⟨first, others, hfirst, hothers, rfl⟩ := mapM_cons_eq_ok h
    have hrest := ih hothers
    obtain ⟨m, -, -, ⟨hnone, rfl⟩ | ⟨-, gear, rfl⟩⟩ := extraGroup_cases hfirst
    · rw [List.filterMap_cons_none (f := id) rfl, hrest, List.filter_cons]
      split
      · rw [List.map_cons, Amount.sum, hnone, Nat.zero_add]
      · rfl
    · rw [List.filterMap_cons_some (f := id) rfl, List.filter_cons, List.filter_cons]
      dsimp only
      split
      · rw [headcount_cons, hrest, List.map_cons, Amount.sum]
      · exact hrest

/-- Groups that are made from counts have the models that are counted, over any of the types. -/
theorem headcount_filter_extraGroups (p : String → Bool) {counts : List Nat} {groups : List Group}
    (h : s.extraGroups counts = .ok groups) :
    headcount (groups.filter fun g => p g.kind) =
      Amount.sum (((s.template.models.zip counts).filter fun row => p row.1).map Prod.snd) := by
  unfold extraGroups at h
  obtain ⟨found, hfound, rfl⟩ := exists_of_map_eq_ok h
  exact headcount_filterMap_extraGroup p hfound

/-- Where there is a number for each type of model, all models asked for are there. -/
theorem headcount_extraGroups {counts : List Nat} {groups : List Group}
    (h : s.extraGroups counts = .ok groups) (hlength : counts.length = s.template.models.length) :
    headcount groups = Amount.sum counts := by
  have hall := headcount_filter_extraGroups (fun _ => true) h
  rwa [List.filter_true, List.filter_true, List.map_snd_zip hlength.le] at hall

/-! ## The number of models -/

/-- Equipping keeps the size. -/
theorem size_of_equipped (hmanned : ∀ g ∈ s.others, 0 < g.count) (hplain : s.LeadPlain)
    (h : Equipped s t s') : s'.size = s.size := by
  cases h with
  | unpicked => rfl
  | apart _ _ hcarve =>
    obtain ⟨-, n, hmoves, -⟩ := moves_of_carved hmanned (carved_of_ok hcarve)
    exact hmoves.refresh.size_eq
  | whole =>
    rw [hplain.equipAll_eq]
    rfl

/-- The check of the range passes exactly where the size is in it. -/
theorem checkRange_eq_ok_iff {requested : Nat} :
    s.checkRange requested = .ok () ↔
      s.template.minSize ≤ requested ∧ requested ≤ s.template.maxSize := by
  unfold checkRange
  split
  · next hout =>
    refine iff_of_false (fun h => by cases h) ?_
    omega
  · next hin =>
    refine iff_of_true rfl ?_
    omega

/-- A squad that has been sized has the number of models asked for. -/
theorem size_resized {size : Nat} (hroom : s.othersCount ≤ size) :
    (refresh { s with lead := { s.lead with count := size - s.othersCount } }).size = size :=
  Nat.sub_add_cancel hroom

/-- A squad that has been sized by types has all models asked for. -/
theorem size_resizedByTypes {own : Nat} {extra : List Nat} {groups : List Group}
    (hlength : extra.length = s.template.models.length) (hgroups : s.extraGroups extra = .ok groups)
    (hkept : headcount s.ownOthers ≤ own) :
    (refresh { s with
      lead := { s.lead with count := own - headcount s.ownOthers }
      others := s.ownOthers ++ groups }).size = own + Amount.sum extra := by
  change own - headcount s.ownOthers + headcount (s.ownOthers ++ groups) = own + Amount.sum extra
  rw [headcount_append, headcount_extraGroups hgroups hlength]
  omega

/-- The squad has as many models as its template allows. -/
def InRange (u : UnitTemplate) (s : Squad) : Prop := u.minSize ≤ s.size ∧ s.size ≤ u.maxSize

/-- A squad made from a template is in range. -/
theorem inRange_ofTemplate {role : Role} {name : String} (hfits : u.minSize ≤ u.maxSize)
    (h : ofTemplate x role name u = .ok s) : InRange u s := by
  obtain ⟨gear, -, rfl⟩ := exists_of_ofTemplate h
  exact ⟨Nat.le_refl _, hfits⟩

/-- A squad of a size in the range is in range. -/
theorem InRange.of_size {n : Nat} (hsize : s.size = n) (hn : u.minSize ≤ n ∧ n ≤ u.maxSize) :
    InRange u s := by
  rw [InRange, hsize]
  exact hn

/-- Every step keeps the number of models in the range of the template. -/
theorem InRange.step (hrange : InRange u s) (h : Standing x u s) (hfits : u.minSize ≤ u.maxSize)
    (hstep : Step s s') : InRange u s' := by
  cases hstep with
  | read => exact hrange
  | mark => exact hrange
  | clearPicks => exact hrange
  | rename => exact hrange
  | equipped _ hequipped => exact .of_size (size_of_equipped h.manned h.leadPlain hequipped) hrange
  | @resize size hin hroom =>
    rw [checkRange_eq_ok_iff, h.template] at hin
    exact .of_size (size_resized hroom) hin
  | @resizeModels own extra groups hlength hin hgroups hkept =>
    rw [checkRange_eq_ok_iff, h.template] at hin
    exact .of_size (size_resizedByTypes hlength hgroups hkept) hin
  | reset hreset =>
    rw [h.codex, h.template] at hreset
    exact inRange_ofTemplate hfits hreset

/-- A squad stays in range whatever is called. -/
theorem InRange.run (hrange : InRange u s) (h : Standing x u s) (hfits : u.minSize ≤ u.maxSize)
    (calls : List Call) : InRange u (s.run calls) := by
  refine h.keep (fun s s' hstanding hin hstep => ?_) hrange calls
  exact hin.step hstanding hfits hstep

/-- No step makes a squad larger than a register can count. -/
theorem size_le_of_step (h : Standing x u s) (hsize : s.size ≤ Amount.cap) (hstep : Step s s') :
    s'.size ≤ Amount.cap := by
  cases hstep with
  | read => exact hsize
  | mark => exact hsize
  | clearPicks => exact hsize
  | rename => exact hsize
  | equipped _ hequipped =>
    rw [size_of_equipped h.manned h.leadPlain hequipped]
    exact hsize
  | resize hin hroom =>
    rw [size_resized hroom]
    exact le_cap_of_checkRange hin
  | resizeModels hlength hin hgroups hkept =>
    rw [size_resizedByTypes hlength hgroups hkept]
    exact le_cap_of_checkRange hin
  | reset hreset =>
    obtain ⟨gear, -, rfl⟩ := exists_of_ofTemplate hreset
    exact s.template.minSize_le

/-! ## The form of a squad -/

/-- The form that a squad of a codex has. -/
structure Formed (x : Codex) (s : Squad) : Prop where
  /-- it is of a unit of the codex -/
  listed : ∃ role unit, x.unit role unit = .ok s.template
  /-- the lead group comes first and is the template's but for the number of models -/
  lead : s.groups.head? = some (.plain s.template.name s.lead.count s.template.basePoints)
  /-- a lead model carries the base gear -/
  bare : s.lead.loadout s.gear = s.gear
  manned : ∀ g ∈ s.groups.tail, 0 < g.count
  sized : s.template.minSize ≤ s.size ∧ s.size ≤ s.template.maxSize

/-- Where the sizes of all units of a codex can be, every squad keeps its form through every history
of calls. -/
theorem Reachable.formed (h : Reachable x s)
    (hfit : ∀ row ∈ x.unitListing, row.2.minSize ≤ row.2.maxSize) : Formed x s := by
  obtain ⟨role, unit, s₀, calls, hmuster, rfl⟩ := h
  obtain ⟨u, hunit, htemplate⟩ := exists_of_muster hmuster
  obtain ⟨role', hlisted⟩ := Codex.mem_unitListing_of_unit hunit
  have hfits : u.minSize ≤ u.maxSize := hfit _ hlisted
  have hstart : Standing x u s₀ := standing_ofTemplate htemplate
  have hstanding := hstart.run calls
  have hrange := (inRange_ofTemplate hfits htemplate).run hstart hfits calls
  generalize s₀.run calls = s at *
  obtain rfl := hstanding.template
  exact {
    listed := ⟨role, unit, hunit⟩
    lead := congrArg some hstanding.lead
    bare := hstanding.leadPlain.loadout_eq
    manned := hstanding.manned
    sized := hrange }

/-- Four guards and a scout, of whom two guards take a bow. -/
theorem Reachable.formed_patrol :
    let x := Guards.patrol "Axe/Bow-2" (Guards.scout none) ["Scout"]
    let s := (Guards.patroller "Axe/Bow-2" (Guards.scout none) ["Scout"]).run
      [.resizeModels [4, 1], .equip (Guards.sheet [⟨1, 1⟩])]
    Reachable x s ∧ (∀ row ∈ x.unitListing, row.2.minSize ≤ row.2.maxSize) ∧
      s.groups.map Group.count = [2, 1, 2] ∧ Formed x s := by
  intro x s
  have hreach : Reachable x s := ⟨.troops, "Guards", _, _, by with_unfolding_all rfl, rfl⟩
  have hfit : ∀ row ∈ x.unitListing, row.2.minSize ≤ row.2.maxSize := by decide
  exact ⟨hreach, hfit, by with_unfolding_all rfl, hreach.formed hfit⟩

/-! ## Registers -/

/-- Whatever is done with a squad, its models have room in a register, as the sizes that templates
allow have. -/
theorem Reachable.size_le (h : Reachable x s) : s.size ≤ Amount.cap := by
  obtain ⟨role, unit, s₀, calls, hmuster, rfl⟩ := h
  obtain ⟨u, -, htemplate⟩ := exists_of_muster hmuster
  have hstart : s₀.size ≤ Amount.cap := by
    obtain ⟨gear, -, rfl⟩ := exists_of_ofTemplate htemplate
    exact u.minSize_le
  exact (standing_ofTemplate htemplate).keep
    (fun _ _ hstanding hsize hstep => size_le_of_step hstanding hsize hstep) hstart calls

/-- No more models are in the group that is found than in the squad without the lead group. -/
theorem currentCount_le (s : Squad) (g : Group) :
    s.currentCount (s.existing? g) + s.lead.count ≤ s.size := by
  rw [size_eq, othersCount_eq s g]
  omega

/-- The group that one more model is to join holds all models that a register can count. -/
def Brimming (s : Squad) (t : Sheet) : Prop :=
  t.offer.perModel = true ∧ s.currentCount (s.existing? (s.variant t)) = Amount.cap

/-- Setting models apart aborts only over such a group. -/
theorem brimming_of_carve_aborted (hsize : s.size ≤ Amount.cap)
    (h : s.perform (carve t) = (s', .error .aborted)) : s.Brimming t := by
  rw [perform_carve] at h
  dsimp only at h
  split at h
  · cases h
  · split at h
    · next htarget =>
      cases h
      -- the group is full, and cannot hold more than the whole squad
      obtain ⟨hper, hfull⟩ := full_of_target_aborted htarget
      have := currentCount_le s (s.variant t)
      exact ⟨hper, by omega⟩
    · split at h <;> cases h

/-- So does applying an option. -/
theorem brimming_of_equip_aborted (hsize : s.size ≤ Amount.cap)
    (h : s.perform (equip t) = (s', .error .aborted)) : s.SetsApart t ∧ s.Brimming t := by
  rw [perform_equip] at h
  dsimp only at h
  split at h
  · cases h
  · split at h
    · cases h
    · split at h
      · cases h
      · split at h
        · next happart =>
          split at h
          · cases h
          · next hcarve =>
            cases h
            exact ⟨happart, brimming_of_carve_aborted hsize hcarve⟩
        · cases h

/-! ## Applying an option -/

/-- Applying an option keeps the size. An option for the whole squad leaves every group as it is. An
option for some models leaves the base gear as it is and moves models between the lead group and one
other group; if it is for any model and changes the squad, one model moves. The program aborts only
where that model is to join a group that holds all models that a register can count. -/
theorem equip_moves (h : Reachable x s) :
    (∀ s', s.perform (equip t) = (s', .ok ()) →
      s'.size = s.size ∧
        (¬ s.SetsApart t → s'.groups = s.groups) ∧
        (s.SetsApart t → s'.gear = s.gear ∧
          ∃ n, Moves n s s' ∧ (t.offer.perModel = true → s' ≠ s → n = 1))) ∧
      ∀ s', s.perform (equip t) = (s', .error .aborted) → s.SetsApart t ∧ s.Brimming t := by
  refine ⟨fun s' hok => ?_, fun s' => brimming_of_equip_aborted h.size_le⟩
  obtain ⟨role, unit, u, -, hstanding⟩ := h.standing
  obtain ⟨-, hequipped⟩ := equipped_of_ok hok
  exact ⟨size_of_equipped hstanding.manned hstanding.leadPlain hequipped,
    moves_of_equipped hstanding h.upToDate hequipped⟩

/-- Where any model may take a bow in place of its axe, one of four guards does. -/
theorem equip_moves_guards :
    let s := Guards.squad ["Axe"] [Guards.axe] 4 52
    let t := { Guards.sheet [⟨1, 1⟩] with
      offer := ⟨none, .anyModel, .choice [Guards.axe, Guards.bow]⟩ }
    Reachable (Guards.codex ["Axe"]) s ∧ s.SetsApart t ∧
      ∃ s', s.perform (equip t) = (s', .ok ()) ∧ s' ≠ s ∧ s'.size = s.size ∧ Moves 1 s s' := by
  intro s t
  have hreach : Reachable (Guards.codex ["Axe"]) s :=
    ⟨.troops, "Guards", Guards.squad ["Axe"] [Guards.axe] 1 13, [.resize 4],
      by with_unfolding_all rfl, by with_unfolding_all rfl⟩
  have happart : s.SetsApart t := by decide
  have hok : s.perform (equip t) = ({ Guards.squad ["Axe"] [Guards.axe] 3 54 with
      others := [⟨"Guards", 1, 10, [Guards.bow], [Guards.axe], none⟩] }, .ok ()) := by
    dsimp only [s, t]
    with_unfolding_all rfl
  obtain ⟨hmoved, -⟩ := equip_moves (t := t) hreach
  obtain ⟨hsize, -, hmoves⟩ := hmoved _ hok
  obtain ⟨-, n, hn, hone⟩ := hmoves happart
  have hchanged : { Guards.squad ["Axe"] [Guards.axe] 3 54 with
      others := [⟨"Guards", 1, 10, [Guards.bow], [Guards.axe], none⟩] } ≠ s := by
    intro hsame
    cases congrArg Squad.others hsame
  rw [hone rfl hchanged] at hn
  exact ⟨hreach, happart, _, hok, hchanged, hsize, hn⟩

end Muster.Squad
