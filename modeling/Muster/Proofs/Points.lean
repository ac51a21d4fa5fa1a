import Muster.Proofs.Failure

/-!
# Points

The worth of gear, groups and squads is counted here without a largest amount. Prices stop at the
largest amount at every level (item, bundle, loadout, model, group and squad), and still the points
of a squad are its worth stopped once. The points are kept and not recounted when they are asked
for, so this is a fact about histories: no call leaves points behind that are out of date.
-/

namespace Muster

open Amount (clamp)

/-! ## Exact worth -/

/-- The exact price of all pieces together. -/
def Item.worth (i : Item) : Nat := i.quantity * i.unitCost

/-- The exact price of all bundles together. -/
def Bundle.worth (b : Bundle) : Nat := b.quantity * Amount.sum (b.members.map Item.worth)

/-- The exact price of a piece of gear. -/
def Gear.worth : Gear → Nat
  | item i => i.worth
  | bundle b => b.worth

/-- The exact price of a loadout. -/
def Loadout.worth (l : Loadout) : Nat := Amount.sum (l.map Gear.worth)

/-- The exact points of all models of a group. -/
def Group.worth (g : Group) (base : Loadout) : Nat :=
  g.count * (g.basePoints + (g.loadout base).worth)

/-- The exact points of a squad as it is equipped. -/
def Squad.worth (s : Squad) : Nat := Amount.sum (s.groups.map fun g => g.worth s.gear)

/-- An item costs its exact worth, stopped once. -/
theorem Item.cost_eq_clamp (i : Item) : i.cost = clamp i.worth := rfl

/-- A bundle costs its exact worth, stopped once. -/
theorem Bundle.cost_eq_clamp (b : Bundle) : b.cost = clamp b.worth := by
  have hmembers : Amount.total (b.members.map Item.cost) =
      clamp (Amount.sum (b.members.map Item.worth)) := Amount.total_map_clamp Item.worth b.members
  rw [Bundle.cost, hmembers, Amount.mul, Amount.clamp_mul_clamp, Bundle.worth]

/-- A piece costs its exact worth, stopped once. -/
theorem Gear.cost_eq_clamp (g : Gear) : g.cost = clamp g.worth := by
  cases g with
  | item i => exact i.cost_eq_clamp
  | bundle b => exact b.cost_eq_clamp

/-- A loadout costs its exact worth, stopped once. -/
theorem Loadout.cost_eq_clamp (l : Loadout) : l.cost = clamp l.worth := by
  have hprices : l.map Gear.cost = l.map fun g => clamp g.worth :=
    List.map_congr_left fun g _ => g.cost_eq_clamp
  rw [Loadout.cost, hprices, Amount.total_map_clamp, Loadout.worth]

/-- A model of a group is its base points and the exact worth of what it carries, stopped once. -/
theorem Group.pointsEach_eq_clamp_worth (g : Group) (base : Loadout) :
    g.pointsEach base = clamp (g.basePoints + (g.loadout base).worth) := by
  rw [Group.pointsEach, Loadout.cost_eq_clamp, Amount.add, Amount.clamp_add_clamp]

/-- A group is its exact worth, stopped once. -/
theorem Group.points_eq_clamp (g : Group) (base : Loadout) :
    g.points base = clamp (g.worth base) := by
  rw [Group.points, Group.pointsEach_eq_clamp_worth, Amount.mul, Amount.clamp_mul_clamp,
    Group.worth]

namespace Squad

/-- The total of a squad is its exact worth, stopped once. -/
theorem tally_eq_clamp (s : Squad) : s.tally = clamp s.worth := by
  have hgroups : (s.groups.map fun g => g.points s.gear) =
      s.groups.map fun g => clamp (g.worth s.gear) :=
    List.map_congr_left fun g _ => g.points_eq_clamp s.gear
  rw [tally, hgroups, Amount.total_map_clamp, worth]

/-! ## Points are kept up to date -/

variable {s s' : Squad}

/-- The points are those of the gear and groups as they are now. -/
def UpToDate (s : Squad) : Prop := s.points = s.tally

/-- Points that are brought up to date are up to date. -/
theorem upToDate_refresh (s : Squad) : s.refresh.UpToDate := rfl

/-- Only gear, groups and points matter. -/
theorem UpToDate.of_same (h : s.UpToDate) (hgear : s'.gear = s.gear)
    (hgroups : s'.groups = s.groups) (hpoints : s'.points = s.points) : s'.UpToDate := by
  unfold UpToDate tally at *
  rw [hgear, hgroups, hpoints]
  exact h

/-- An untouched squad is as up to date as it was. -/
theorem UpToDate.of_untouched (h : s.UpToDate) (hs : Untouched s s') : s'.UpToDate :=
  h.of_same hs.gear hs.groups hs.points

/-- A squad made from a template is up to date. -/
theorem upToDate_ofTemplate {x : Codex} {role : Role} {name : String} {t : UnitTemplate}
    (h : ofTemplate x role name t = .ok s) : s.UpToDate := by
  obtain ⟨gear, -, rfl⟩ := exists_of_ofTemplate h
  exact upToDate_refresh _

/-- A mustered squad is up to date. -/
theorem upToDate_muster {x : Codex} {role : Role} {unit : String}
    (h : muster x role unit = .ok s) : s.UpToDate := by
  obtain ⟨t, -, htemplate⟩ := exists_of_muster h
  exact upToDate_ofTemplate htemplate

/-- An application leaves the points up to date, whether it succeeds or not. -/
theorem upToDate_equip (h : s.UpToDate) (sheet : Sheet) :
    (s.perform (equip sheet)).1.UpToDate := by
  rw [perform_equip]
  split
  · exact h
  · dsimp only
    split
    · exact h
    · split
      · exact h
      · split
        · split
          · exact upToDate_refresh _
          · next hcarve =>
            obtain rfl := carve_failed hcarve
            exact h
        · exact upToDate_refresh _

/-- Applications in turn leave the points up to date, as far as they get. -/
theorem upToDate_equipInTurn (h : s.UpToDate) (sheets : List Sheet) :
    (s.perform (equipInTurn sheets)).1.UpToDate := by
  induction sheets generalizing s with
  | nil => exact h
  | cons sheet rest ih =>
    have first := upToDate_equip h sheet
    rw [perform_equipInTurn_cons]
    split
    all_goals
      rename_i hfirst
      rw [hfirst] at first
    · exact ih first
    · exact first

/-- Applications of sheets leave the points up to date, put back or not. -/
theorem upToDate_equipEach (h : s.UpToDate) (sheets : List Sheet) :
    (s.perform (equipEach sheets)).1.UpToDate := by
  have turn := upToDate_equipInTurn h sheets
  have frame := reequipped_equipInTurn s sheets
  rw [perform_equipEach]
  split
  all_goals
    rename_i hturn
    rw [hturn] at turn frame
  · exact turn
  · -- taking back restores the old points together with the gear that they were counted from
    change (restore s _).UpToDate
    rw [frame.restore_eq]
    exact h

/-- Applying what is picked leaves the points up to date. -/
theorem upToDate_equipPicked (h : s.UpToDate) : (s.perform equipPicked).1.UpToDate := by
  have each := upToDate_equipEach h s.pending
  rw [perform_equipPicked]
  split
  · exact h
  · split
    all_goals
      rename_i heach
      rw [heach] at each
    · exact each.of_same rfl rfl rfl
    · exact each

/-- A resize leaves the points up to date. -/
theorem upToDate_resize (h : s.UpToDate) (size : Nat) : (s.perform (resize size)).1.UpToDate := by
  rcases hresize : s.perform (resize size) with ⟨s', e | _⟩
  · obtain rfl := resize_failed hresize
    exact h
  · obtain ⟨-, -, rfl⟩ := perform_resize_eq_ok_iff.mp hresize
    exact upToDate_refresh _

/-- A resize by type leaves the points up to date. -/
theorem upToDate_resizeModels (h : s.UpToDate) (counts : List Nat) :
    (s.perform (resizeModels counts)).1.UpToDate := by
  rcases hresize : s.perform (resizeModels counts) with ⟨s', e | _⟩
  · obtain rfl := resizeModels_failed hresize
    exact h
  · obtain ⟨own, extra, groups, -, -, -, -, -, rfl⟩ := perform_resizeModels_eq_ok_iff.mp hresize
    exact upToDate_refresh _

/-- A reset leaves the points up to date. -/
theorem upToDate_reset (h : s.UpToDate) : (s.perform reset).1.UpToDate := by
  rw [perform_reset]
  split
  · exact h
  · next htemplate => exact upToDate_ofTemplate htemplate

/-- Picks may change, but they have no points until they are applied. -/
theorem upToDate_editSheet (h : s.UpToDate) (index : Nat)
    (edit : Sheet → Except PickError Sheet) : (s.perform (editSheet index edit)).1.UpToDate := by
  have looked := h.of_untouched (untouched_sheetAt s index)
  rw [perform_editSheet]
  split
  all_goals
    rename_i hat
    rw [hat] at looked
  · split
    · exact looked.of_same rfl rfl rfl
    · exact looked
  · exact looked

/-- Every call keeps the points up to date, whether it succeeds or fails. -/
theorem upToDate_perform (h : s.UpToDate) (c : Call) : (s.perform c.action).1.UpToDate := by
  cases c with
  | list =>
    change (s.perform ensureSheets).1.UpToDate
    rw [perform_ensureSheets]
    exact h.of_untouched (untouched_readSheets s)
  | mark index c => exact upToDate_editSheet h index c.answer
  | clearPicks => exact h.of_same rfl rfl rfl
  | equip sheet => exact upToDate_equip h sheet
  | equipEach sheets => exact upToDate_equipEach h sheets
  | equipPicked => exact upToDate_equipPicked h
  | resize size => exact upToDate_resize h size
  | resizeModels counts => exact upToDate_resizeModels h counts
  | rename name => exact h.of_same rfl rfl rfl
  | reset => exact upToDate_reset h

/-- The points stay up to date whatever is called. -/
theorem upToDate_run (h : s.UpToDate) (calls : List Call) : (s.run calls).UpToDate := by
  induction calls generalizing s with
  | nil => exact h
  | cons c rest ih => exact ih (upToDate_perform h c)

/-- After every history of a new squad, its points are the exact worth of its models with all they
carry, stopped once. -/
theorem points_run_eq_clamp_worth {x : Codex} {role : Role} {unit : String}
    (h : muster x role unit = .ok s) (calls : List Call) :
    (s.run calls).points = clamp (s.run calls).worth := by
  have current : (s.run calls).UpToDate := upToDate_run (upToDate_muster h) calls
  rw [← tally_eq_clamp]
  exact current

/-- Four guards of whom two have taken an axe. -/
theorem points_guards :
    muster (Guards.codex ["Bow"]) .troops "Guards" =
        .ok (Guards.squad ["Bow"] [Guards.bow] 1 15) ∧
      ((Guards.squad ["Bow"] [Guards.bow] 1 15).run
          [.resize 4, .equip (Guards.sheet [⟨0, 1⟩])]).points =
        clamp ((Guards.squad ["Bow"] [Guards.bow] 1 15).run
          [.resize 4, .equip (Guards.sheet [⟨0, 1⟩])]).worth := by
  have hmuster : muster (Guards.codex ["Bow"]) .troops "Guards" =
      .ok (Guards.squad ["Bow"] [Guards.bow] 1 15) := by with_unfolding_all rfl
  exact ⟨hmuster, points_run_eq_clamp_worth hmuster _⟩

end Squad

end Muster
