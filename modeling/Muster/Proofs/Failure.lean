import Muster.Proofs.Calls

/-!
# Failed calls

An operation writes in place, and most can fail in the middle: in a list of options of which some
have been applied, or once the groups of further models have been read. Here a failed call is shown
to leave the squad as it was. The one lasting effect of a failure is that the options may have been
read, and no picks come by that.

Equipping writes gear, groups and points only. That is what a failed list of options takes back, so
taking it back restores the squad as a whole.
-/

namespace Muster.Squad

variable {s s' s'' : Squad} {e : SquadError}

/-! ## What equipping may change -/

/-- The second squad has other gear, groups and points at most. -/
def Reequipped (s s' : Squad) : Prop := restore s' s = s'

/-- A squad is itself with other equipment, none of it changed. -/
theorem Reequipped.refl (s : Squad) : Reequipped s s := rfl

/-- Other equipment twice over is other equipment. -/
theorem Reequipped.trans (h : Reequipped s s') (h' : Reequipped s' s'') : Reequipped s s'' := by
  calc
    restore s'' s = restore s'' (restore s' s) := rfl
    _ = restore s'' s' := by rw [h]
    _ = s'' := h'

/-- Taking back what equipping changes gives the first squad again. -/
theorem Reequipped.restore_eq (h : Reequipped s s') : restore s s' = s := by
  unfold Reequipped at h
  rw [← h]
  rfl

/-- Other equipment leaves the sheets as they are. -/
theorem Reequipped.sheets_eq (h : Reequipped s s') : s'.sheets = s.sheets := by
  unfold Reequipped at h
  rw [← h]
  rfl

/-- Bringing the points up to date changes nothing but equipment. -/
theorem reequipped_refresh (s : Squad) : Reequipped s s.refresh := rfl

/-- Giving up a base piece changes nothing but equipment. -/
theorem reequipped_giveUp (s : Squad) (piece : Gear) : Reequipped s (s.giveUp piece) := by
  unfold giveUp
  split <;> rfl

/-- Equipping every model changes nothing but equipment. -/
theorem reequipped_equipAll (s : Squad) (sheet : Sheet) : Reequipped s (s.equipAll sheet) := by
  have given (pieces : Loadout) : Reequipped s (pieces.foldl giveUp s) := by
    induction pieces generalizing s with
    | nil => exact .refl s
    | cons piece rest ih => exact (reequipped_giveUp s piece).trans (ih _)
  exact (given sheet.gear).trans rfl

/-- Carving changes nothing but equipment, whether it succeeds or not. -/
theorem reequipped_carve (s : Squad) (sheet : Sheet) :
    Reequipped s (s.perform (carve sheet)).1 := by
  rw [perform_carve]
  split
  · rfl
  · dsimp only
    split
    · rfl
    · split <;> rfl

/-- An application changes nothing but equipment, whether it succeeds or not. -/
theorem reequipped_equip (s : Squad) (sheet : Sheet) :
    Reequipped s (s.perform (equip sheet)).1 := by
  have carved := reequipped_carve s sheet
  rw [perform_equip]
  split
  · rfl
  · dsimp only
    split
    · rfl
    · split
      · rfl
      · split
        · split
          all_goals
            rename_i h
            rw [h] at carved
          · exact carved.trans (reequipped_refresh _)
          · exact carved
        · exact (reequipped_equipAll s sheet).trans (reequipped_refresh _)

/-- Applications in turn change nothing but equipment, as far as they get. -/
theorem reequipped_equipInTurn (s : Squad) (sheets : List Sheet) :
    Reequipped s (s.perform (equipInTurn sheets)).1 := by
  induction sheets generalizing s with
  | nil => rfl
  | cons sheet rest ih =>
    have first := reequipped_equip s sheet
    rw [perform_equipInTurn_cons]
    split
    all_goals
      rename_i h
      rw [h] at first
    · exact first.trans (ih _)
    · exact first

/-! ## Operations that fail -/

/-- A carving that fails leaves the squad as it was. -/
theorem carve_failed {sheet : Sheet} (h : s.perform (carve sheet) = (s', .error e)) : s' = s := by
  rw [perform_carve] at h
  dsimp only at h
  split at h
  · cases h
  · split at h
    · cases h
      rfl
    · split at h
      · cases h
        rfl
      · cases h

/-- An application that fails leaves the squad as it was. -/
theorem equip_failed {sheet : Sheet} (h : s.perform (equip sheet) = (s', .error e)) : s' = s := by
  rw [perform_equip] at h
  dsimp only at h
  split at h
  · cases h
    rfl
  · split at h
    · cases h
      rfl
    · split at h
      · cases h
      · split at h
        · split at h
          · cases h
          · next hcarve =>
            cases h
            exact carve_failed hcarve
        · cases h

/-- However many options of the list have been applied before one fails, nothing of them stays. -/
theorem equipEach_failed {sheets : List Sheet}
    (h : s.perform (equipEach sheets) = (s', .error e)) : s' = s := by
  have frame := reequipped_equipInTurn s sheets
  rw [perform_equipEach] at h
  split at h
  · cases h
  · next hturn =>
    rw [hturn] at frame
    cases h
    exact frame.restore_eq

/-- Applying what is picked leaves the squad as it was where it fails. -/
theorem equipPicked_failed (h : s.perform equipPicked = (s', .error e)) : s' = s := by
  rw [perform_equipPicked] at h
  split at h
  · cases h
    rfl
  · split at h
    · cases h
    · next heach =>
      cases h
      exact equipEach_failed heach

/-- A resize that fails leaves the squad as it was. -/
theorem resize_failed {size : Nat} (h : s.perform (resize size) = (s', .error e)) : s' = s := by
  rw [perform_resize] at h
  split at h
  · cases h
    rfl
  · split at h
    · cases h
      rfl
    · cases h

/-- A resize by type that fails leaves the squad as it was. -/
theorem resizeModels_failed {counts : List Nat}
    (h : s.perform (resizeModels counts) = (s', .error e)) : s' = s := by
  rw [perform_resizeModels] at h
  dsimp only at h
  split at h
  · cases h
    rfl
  · split at h
    · cases h
      rfl
    · split at h
      · cases h
        rfl
      · split at h
        · cases h
          rfl
        · split at h
          · cases h
            rfl
          · split at h
            · cases h
              rfl
            · cases h

/-- A reset that fails leaves the squad as it was. -/
theorem reset_failed (h : s.perform reset = (s', .error e)) : s' = s := by
  rw [perform_reset] at h
  split at h
  · cases h
    rfl
  · cases h

/-! ## Options that are read on the way -/

/-- The picks on an option; an option that has not been read has none. -/
def picksOf (s : Squad) (index : Nat) : List Pick := (s.sheetList[index]?).elim [] Sheet.picks

/-- A squad is left as it was, but for options without picks that have been read. -/
structure Untouched (s s' : Squad) : Prop where
  name : s'.name = s.name
  gear : s'.gear = s.gear
  groups : s'.groups = s.groups
  points : s'.points = s.points
  picks : ∀ index, s'.picksOf index = s.picksOf index

/-- A squad that is the same is untouched. -/
theorem Untouched.of_eq (h : s' = s) : Untouched s s' := by
  subst h
  exact ⟨rfl, rfl, rfl, rfl, fun _ => rfl⟩

/-- Options come without picks when they are read. -/
theorem picks_of_freshSheets {sheets : List Sheet} (h : s.freshSheets = .ok sheets) :
    ∀ sheet ∈ sheets, sheet.picks = [] := by
  intro sheet hsheet
  obtain ⟨clause, -, hread⟩ := exists_of_mem_mapM h hsheet
  split at hread
  · next hclause =>
    cases hread
    unfold Sheet.read at hclause
    split at hclause
    · cases hclause
    · cases hclause
      rfl
  · cases hread

/-- Reading the options leaves no trace but the sheets, and no picks on them. -/
theorem untouched_readSheets (s : Squad) : Untouched s (s.perform readSheets).1 := by
  rw [perform_readSheets]
  split
  · exact .of_eq rfl
  · next hnone =>
    split
    · next sheets hfresh =>
      refine ⟨rfl, rfl, rfl, rfl, fun index => ?_⟩
      have before : s.picksOf index = [] := by
        unfold picksOf sheetList
        rw [hnone]
        rfl
      rw [before]
      change (sheets[index]?).elim [] Sheet.picks = []
      cases hat : sheets[index]? with
      | none => rfl
      | some sheet => exact picks_of_freshSheets hfresh sheet (List.mem_of_getElem? hat)
    · exact .of_eq rfl

/-- Looking up a sheet leaves a squad untouched. -/
theorem untouched_sheetAt (s : Squad) (index : Nat) :
    Untouched s (s.perform (sheetAt index)).1 := by
  have read := untouched_readSheets s
  rw [perform_sheetAt]
  split
  all_goals
    rename_i h
    rw [h] at read
  · split <;> exact read
  · exact read

/-- A change of a sheet that fails leaves the squad untouched. -/
theorem editSheet_failed {index : Nat} {edit : Sheet → Except PickError Sheet}
    (h : s.perform (editSheet index edit) = (s', .error e)) : Untouched s s' := by
  have looked := untouched_sheetAt s index
  rw [perform_editSheet] at h
  split at h
  all_goals
    rename_i hat
    rw [hat] at looked
  · split at h
    · cases h
    · cases h
      exact looked
  · cases h
    exact looked

/-! ## The law -/

/-- A call that fails leaves the squad's name, gear, groups and points and the picks on every option
as they were. -/
theorem untouched_of_failed (s s' : Squad) (c : Call) (e : SquadError)
    (h : s.perform c.action = (s', .error e)) : Untouched s s' := by
  cases c with
  | list =>
    have read := untouched_readSheets s
    change s.perform ensureSheets = _ at h
    rw [perform_ensureSheets] at h
    obtain rfl := congrArg Prod.fst h
    exact read
  | mark index c => exact editSheet_failed h
  | clearPicks => cases h
  | equip sheet => exact .of_eq (equip_failed h)
  | equipEach sheets => exact .of_eq (equipEach_failed h)
  | equipPicked => exact .of_eq (equipPicked_failed h)
  | resize size => exact .of_eq (resize_failed h)
  | resizeModels counts => exact .of_eq (resizeModels_failed h)
  | rename name => cases h
  | reset => exact .of_eq (reset_failed h)

/-- One guard takes a bow through a first option, and the second option fails for want of models. -/
theorem untouched_guards :
    ∃ s', (Guards.squad ["Axe"] [Guards.axe] 1 13).perform
        (Call.equipEach [{ Guards.sheet [⟨0, 1⟩] with offer := ⟨none, .squad, .single Guards.bow⟩ },
          Guards.sheet [⟨1, 1⟩]]).action = (s', .error (.insufficientModels 2 1 1 18)) ∧
      Untouched (Guards.squad ["Axe"] [Guards.axe] 1 13) s' := by
  have hfail : (Guards.squad ["Axe"] [Guards.axe] 1 13).perform
      (Call.equipEach [{ Guards.sheet [⟨0, 1⟩] with offer := ⟨none, .squad, .single Guards.bow⟩ },
        Guards.sheet [⟨1, 1⟩]]).action =
      (Guards.squad ["Axe"] [Guards.axe] 1 13, .error (.insufficientModels 2 1 1 18)) := by
    with_unfolding_all rfl
  exact ⟨_, hfail, untouched_of_failed _ _ _ _ hfail⟩

end Muster.Squad
