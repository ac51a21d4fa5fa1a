import Muster.Proofs.Interleaving
import Muster.Proofs.Menus

/-!
# Releasing an edit

A pending edit cannot be resized, and picks that cannot be applied stay where they are. Not every
caller can cancel an edit; one that cannot may still drop the picks, option by option, and apply
what is left, which is nothing. However the edit has come to be pending, no step of this is refused,
and it leaves what cancelling would have left.
-/

namespace Muster

namespace Squad

variable {s s' : Squad}

/-- Options that have been read stay when an operation fails, as does everything else. -/
theorem eq_of_action_failed {c : Edit.Call} {sheets : List Sheet} {err : SquadError}
    (hsheets : s.sheets = some sheets) (h : s.perform c.action = (s', .error err)) : s' = s := by
  cases c with
  | list =>
    change s.perform ensureSheets = _ at h
    rw [perform_ensureSheets, perform_readSheets_of_some hsheets] at h
    cases h
  | pick index | pickList index =>
    change s.perform (editSheet index _) = _ at h
    rw [perform_editSheet_of_read hsheets] at h
    split at h <;> cases h
    rfl
  | apply => exact equipPicked_failed h
  | resize => exact resize_failed h
  | resizeModels => exact resizeModels_failed h
  | reset => exact reset_failed h
  | finish | cancel | rename => cases h

/-- Sheets that are made sure of are there. -/
theorem exists_sheets_of_ensureSheets (h : s.perform ensureSheets = (s', .ok ())) :
    ∃ sheets, s'.sheets = some sheets := by
  rw [perform_ensureSheets] at h
  rcases s.readSheets_cases with ⟨e, hread⟩ | ⟨sheets, hread⟩ <;> rw [hread] at h <;> cases h
  exact ⟨sheets, rfl⟩

/-- Without picks there is nothing to apply, and nothing that could fail. -/
theorem perform_equipPicked_of_unpicked (h : ∀ index, s.picksOf index = []) :
    s.perform equipPicked = (s, .ok ()) := by
  have hnone : s.hasPending = false := by
    rw [← Bool.not_eq_true, hasPending_iff]
    rintro ⟨index, hpicks⟩
    exact hpicks (h index)
  have hpending : s.pending = [] := by
    rw [pending, List.filter_eq_nil_iff]
    exact List.any_eq_false.mp hnone
  have hequip : s.perform (equipEach []) = (s, .ok ()) := by
    rw [perform_equipEach, equipInTurn, perform_pure]
  rw [perform_equipPicked, hpending, hequip]
  exact congrArg (·, Except.ok ()) (clearPicks_eq_self h)

end Squad

namespace Edit

variable {e e' : Edit} {c : Call} {s : Squad}

/-! ## Options of an edit where picks can be made -/

/-- Where picks can be made, the options have been read. -/
def Opened (e : Edit) : Prop := e.stage ∈ Step.pick.stages → ∃ sheets, e.squad.sheets = some sheets

/-- A call that fails leaves an edit with its sheets read as it was. -/
theorem eq_of_call_failed {sheets : List Sheet} {err : EditError}
    (hsheets : e.squad.sheets = some sheets) (h : e.call c = (e', .error err)) : e' = e := by
  rcases call_cases e c with ⟨err', hrefused⟩ | ⟨-, hcall⟩
  · rw [hrefused] at h
    cases h
    rfl
  · rw [hcall, outcome, work] at h
    split at h
    · next hfail =>
      cases h
      rw [Squad.eq_of_action_failed hsheets hfail]
    · cases h

/-- A call leaves the options read wherever picks can be made. -/
theorem Opened.call (h : e.Opened) (c : Call) : (e.call c).1.Opened := by
  rcases hcall : e.call c with ⟨e', err | _⟩
  · intro hturn
    rw [(call_failed hcall).1] at hturn
    obtain ⟨sheets, hsheets⟩ := h hturn
    exact ⟨sheets, by rw [eq_of_call_failed hsheets hcall, hsheets]⟩
  · obtain ⟨-, hok, hstage⟩ := call_ok hcall
    intro hturn
    rw [hstage] at hturn
    cases c with
    | list => exact Squad.exists_sheets_of_ensureSheets hok
    | pick | pickList => exact Squad.exists_sheets_of_editSheet hok
    | apply | finish | cancel | reset =>
      -- no pick can be made in the stage that these lead to
      revert hturn
      exact nofun
    | resize =>
      rw [Squad.sheets_of_resize hok]
      exact h hturn
    | resizeModels =>
      rw [Squad.sheets_of_resizeModels hok]
      exact h hturn
    | rename name =>
      obtain ⟨sheets, hsheets⟩ := h hturn
      exact ⟨sheets, (congrArg (fun outcome => outcome.1.sheets) hok).symm.trans hsheets⟩

/-- The options are read wherever picks can be made, whatever is called. -/
theorem Opened.run (h : e.Opened) (calls : List Call) : (e.run calls).Opened := by
  induction calls generalizing e with
  | nil => exact h
  | cons c rest ih => exact ih (h.call c)

/-- Picks can be made on whatever a history of calls leaves in a stage for it. -/
theorem browsing_of_run {calls : List Call}
    (hturn : ((start s).run calls).stage ∈ Step.pick.stages) :
    Browsing ((start s).run calls).squad ((start s).run calls) := by
  have hstart : (start s).Opened := nofun
  exact ⟨hturn, hstart.run calls hturn, rfl⟩

/-! ## Picks that are dropped one option at a time -/

/-- A run goes on from what the first call leaves. -/
theorem run_cons (e : Edit) (c : Call) (rest : List Call) :
    e.run (c :: rest) = (e.call c).1.run rest := rfl

/-- The log of a run begins with the first call and its result. -/
theorem log_cons (e : Edit) (c : Call) (rest : List Call) :
    e.log (c :: rest) = (c, (e.call c).2) :: (e.call c).1.log rest := rfl

/-- The calls that drop the picks on some options. -/
def drops (order : List Nat) : List Call := order.map fun index => .pickList index []

/-- Picks on an option can always be dropped; those on the others stay as they are. -/
theorem Browsing.drop (h : Browsing s e) {index : Nat} (hindex : index < e.squad.sheetList.length) :
    ∃ e', e.call (.pickList index []) = (e', .ok ()) ∧ Browsing s e' ∧ e'.stage = .pending ∧
      e'.squad.sheetList.length = e.squad.sheetList.length ∧
      ∀ j, e'.squad.picksOf j = if index = j then [] else e.squad.picksOf j := by
  obtain ⟨sheets, hsheets⟩ := h.read
  obtain ⟨sheet, hat⟩ : ∃ sheet, e.squad.sheetList[index]? = some sheet :=
    ⟨_, List.getElem?_eq_getElem hindex⟩
  have hchanged : (e.squad.changed index fun sheet => sheet.pickList []) = .ok sheet.clear := by
    rw [Squad.changed, hat]
    rfl
  have hcall : e.call (.pickList index []) =
      (⟨{ e.squad with sheets := some (e.squad.sheetList.set index sheet.clear) }, .pending⟩,
        .ok ()) := by
    rw [Edit.call, pickList, editSheet_of_read h.turn hsheets, hchanged]
  refine ⟨_, hcall, ?_, rfl, List.length_set, fun j => ?_⟩
  · have hnext := h.editSheet index (.pickList [])
    change Browsing s (e.call (.pickList index [])).1 at hnext
    rwa [hcall] at hnext
  · change ((e.squad.sheetList.set index sheet.clear)[j]?).elim [] Sheet.picks = _
    rw [List.getElem?_set, if_pos hindex]
    split <;> rfl

/-- So no call that drops picks fails, and none is left on the options gone through. -/
theorem Browsing.run_drops (h : Browsing s e) (hstage : e.stage = .pending) {order : List Nat}
    (horder : ∀ index ∈ order, index < e.squad.sheetList.length) :
    e.log (drops order) = (drops order).map (·, .ok ()) ∧
      Browsing s (e.run (drops order)) ∧ (e.run (drops order)).stage = .pending ∧
      ∀ j, j ∈ order ∨ e.squad.picksOf j = [] → (e.run (drops order)).squad.picksOf j = [] := by
  induction order generalizing e with
  | nil => exact ⟨rfl, h, hstage, fun j hj => hj.resolve_left List.not_mem_nil⟩
  | cons index rest ih =>
    obtain ⟨e', hcall, hbrowsing, hpending, hlength, hpicks⟩ :=
      h.drop (horder index List.mem_cons_self)
    obtain ⟨hlog, hlast, hlastStage, hnone⟩ := ih hbrowsing hpending fun j hj => by
      rw [hlength]
      exact horder j (List.mem_cons_of_mem index hj)
    rw [drops, List.map_cons, run_cons, log_cons, hcall]
    refine ⟨congrArg (_ :: ·) hlog, hlast, hlastStage, fun j hj => hnone j ?_⟩
    rw [hpicks]
    rcases hj with hj | hj
    · rcases List.mem_cons.mp hj with rfl | hj
      · exact .inr (if_pos rfl)
      · exact .inl hj
    · right
      split
      · rfl
      · exact hj

/-! ## The way out -/

/-- Without picks, a pending edit is applied and finished with nothing changed but the stage. -/
theorem apply_of_unpicked (hstage : e.stage = .pending) (h : ∀ index, e.squad.picksOf index = []) :
    e.apply = (⟨e.squad, .applied⟩, .ok e.squad.points) := by
  rw [apply, inTurn, if_pos (by rw [hstage]; decide), work,
    Squad.perform_equipPicked_of_unpicked h]

/-- However an edit has come to be pending, and whatever is picked: dropping the picks on every
option, in any order, then applying and finishing is never refused. The squad has the gear, groups
and points that it had, and the edit is the one that cancelling would have left. -/
theorem release_pending (s : Squad) (calls : List Call) (order : List Nat) :
    let e := (start s).run calls
    e.stage = .pending → (∀ index, index ∈ order ↔ index < e.squad.sheetList.length) →
    e.log (drops order) = (drops order).map (·, .ok ()) ∧
      ∃ applied released, (e.run (drops order)).apply = (applied, .ok e.squad.points) ∧
        applied.finish = (released, .ok ()) ∧ released.stage = .viewing ∧
        released.squad.gear = e.squad.gear ∧ released.squad.groups = e.squad.groups ∧
        released.squad.points = e.squad.points ∧ (∀ index, released.squad.picksOf index = []) ∧
        e.cancel = (released, .ok ()) := by
  intro e hstage horder
  have hturn : e.stage ∈ Step.pick.stages := by rw [hstage]; decide
  have hbrowsing : Browsing e.squad e := browsing_of_run hturn
  obtain ⟨hlog, hlast, hpending, hdropped⟩ :=
    hbrowsing.run_drops hstage fun index => (horder index).mp
  generalize e.run (drops order) = last at hlast hpending hdropped
  have hnone (index : Nat) : last.squad.picksOf index = [] := by
    refine hdropped index ?_
    by_cases hindex : index < e.squad.sheetList.length
    · exact .inl ((horder index).mpr hindex)
    · right
      rw [Squad.picksOf, List.getElem?_eq_none (Nat.le_of_not_lt hindex)]
      rfl
  have hsquad : last.squad = e.squad.clearPicks :=
    (Squad.clearPicks_eq_self hnone).symm.trans hlast.unpicked
  have happly := apply_of_unpicked hpending hnone
  rw [hsquad] at happly hnone
  exact ⟨hlog, _, _, happly, rfl, rfl, rfl, rfl, rfl, hnone, hbrowsing.cancel_eq⟩

/-- A single new guard picks a bow, which takes two guards, and cannot get another guard now; then
it picks more than the option allows. -/
theorem release_pending_guard :
    let s := Guards.squad ["Axe"] [Guards.axe] 1 13
    let calls := [.list, .pick 0 (.index 1), .apply, .resize 2, .pickList 0 [0, 1], .apply]
    let e := (start s).run calls
    Squad.muster (Guards.codex ["Axe"]) .troops "Guards" = .ok s ∧
      ((start s).log calls).map Prod.snd =
        [.ok (), .ok (), .error (.squad (.insufficientModels 2 1 1 13)),
          .error (.outOfTurn .pending .resize), .ok (),
          .error (.squad (.pick (.overselection 1 2)))] ∧
      e.stage = .pending ∧ (∀ index, index ∈ [0] ↔ index < e.squad.sheetList.length) ∧
      e.log (drops [0]) = [(.pickList 0 [], .ok ())] ∧
      ∃ applied released, (e.run (drops [0])).apply = (applied, .ok 13) ∧
        applied.finish = (released, .ok ()) ∧ (released.resize 2).2 = .ok 26 := by
  intro s calls
  have hmuster : Squad.muster (Guards.codex ["Axe"]) .troops "Guards" = .ok s := by
    with_unfolding_all rfl
  have hlist : (start s).call .list =
      (⟨{ s with sheets := some [Guards.sheet []] }, .listed⟩, .ok ()) := by
    with_unfolding_all rfl
  have hlog : ((start s).log calls).map Prod.snd =
      [.ok (), .ok (), .error (.squad (.insufficientModels 2 1 1 13)),
        .error (.outOfTurn .pending .resize), .ok (),
        .error (.squad (.pick (.overselection 1 2)))] := by
    rw [log_cons, hlist]
    subst calls s
    rfl
  have hrun : (start s).run calls =
      ⟨{ s with sheets := some [Guards.sheet [⟨0, 1⟩, ⟨1, 1⟩]] }, .pending⟩ := by
    rw [run_cons, hlist]
    subst calls s
    rfl
  have hrelease := release_pending s calls [0]
  rw [hrun] at hrelease ⊢
  intro e
  have horder (index : Nat) : index ∈ [0] ↔ index < e.squad.sheetList.length := by
    rw [List.mem_singleton]
    exact Nat.lt_one_iff.symm
  obtain ⟨hdropped, applied, released, happly, hfinish, -, -, -, -, -, hcancel⟩ :=
    hrelease rfl horder
  obtain rfl : e.cancel.1 = released := congrArg Prod.fst hcancel
  have hresize : (e.cancel.1.resize 2).2 = .ok 26 := by
    subst e calls s
    rfl
  exact ⟨hmuster, hlog, rfl, horder, hdropped, applied, _, happly, hfinish, hresize⟩

end Edit

end Muster
