import Muster.Edit
import Muster.Proofs.Failure

/-!
# Edits

An edit keeps its stage beside the squad, while the picks are kept on the sheets of the squad. Every
call is one operation on the squad, in turn in some stages only, and goes on to a stage if the
operation succeeds. The stage and the picks are shown to go together through every history of calls:
where something is picked the edit is in the pending stage, and a call that fails, at whatever
point, changes neither.
-/

namespace Muster

namespace Squad

variable {s s' : Squad}

/-! ## Picks on a squad -/

/-- Something is pending if and only if some option has a pick. -/
theorem hasPending_iff : s.hasPending = true ↔ ∃ index, s.picksOf index ≠ [] := by
  simp only [hasPending, List.any_eq_true, Sheet.hasSelection, Bool.not_eq_true',
    List.isEmpty_eq_false_iff]
  constructor
  · rintro ⟨sheet, hsheet, hpicks⟩
    obtain ⟨index, hat⟩ := List.mem_iff_getElem?.mp hsheet
    refine ⟨index, ?_⟩
    rw [picksOf, hat]
    exact hpicks
  · rintro ⟨index, hpicks⟩
    cases hat : s.sheetList[index]? with
    | none =>
      rw [picksOf, hat] at hpicks
      exact absurd rfl hpicks
    | some sheet =>
      rw [picksOf, hat] at hpicks
      exact ⟨sheet, List.mem_of_getElem? hat, hpicks⟩

/-- What is picked on an untouched squad was picked before. -/
theorem Untouched.hasPending (h : Untouched s s') (hpending : s'.hasPending = true) :
    s.hasPending = true := by
  rw [hasPending_iff] at hpending ⊢
  simpa only [h.picks] using hpending

/-- After the picks are cleared nothing is picked. -/
theorem hasPending_clearPicks (s : Squad) : s.clearPicks.hasPending = false := by
  rw [Squad.hasPending, sheetList, clearPicks, List.any_eq_false]
  cases s.sheets with
  | none => simp
  | some sheets => simp [Sheet.hasSelection, Sheet.clear]

/-- The sheet that a change makes of the one in place `index`, or why it fails. -/
def changed (s : Squad) (index : Nat) (edit : Sheet → Except PickError Sheet) :
    Except SquadError Sheet :=
  match s.sheetList[index]? with
  | none => .error (.noSuchOption s.template.name index s.sheetList.length)
  | some sheet => (edit sheet).mapError .pick

/-- A changed sheet is made of the one in its place, by an edit that succeeds. -/
theorem exists_of_changed_eq_ok {index : Nat} {edit : Sheet → Except PickError Sheet}
    {sheet' : Sheet} (h : s.changed index edit = .ok sheet') :
    ∃ sheet, s.sheetList[index]? = some sheet ∧ edit sheet = .ok sheet' := by
  unfold changed at h
  split at h
  · cases h
  · next sheet hat =>
    cases hedit : edit sheet with
    | error e =>
      rw [hedit] at h
      cases h
    | ok t =>
      rw [hedit] at h
      cases h
      exact ⟨sheet, hat, hedit⟩

/-- Once the options have been read, picking on one changes its sheet only. -/
theorem perform_editSheet_of_read {sheets : List Sheet} (hsheets : s.sheets = some sheets)
    (index : Nat) (edit : Sheet → Except PickError Sheet) :
    s.perform (editSheet index edit) =
      match s.changed index edit with
      | .error e => (s, .error e)
      | .ok sheet => ({ s with sheets := some (s.sheetList.set index sheet) }, .ok ()) := by
  have hlist : s.sheetList = sheets := by rw [sheetList, hsheets, Option.getD_some]
  rw [perform_editSheet, perform_sheetAt, perform_readSheets_of_some hsheets, changed, hlist]
  dsimp only
  cases sheets[index]? with
  | none => rfl
  | some sheet =>
    dsimp only
    rw [hlist]
    cases edit sheet <;> rfl

/-- Picks are made on options that have been read. -/
theorem exists_sheets_of_editSheet {index : Nat} {edit : Sheet → Except PickError Sheet}
    (h : s.perform (editSheet index edit) = (s', .ok ())) : ∃ sheets, s'.sheets = some sheets := by
  rw [perform_editSheet] at h
  split at h
  · split at h <;> cases h
    exact ⟨_, rfl⟩
  · cases h

/-- A resize keeps the sheets. -/
theorem sheets_of_resize {size : Nat} (h : s.perform (resize size) = (s', .ok ())) :
    s'.sheets = s.sheets := by
  obtain ⟨-, -, rfl⟩ := perform_resize_eq_ok_iff.mp h
  rfl

/-- A resize by type keeps the sheets. -/
theorem sheets_of_resizeModels {counts : List Nat}
    (h : s.perform (resizeModels counts) = (s', .ok ())) : s'.sheets = s.sheets := by
  obtain ⟨own, extra, groups, -, -, -, -, -, rfl⟩ := perform_resizeModels_eq_ok_iff.mp h
  rfl

/-- After a reset nothing is picked. -/
theorem hasPending_of_reset (h : s.perform reset = (s', .ok ())) : s'.hasPending = false := by
  rw [perform_reset] at h
  split at h
  · cases h
  · next htemplate =>
    cases h
    obtain ⟨gear, -, rfl⟩ := exists_of_ofTemplate htemplate
    rfl

/-- After what is picked has been applied nothing is picked. -/
theorem hasPending_of_equipPicked (h : s.perform equipPicked = (s', .ok ())) :
    s'.hasPending = false := by
  rw [perform_equipPicked] at h
  split at h
  · cases h
  · split at h <;> cases h
    exact hasPending_clearPicks _

/-- Making sure of the sheets leaves a squad untouched. -/
theorem untouched_ensureSheets (s : Squad) : Untouched s (s.perform ensureSheets).1 := by
  rw [perform_ensureSheets]
  exact untouched_readSheets s

end Squad

namespace Edit

/-! ## Calls -/

/-- A call on an edit. -/
inductive Call where
  | list
  | pick (index : Nat) (c : Choice)
  | pickList (index : Nat) (indices : List Nat)
  | apply
  | finish
  | cancel
  | resize (size : Nat)
  | resizeModels (counts : List Nat)
  | reset
  | rename (name : String)

/-- The edit that a call leaves behind, and whether the call fails. -/
def call (e : Edit) : Call → Edit × Except EditError Unit
  | .list => e.list.map id (Except.map fun _ => ())
  | .pick index c => e.pick index c
  | .pickList index indices => e.pickList index indices
  | .apply => e.apply.map id (Except.map fun _ => ())
  | .finish => e.finish
  | .cancel => e.cancel
  | .resize size => (e.resize size).map id (Except.map fun _ => ())
  | .resizeModels counts => (e.resizeModels counts).map id (Except.map fun _ => ())
  | .reset => e.reset
  | .rename name => (e.rename name, .ok ())

/-- The edit after a history of calls, whether they succeed or fail. -/
def run (e : Edit) (calls : List Call) : Edit := calls.foldl (fun e c => (e.call c).1) e

namespace Call

/-- The step that a call is, if it is bound to a stage. -/
def step? : Call → Option Step
  | list => some .list
  | pick .. | pickList .. => some .pick
  | apply => some .apply
  | finish => some .finish
  | cancel => some .cancel
  | resize .. | resizeModels .. => some .resize
  | reset | rename .. => none

/-- What a call does to the squad. -/
def action : Call → Squad.Action Unit
  | list => Squad.ensureSheets
  | pick index c => Squad.editSheet index fun sheet => sheet.pick c .refuse
  | pickList index indices => Squad.editSheet index fun sheet => sheet.pickList indices
  | apply => Squad.equipPicked
  | finish => pure ()
  | cancel => modify Squad.clearPicks
  | resize size => Squad.resize size
  | resizeModels counts => Squad.resizeModels counts
  | reset => Squad.reset
  | rename name => modify fun s => s.rename name

/-- The stage that a call leads to if it succeeds. -/
def next : Call → Stage → Stage
  | list, stage => if stage = .viewing then .listed else stage
  | pick .., _ | pickList .., _ => .pending
  | apply, _ => .applied
  | finish, _ | cancel, _ | reset, _ => .viewing
  | resize .., stage | resizeModels .., stage | rename .., stage => stage

/-- The option that a call picks on. -/
def option? : Call → Option Nat
  | pick index _ | pickList index _ => some index
  | _ => none

/-- Whether a call is in turn in a stage. -/
def InTurn (c : Call) (stage : Stage) : Prop := ∀ step, c.step? = some step → stage ∈ step.stages

end Call

variable {e e' : Edit} {c : Call} {err : EditError}

/-- What a call comes to when it is in turn. -/
def outcome (e : Edit) (c : Call) : Edit × Except EditError Unit :=
  e.work c.action (c.next e.stage) fun _ => ()

/-- What is shown of the squad makes no difference to what a work does to the edit. -/
theorem map_work (e : Edit) (act : Squad.Action Unit) (stage : Stage) (shown : Squad → α) :
    (e.work act stage shown).map id (Except.map fun _ => ()) = e.work act stage fun _ => () := by
  unfold work
  rcases e.squad.perform act with ⟨s, err | _⟩ <;> rfl

/-- What a step answers makes no difference to whether it is in turn. -/
theorem map_inTurn (e : Edit) (step : Step) (act : Edit × Except EditError α) :
    (e.inTurn step act).map id (Except.map fun _ => ()) =
      e.inTurn step (act.map id (Except.map fun _ => ())) := by
  unfold inTurn
  split <;> rfl

/-- Every call is an operation on the squad, taken if it is in turn. -/
theorem call_eq (e : Edit) (c : Call) :
    e.call c = match c.step? with
      | some step => e.inTurn step (e.outcome c)
      | none => e.outcome c := by
  cases c with
  | list => exact (map_inTurn e _ _).trans (congrArg _ (map_work e _ _ _))
  | apply => exact (map_inTurn e _ _).trans (congrArg _ (map_work e _ _ _))
  | resize size => exact (map_inTurn e _ _).trans (congrArg _ (map_work e _ _ _))
  | resizeModels counts => exact (map_inTurn e _ _).trans (congrArg _ (map_work e _ _ _))
  | pick | pickList | finish | cancel | reset | rename => rfl

/-- A call is refused and changes nothing, or it is in turn and works on the squad. -/
theorem call_cases (e : Edit) (c : Call) :
    (∃ err, e.call c = (e, .error err)) ∨ (c.InTurn e.stage ∧ e.call c = e.outcome c) := by
  rw [call_eq]
  unfold Call.InTurn
  cases c.step? with
  | none => exact .inr ⟨by simp, rfl⟩
  | some step =>
    by_cases hturn : e.stage ∈ step.stages
    · exact .inr ⟨by simpa using hturn, if_pos hturn⟩
    · exact .inl ⟨_, if_neg hturn⟩

/-- A call that succeeds was in turn, and has done its work on the squad. -/
theorem call_ok (h : e.call c = (e', .ok ())) :
    c.InTurn e.stage ∧ e.squad.perform c.action = (e'.squad, .ok ()) ∧
      e'.stage = c.next e.stage := by
  rcases call_cases e c with ⟨err, hrefused⟩ | ⟨hturn, hcall⟩
  · rw [hrefused] at h
    cases h
  · rw [hcall, outcome, work] at h
    split at h
    · cases h
    · next hok =>
      cases h
      exact ⟨hturn, hok, rfl⟩

/-! ## Options that have been read -/

/-- Listing shows what has been read. -/
theorem list_of_read (hturn : e.stage ∈ Step.list.stages) {s : Squad} {sheets : List Sheet}
    (hread : e.squad.perform Squad.readSheets = (s, .ok sheets)) :
    e.list = (⟨s, Call.list.next e.stage⟩, .ok s.listings) := by
  rw [list, inTurn, if_pos hturn, work, Squad.perform_ensureSheets, hread]
  rfl

/-- In turn and with its sheets read, a change of a sheet is the change of that sheet on the
squad. -/
theorem editSheet_of_read (hturn : e.stage ∈ Step.pick.stages) {sheets : List Sheet}
    (hsheets : e.squad.sheets = some sheets) (index : Nat)
    (change : Sheet → Except PickError Sheet) :
    e.editSheet index change =
      match e.squad.changed index change with
      | .error err => (e, .error (.squad err))
      | .ok sheet =>
        (⟨{ e.squad with sheets := some (e.squad.sheetList.set index sheet) }, .pending⟩,
          .ok ()) := by
  rw [editSheet, inTurn, if_pos hturn, work, Squad.perform_editSheet_of_read hsheets]
  cases e.squad.changed index change <;> rfl

/-- A call that picks on an option works on its sheet. -/
theorem Call.call_of_option? {index : Nat} (h : c.option? = some index) :
    ∃ m : Sheet.Call, ∀ e : Edit, e.call c = e.editSheet index m.answer := by
  cases c with
  | pick _ c =>
    cases h
    exact ⟨.pick c .refuse, fun _ => rfl⟩
  | pickList _ indices =>
    cases h
    exact ⟨.pickList indices, fun _ => rfl⟩
  | list | apply | finish | cancel | resize | resizeModels | reset | rename => cases h

/-! ## Calls that fail -/

/-- Whatever the squad refuses leaves it as it was, but for options that have been read. -/
theorem untouched_of_action {s s' : Squad} {err : SquadError}
    (h : s.perform c.action = (s', .error err)) : Squad.Untouched s s' := by
  cases c with
  | list =>
    have hread := Squad.untouched_ensureSheets s
    change s.perform Squad.ensureSheets = _ at h
    rwa [h] at hread
  | pick index c => exact Squad.editSheet_failed h
  | pickList index indices => exact Squad.editSheet_failed h
  | apply => exact .of_eq (Squad.equipPicked_failed h)
  | resize size => exact .of_eq (Squad.resize_failed h)
  | resizeModels counts => exact .of_eq (Squad.resizeModels_failed h)
  | reset => exact .of_eq (Squad.reset_failed h)
  | finish | cancel | rename => cases h

/-- A call that fails leaves the stage, and the squad but for options that have been read. -/
theorem call_failed (h : e.call c = (e', .error err)) :
    e'.stage = e.stage ∧ Squad.Untouched e.squad e'.squad := by
  rcases call_cases e c with ⟨err', hrefused⟩ | ⟨-, hcall⟩
  · rw [hrefused] at h
    cases h
    exact ⟨rfl, .of_eq rfl⟩
  · rw [hcall, outcome, work] at h
    split at h
    · next hfail =>
      cases h
      exact ⟨rfl, untouched_of_action hfail⟩
    · cases h

/-! ## Picks and stages -/

/-- Picks are there in the pending stage only. -/
def Orderly (e : Edit) : Prop := e.squad.hasPending = true → e.stage = .pending

/-- Where picks are left after a call that succeeds, it leads to the pending stage. -/
theorem Orderly.next_eq (h : e.Orderly) (hturn : c.InTurn e.stage) {s : Squad}
    (hok : e.squad.perform c.action = (s, .ok ())) (hpending : s.hasPending = true) :
    c.next e.stage = .pending := by
  have hstay (hbefore : e.squad.hasPending = true) : e.stage = .pending := h hbefore
  have hsheets (hsame : s.sheets = e.squad.sheets) : e.stage = .pending := by
    refine hstay ?_
    rwa [Squad.hasPending, Squad.sheetList, hsame] at hpending
  have hnone (hcleared : s.hasPending = false) : c.next e.stage = .pending := by
    rw [hcleared] at hpending
    cases hpending
  cases c with
  | list =>
    have hread := Squad.untouched_ensureSheets e.squad
    change e.squad.perform Squad.ensureSheets = _ at hok
    rw [hok] at hread
    rw [Call.next, hstay (hread.hasPending hpending)]
    rfl
  | pick => rfl
  | pickList => rfl
  | apply => exact hnone (Squad.hasPending_of_equipPicked hok)
  | finish =>
    -- in turn once the picks have been applied, when none is left
    cases hok
    have happlied : e.stage ∈ [Stage.applied] := hturn .finish rfl
    rw [hstay hpending] at happlied
    cases happlied with
    | tail _ hmem => cases hmem
  | cancel =>
    cases hok
    exact hnone (Squad.hasPending_clearPicks _)
  | resize => exact hsheets (Squad.sheets_of_resize hok)
  | resizeModels => exact hsheets (Squad.sheets_of_resizeModels hok)
  | reset => exact hnone (Squad.hasPending_of_reset hok)
  | rename =>
    cases hok
    exact hstay hpending

/-- A call leaves an orderly edit orderly. -/
theorem Orderly.call (h : e.Orderly) (c : Call) : (e.call c).1.Orderly := by
  rcases hcall : e.call c with ⟨e', err | _⟩
  · obtain ⟨hstage, huntouched⟩ := call_failed hcall
    intro hpending
    rw [hstage]
    exact h (huntouched.hasPending hpending)
  · obtain ⟨hturn, hok, hstage⟩ := call_ok hcall
    intro hpending
    rw [hstage]
    exact h.next_eq hturn hok hpending

/-- An orderly edit stays orderly whatever is called. -/
theorem Orderly.run (h : e.Orderly) (calls : List Call) : (e.run calls).Orderly := by
  induction calls generalizing e with
  | nil => exact h
  | cons c rest ih => exact ih (h.call c)

/-- After every history of an edit of a squad without picks, picks are there in the pending stage
only, and a call that fails leaves the stage, the picks on every option and the squad's name, gear,
groups and points as they were. -/
theorem run_orderly (s : Squad) (hfresh : s.hasPending = false) (calls : List Call) :
    let e := (start s).run calls
    (e.squad.hasPending = true → e.stage = .pending) ∧
      ∀ c e' err, e.call c = (e', .error err) →
        e'.stage = e.stage ∧ Squad.Untouched e.squad e'.squad := by
  intro e
  have hstart : (start s).Orderly := by
    intro hpending
    rw [start, hfresh] at hpending
    cases hpending
  exact ⟨hstart.run calls, fun c e' err hfail => call_failed hfail⟩

/-- A single guard picks a bow, which takes two guards: the pick stays, and so does the stage. -/
theorem run_orderly_guards :
    let s := { Guards.squad ["Axe"] [Guards.axe] 1 13 with sheets := some [Guards.sheet []] }
    let e : Edit := ⟨{ s with sheets := some [Guards.sheet [⟨1, 1⟩]] }, .pending⟩
    s.hasPending = false ∧ (start s).run [.list, .pick 0 (.index 1)] = e ∧
      (e.squad.hasPending = true → e.stage = .pending) ∧ e.squad.hasPending = true ∧
      ∃ e', e.call .apply = (e', .error (.squad (.insufficientModels 2 1 1 13))) ∧
        e'.stage = e.stage ∧ Squad.Untouched e.squad e'.squad := by
  intro s e
  have hfresh : s.hasPending = false := rfl
  have hrun : (start s).run [.list, .pick 0 (.index 1)] = e := rfl
  have horderly := run_orderly s hfresh [.list, .pick 0 (.index 1)]
  rw [hrun] at horderly
  obtain ⟨hstage, hkept⟩ := horderly
  have hfail : e.call .apply = (e, .error (.squad (.insufficientModels 2 1 1 13))) := rfl
  exact ⟨hfresh, hrun, hstage, rfl, e, hfail, hkept _ _ _ hfail⟩

end Edit

end Muster
