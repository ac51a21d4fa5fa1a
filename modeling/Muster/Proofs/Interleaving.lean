import Muster.Proofs.Edits

/-!
# Picks on different options

A call that picks reads and writes the sheet of one option. Two calls on different options can
therefore change places: both come to the same result as before, and the same edit is left. So a
call can be moved to the front past calls on other options, and it makes no difference how the calls
on several options are interleaved. Calls that fail are no exception, nor are calls on options that
there are not; and where the options have not been read, whichever call comes first reads them all.
-/

namespace Muster

/-- A change in one place does not show in another. -/
theorem Squad.changed_set_of_ne (s : Squad) {i j : Nat} (h : i ≠ j) (sheet : Sheet)
    (change : Sheet → Except PickError Sheet) :
    changed { s with sheets := some (s.sheetList.set i sheet) } j change = s.changed j change := by
  rw [changed, changed]
  simp only [sheetList, Option.getD_some, List.getElem?_set_ne h, List.length_set]

/-- A guard that has listed two options, which offer the same. -/
def Guards.optioned : Squad :=
  let sheet := drillSheet "Axe/Bow" [axe, bow] [axe]
  { recruit 5 ["Axe"] "Axe/Bow,Axe/Bow" [axe, bow] [axe] 13 with sheets := some [sheet, sheet] }

namespace Edit

variable {e : Edit} {c c' : Call} {i j : Nat} {f g : Sheet → Except PickError Sheet}

/-! ## Two changes -/

/-- Changes of two options can change places, once the options have been read. -/
theorem editSheet_comm_of_read (hturn : e.stage ∈ Step.pick.stages) {sheets : List Sheet}
    (hsheets : e.squad.sheets = some sheets) (hne : i ≠ j) :
    ((e.editSheet i f).1.editSheet j g).1 = ((e.editSheet j g).1.editSheet i f).1 ∧
      ((e.editSheet i f).1.editSheet j g).2 = (e.editSheet j g).2 := by
  have hpending : Stage.pending ∈ Step.pick.stages := by decide
  rw [editSheet_of_read hturn hsheets i, editSheet_of_read hturn hsheets j]
  cases hf : e.squad.changed i f with
  | error err =>
    cases hg : e.squad.changed j g with
    | error err' =>
      dsimp only
      rw [editSheet_of_read hturn hsheets, editSheet_of_read hturn hsheets, hf, hg]
      exact ⟨rfl, rfl⟩
    | ok sheet' =>
      dsimp only
      rw [editSheet_of_read hturn hsheets, editSheet_of_read hpending rfl,
        Squad.changed_set_of_ne _ hne.symm, hf, hg]
      exact ⟨rfl, rfl⟩
  | ok sheet =>
    cases hg : e.squad.changed j g with
    | error err' =>
      dsimp only
      rw [editSheet_of_read hpending rfl, editSheet_of_read hturn hsheets,
        Squad.changed_set_of_ne _ hne, hf, hg]
      exact ⟨rfl, rfl⟩
    | ok sheet' =>
      dsimp only
      rw [editSheet_of_read hpending rfl, editSheet_of_read hpending rfl,
        Squad.changed_set_of_ne _ hne, Squad.changed_set_of_ne _ hne.symm, hf, hg]
      dsimp only [Squad.sheetList, Option.getD_some]
      rw [List.set_comm _ _ hne]
      exact ⟨rfl, rfl⟩

/-- Out of turn no sheet is changed. -/
theorem editSheet_of_not_inTurn (hturn : e.stage ∉ Step.pick.stages) (index : Nat)
    (change : Sheet → Except PickError Sheet) :
    e.editSheet index change = (e, .error (.outOfTurn e.stage .pick)) :=
  if_neg hturn

/-- Where the sheets cannot be read none is changed. -/
theorem editSheet_of_unreadable (hturn : e.stage ∈ Step.pick.stages) {err : SquadError}
    (hread : e.squad.perform Squad.readSheets = (e.squad, .error err)) (index : Nat)
    (change : Sheet → Except PickError Sheet) :
    e.editSheet index change = (e, .error (.squad err)) := by
  rw [editSheet, inTurn, if_pos hturn, work, Squad.perform_editSheet, Squad.perform_sheetAt, hread]

/-- The options may be read beforehand. -/
theorem editSheet_read_first (hturn : e.stage ∈ Step.pick.stages) {s : Squad}
    {sheets : List Sheet} (hread : e.squad.perform Squad.readSheets = (s, .ok sheets))
    (hkept : s.perform Squad.readSheets = (s, .ok sheets)) (index : Nat)
    (change : Sheet → Except PickError Sheet) :
    e.editSheet index change = editSheet ⟨s, e.stage⟩ index change := by
  have hsame : e.squad.perform (Squad.editSheet index change) =
      s.perform (Squad.editSheet index change) := by
    rw [Squad.perform_editSheet, Squad.perform_editSheet, Squad.perform_sheetAt,
      Squad.perform_sheetAt, hread, hkept]
  simp only [editSheet, inTurn, if_pos hturn, work, hsame]

/-- Changes of two options can change places. -/
theorem editSheet_comm (e : Edit) (f g : Sheet → Except PickError Sheet) (hne : i ≠ j) :
    ((e.editSheet i f).1.editSheet j g).1 = ((e.editSheet j g).1.editSheet i f).1 ∧
      ((e.editSheet i f).1.editSheet j g).2 = (e.editSheet j g).2 := by
  by_cases hturn : e.stage ∈ Step.pick.stages
  · rcases e.squad.readSheets_cases with ⟨err, hread⟩ | ⟨sheets, hread⟩
    · simp only [editSheet_of_unreadable hturn hread, and_self]
    · let s : Squad := { e.squad with sheets := some sheets }
      have hkept : s.perform Squad.readSheets = (s, .ok sheets) :=
        Squad.perform_readSheets_of_some rfl
      rw [editSheet_read_first hturn hread hkept i, editSheet_read_first hturn hread hkept j]
      exact editSheet_comm_of_read (e := ⟨s, e.stage⟩) hturn rfl hne
  · simp only [editSheet_of_not_inTurn hturn, and_self]

/-! ## Two calls -/

/-- Calls that pick on two options can change places. -/
theorem call_comm (e : Edit) (hi : c.option? = some i) (hj : c'.option? = some j) (hne : i ≠ j) :
    ((e.call c).1.call c').1 = ((e.call c').1.call c).1 ∧
      ((e.call c).1.call c').2 = (e.call c').2 := by
  obtain ⟨m, hm⟩ := Call.call_of_option? hi
  obtain ⟨m', hm'⟩ := Call.call_of_option? hj
  simp only [hm, hm']
  exact e.editSheet_comm m.answer m'.answer hne

/-! ## Histories of calls -/

/-- The calls of a history, each with its result. -/
def log (e : Edit) : List Call → List (Call × Except EditError Unit)
  | [] => []
  | c :: rest => (c, (e.call c).2) :: (e.call c).1.log rest

/-- Whether a call picks on an option. -/
def Call.on (c : Call) (index : Nat) : Bool := c.option? = some index

/-- The calls of a history that pick on an option, each with its result. -/
def logOn (e : Edit) (calls : List Call) (index : Nat) : List (Call × Except EditError Unit) :=
  (e.log calls).filter fun entry => entry.1.on index

/-- The log of an option begins with the first call if it is on the option. -/
theorem logOn_cons (e : Edit) (c : Call) (rest : List Call) (index : Nat) :
    e.logOn (c :: rest) index =
      if c.on index then (c, (e.call c).2) :: (e.call c).1.logOn rest index
      else (e.call c).1.logOn rest index :=
  List.filter_cons

/-- Two histories leave the same edit, and on every option the same calls come to the same
results in the same order. -/
structure SameCourse (e : Edit) (calls calls' : List Call) : Prop where
  run : e.run calls = e.run calls'
  log : ∀ index, e.logOn calls index = e.logOn calls' index

namespace SameCourse

variable {calls calls' calls'' : List Call}

/-- A history takes its own course. -/
theorem refl (e : Edit) (calls : List Call) : SameCourse e calls calls := ⟨rfl, fun _ => rfl⟩

/-- That two histories take the same course goes both ways. -/
theorem symm (h : SameCourse e calls calls') : SameCourse e calls' calls :=
  ⟨h.run.symm, fun index => (h.log index).symm⟩

/-- Histories that take the course of a third take the same course. -/
theorem trans (h : SameCourse e calls calls') (h' : SameCourse e calls' calls'') :
    SameCourse e calls calls'' :=
  ⟨h.run.trans h'.run, fun index => (h.log index).trans (h'.log index)⟩

/-- One call before two histories of the same course keeps their course the same. -/
theorem cons (h : SameCourse (e.call c).1 calls calls') :
    SameCourse e (c :: calls) (c :: calls') := by
  refine ⟨h.run, fun index => ?_⟩
  rw [logOn_cons, logOn_cons, h.log]

/-- Two calls on different options may change places. -/
theorem swap (e : Edit) (hi : c.option? = some i) (hj : c'.option? = some j) (hne : i ≠ j)
    (rest : List Call) : SameCourse e (c :: c' :: rest) (c' :: c :: rest) := by
  obtain ⟨hedit, hresult'⟩ := e.call_comm hi hj hne
  obtain ⟨-, hresult⟩ := e.call_comm hj hi hne.symm
  refine ⟨congrArg (fun e : Edit => e.run rest) hedit, fun index => ?_⟩
  simp only [logOn_cons, hedit, hresult, hresult', Call.on, hi, hj, Option.some.injEq]
  -- no option is both
  by_cases hindex : i = index
  · subst hindex
    simp [hne.symm]
  · simp [hindex]

/-- A call can be moved to the front past calls on other options. -/
theorem move_to_front (e : Edit) (hi : c.option? = some i) {before : List Call}
    (hbefore : ∀ d ∈ before, ∃ j, d.option? = some j ∧ i ≠ j) (after : List Call) :
    SameCourse e (before ++ c :: after) (c :: (before ++ after)) := by
  induction before generalizing e with
  | nil => exact refl e _
  | cons d rest ih =>
    obtain ⟨j, hj, hne⟩ := hbefore d List.mem_cons_self
    have hrest := ih (e.call d).1 fun d' hd' => hbefore d' (List.mem_cons_of_mem d hd')
    exact hrest.cons.trans (swap e hj hi hne.symm _)

end SameCourse

/-- Two histories of picks that have the same calls on every option, in the same order, take the
same course. -/
theorem sameCourse_of_filter_eq (e : Edit) {calls calls' : List Call}
    (hcalls : ∀ c ∈ calls, c.option? ≠ none) (hcalls' : ∀ c ∈ calls', c.option? ≠ none)
    (hsame : ∀ index, calls.filter (·.on index) = calls'.filter (·.on index)) :
    SameCourse e calls calls' := by
  induction calls generalizing e calls' with
  | nil =>
    cases calls' with
    | nil => exact .refl e []
    | cons c' rest' =>
      obtain ⟨index, hindex⟩ := Option.ne_none_iff_exists'.mp (hcalls' c' List.mem_cons_self)
      have hnone := hsame index
      simp [Call.on, hindex] at hnone
  | cons c rest ih =>
    obtain ⟨i, hi⟩ := Option.ne_none_iff_exists'.mp (hcalls c List.mem_cons_self)
    have hon : c.on i = true := by simp [Call.on, hi]
    obtain ⟨before, after, rfl, hbefore, -, hafter⟩ :=
      List.filter_eq_cons_iff.mp ((hsame i).symm.trans (List.filter_cons_of_pos hon))
    have hother : ∀ d ∈ before, ∃ j, d.option? = some j ∧ i ≠ j := by
      intro d hd
      obtain ⟨j, hj⟩ := Option.ne_none_iff_exists'.mp (hcalls' d (List.mem_append_left _ hd))
      refine ⟨j, hj, fun hij => hbefore d hd ?_⟩
      simp [Call.on, hj, hij]
    have hrest (index : Nat) : rest.filter (·.on index) = (before ++ after).filter (·.on index) := by
      by_cases hindex : i = index
      · subst hindex
        rw [List.filter_append, List.filter_eq_nil_iff.mpr hbefore, List.nil_append, hafter]
      · have hoff : c.on index = false := by simp [Call.on, hi, hindex]
        simpa [List.filter_cons, hoff] using hsame index
    have hcourse : SameCourse (e.call c).1 rest (before ++ after) := by
      refine ih (e.call c).1 (fun d hd => hcalls d (List.mem_cons_of_mem c hd)) (fun d hd => ?_) hrest
      refine hcalls' d ?_
      rcases List.mem_append.mp hd with hd | hd
      · exact List.mem_append_left _ hd
      · exact List.mem_append_right _ (List.mem_cons_of_mem c hd)
    exact hcourse.cons.trans (SameCourse.move_to_front e hi hother after).symm

/-- It makes no difference how picks on several options are interleaved: every call comes to the same
result, the same edit is left with the same picks, and applying them comes to the same. -/
theorem interleave_picks (e : Edit) {calls calls' : List Call}
    (hcalls : ∀ c ∈ calls, c.option? ≠ none) (hcalls' : ∀ c ∈ calls', c.option? ≠ none)
    (hsame : ∀ index, calls.filter (·.on index) = calls'.filter (·.on index)) :
    (∀ index, e.logOn calls index = e.logOn calls' index) ∧ e.run calls = e.run calls' ∧
      (e.run calls).apply = (e.run calls').apply := by
  have hcourse := sameCourse_of_filter_eq e hcalls hcalls' hsame
  exact ⟨hcourse.log, hcourse.run, congrArg apply hcourse.run⟩

/-- A guard with two options picks on both and on a third that there is not, and picks too much on
the first. -/
theorem interleave_picks_optioned :
    let e : Edit := ⟨Guards.optioned, .listed⟩
    let calls := [.pick 0 (.index 1), .pick 1 (.index 1), .pick 2 (.index 0), .pick 0 (.index 0),
      .pickList 1 [0]]
    let calls' := [.pick 2 (.index 0), .pick 1 (.index 1), .pickList 1 [0], .pick 0 (.index 1),
      .pick 0 (.index 0)]
    (∀ c ∈ calls, c.option? ≠ none) ∧ (∀ c ∈ calls', c.option? ≠ none) ∧
      (∀ index, calls.filter (·.on index) = calls'.filter (·.on index)) ∧
      (∀ index, e.logOn calls index = e.logOn calls' index) ∧ e.run calls = e.run calls' ∧
      (e.run calls).apply = (e.run calls').apply ∧
      (e.logOn calls 0).map Prod.snd =
        [.ok (), .error (.squad (.pick (.overselection 1 2)))] ∧
      (e.run calls).squad.picksOf 1 = [⟨0, 1⟩] ∧ (e.run calls).apply.2 = .ok 13 := by
  intro e calls calls'
  have hcalls : ∀ c ∈ calls, c.option? ≠ none := by simp [calls, Call.option?]
  have hcalls' : ∀ c ∈ calls', c.option? ≠ none := by simp [calls', Call.option?]
  have hsame (index : Nat) : calls.filter (·.on index) = calls'.filter (·.on index) := by
    rcases index with _ | _ | _ | index <;> rfl
  obtain ⟨hlog, hrun, happly⟩ := interleave_picks e hcalls hcalls' hsame
  refine ⟨hcalls, hcalls', hsame, hlog, hrun, happly, ?_⟩
  subst e calls
  exact ⟨rfl, rfl, rfl⟩

end Edit

end Muster
