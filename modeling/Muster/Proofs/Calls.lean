import Muster.Squad.Equipping
import Muster.Squad.Sizing

/-!
# Calls on a squad

Every call that works on a squad, with its arguments, so that a history is a list of calls. Each
operation gets one law here, which says for every squad what the operation leaves behind and how it
ends; no later proof opens an operation. A history that starts from a new squad is the only way to
come by a squad.
-/

namespace Muster

/-- A call that changes the picks on a sheet. -/
inductive Sheet.Call where
  | pick (c : Choice) (overflow : Overflow)
  | pickList (indices : List Nat)
  | clear

/-- The sheet after a call, or why the call is refused. -/
def Sheet.Call.answer (sheet : Sheet) : Sheet.Call → Except PickError Sheet
  | pick c overflow => sheet.pick c overflow
  | pickList indices => sheet.pickList indices
  | clear => .ok sheet.clear

namespace Sheet

/-- A sheet holds some picks if and only if there was room for them. -/
theorem holding_eq_ok_iff {t t' : Sheet} {picks? : Option (List Pick)} :
    t.holding picks? = .ok t' ↔ ∃ picks, picks? = some picks ∧ t' = { t with picks } := by
  cases picks? with
  | none => simp [holding]
  | some picks => simp [holding, eq_comm]

/-- A call changes nothing of a sheet but its picks. -/
theorem clear_answer {t t' : Sheet} {c : Call} (h : c.answer t = .ok t') : t'.clear = t.clear := by
  have hholding {picks? : Option (List Pick)} (h : t.holding picks? = .ok t') :
      t'.clear = t.clear := by
    obtain ⟨picks, -, rfl⟩ := holding_eq_ok_iff.mp h
    rfl
  cases c with
  | pick c overflow =>
    rw [Call.answer, pick] at h
    cases hresolve : t.resolve c with
    | error e =>
      rw [hresolve] at h
      cases h
    | ok index =>
      rw [hresolve] at h
      dsimp only at h
      generalize t.distinctPicks + _ = attempted at h
      split at h
      · cases overflow with
        | refuse => cases h
        | evictOldest => exact hholding h
      · exact hholding h
  | pickList indices =>
    rw [Call.answer, pickList] at h
    split at h
    · cases h
    · exact hholding h
  | clear =>
    cases h
    rfl

/-- Picks may change, but not what is on offer. -/
theorem offer_answer {t t' : Sheet} {c : Call} (h : c.answer t = .ok t') :
    t'.offer = t.offer := by
  have hclear : t'.clear.offer = t.clear.offer := by rw [clear_answer h]
  exact hclear

/-- The sheets that picking leads to. -/
inductive Marked (sheet : Sheet) : Sheet → Prop where
  | unmarked : Marked sheet sheet
  | mark {t t' : Sheet} (c : Call) : Marked sheet t → c.answer t = .ok t' → Marked sheet t'

/-- A sheet with other picks has the offer it had. -/
theorem Marked.offer_eq {sheet t : Sheet} (h : Marked sheet t) : t.offer = sheet.offer := by
  induction h with
  | unmarked => rfl
  | mark c _ hc ih => exact (offer_answer hc).trans ih

end Sheet

namespace Squad

/-- A call on a squad. -/
inductive Call where
  | list
  | mark (index : Nat) (c : Sheet.Call)
  | clearPicks
  | equip (sheet : Sheet)
  | equipEach (sheets : List Sheet)
  | equipPicked
  | resize (size : Nat)
  | resizeModels (counts : List Nat)
  | rename (name : String)
  | reset

/-- What a call does. -/
def Call.action : Call → Action Unit
  | list => ensureSheets
  | mark index c => editSheet index c.answer
  | clearPicks => modify Squad.clearPicks
  | equip sheet => Squad.equip sheet
  | equipEach sheets => Squad.equipEach sheets
  | equipPicked => Squad.equipPicked
  | resize size => Squad.resize size
  | resizeModels counts => Squad.resizeModels counts
  | rename name => modify fun s => s.rename name
  | reset => Squad.reset

/-- The squad after a history of calls, whether they succeed or fail. -/
def run (s : Squad) (calls : List Call) : Squad :=
  calls.foldl (fun s c => (s.perform c.action).1) s

/-! ## New squads -/

section

variable {x : Codex} {role : Role} {s : Squad}

/-- A squad made from a template carries the template's loadout and is one group of the least
size. -/
theorem exists_of_ofTemplate {name : String} {t : UnitTemplate}
    (h : ofTemplate x role name t = .ok s) : ∃ gear, readLoadout x t.name t.wargear = .ok gear ∧
      s = refresh
        ⟨x, t, role, name, gear, .plain t.name t.minSize t.basePoints, [], none, 0⟩ := by
  unfold ofTemplate at h
  split at h
  · cases h
  · next gear hgear =>
    cases h
    exact ⟨gear, hgear, rfl⟩

/-- A squad is mustered from a unit that is found. -/
theorem exists_of_muster {unit : String} (h : muster x role unit = .ok s) :
    ∃ t, x.unit role unit = .ok t ∧ ofTemplate x role t.name t = .ok s := by
  unfold muster at h
  split at h
  · cases h
  · next t ht => exact ⟨t, ht, h⟩

/-- A mustered squad is the one made from the template of its unit. -/
theorem ofTemplate_of_muster {unit : String} {t : UnitTemplate} (hunit : x.unit role unit = .ok t)
    (h : muster x role unit = .ok s) : ofTemplate x role t.name t = .ok s := by
  rwa [muster, hunit] at h

end

/-! ## Lists of readings -/

/-- What a mapped result answers is the image of what the result answers. -/
theorem exists_of_map_eq_ok {x : Except ε α} {f : α → β} {y : β} (h : x.map f = .ok y) :
    ∃ a, x = .ok a ∧ f a = y := by
  cases x with
  | error e => cases h
  | ok a =>
    cases h
    exact ⟨a, rfl, rfl⟩

/-- A mapped result fails exactly as the result does. -/
theorem eq_error_of_map_eq_error {x : Except ε α} {f : α → β} {e : ε} (h : x.map f = .error e) :
    x = .error e := by
  cases x with
  | error e' =>
    cases h
    rfl
  | ok a => cases h

section

variable {f : α → Except ε β} {l : List α} {ys : List β}

/-- A list of readings succeeds if the first and the rest do. -/
theorem mapM_cons_eq_ok {a : α} (h : (a :: l).mapM f = .ok ys) :
    ∃ b bs, f a = .ok b ∧ l.mapM f = .ok bs ∧ ys = b :: bs := by
  rw [List.mapM_cons] at h
  cases ha : f a with
  | error e =>
    rw [ha] at h
    cases h
  | ok b =>
    rw [ha] at h
    cases hl : l.mapM f with
    | error e =>
      rw [hl] at h
      cases h
    | ok bs =>
      rw [hl] at h
      cases h
      exact ⟨b, bs, rfl, rfl, rfl⟩

/-- What a list of readings gives may be changed as a whole, or reading by reading. -/
theorem map_mapM (g : β → γ) : (l.mapM f).map (List.map g) = l.mapM fun a => (f a).map g := by
  induction l with
  | nil => rfl
  | cons a rest ih =>
    rw [List.mapM_cons, List.mapM_cons, ← ih]
    cases f a with
    | error e => rfl
    | ok b => cases rest.mapM f <;> rfl

/-- Whatever a list of readings gives comes from one of them. -/
theorem exists_of_mem_mapM {y : β} (h : l.mapM f = .ok ys) (hy : y ∈ ys) :
    ∃ x ∈ l, f x = .ok y := by
  induction l generalizing ys with
  | nil =>
    cases h
    cases hy
  | cons a rest ih =>
    obtain ⟨b, bs, ha, hrest, rfl⟩ := mapM_cons_eq_ok h
    rcases List.mem_cons.mp hy with rfl | hy
    · exact ⟨a, List.mem_cons_self, ha⟩
    · obtain ⟨x, hx, hf⟩ := ih hrest hy
      exact ⟨x, List.mem_cons_of_mem _ hx, hf⟩

/-- Where a list of readings succeeds, all of them do. -/
theorem exists_of_mapM_eq_ok (h : l.mapM f = .ok ys) : ∀ a ∈ l, ∃ b, f a = .ok b := by
  induction l generalizing ys with
  | nil => exact fun a ha => absurd ha List.not_mem_nil
  | cons a rest ih =>
    obtain ⟨b, bs, ha, hrest, -⟩ := mapM_cons_eq_ok h
    exact List.forall_mem_cons.mpr ⟨⟨b, ha⟩, ih hrest⟩

/-- Where a list of readings fails, one of them does. -/
theorem exists_of_mapM_eq_error {e : ε} (h : l.mapM f = .error e) : ∃ a ∈ l, f a = .error e := by
  induction l with
  | nil => cases h
  | cons a rest ih =>
    rw [List.mapM_cons] at h
    cases ha : f a with
    | error e' =>
      rw [ha] at h
      cases h
      exact ⟨a, List.mem_cons_self, ha⟩
    | ok b =>
      rw [ha] at h
      obtain ⟨a', ha', hf⟩ := ih (eq_error_of_map_eq_error h)
      exact ⟨a', List.mem_cons_of_mem _ ha', hf⟩

/-- A list is read exactly where each of its members is. -/
theorem exists_mapM_eq_ok_iff : (∃ ys, l.mapM f = .ok ys) ↔ ∀ a ∈ l, ∃ b, f a = .ok b := by
  constructor
  · rintro ⟨ys, h⟩
    exact exists_of_mapM_eq_ok h
  · intro h
    cases hl : l.mapM f with
    | ok ys => exact ⟨ys, rfl⟩
    | error e =>
      obtain ⟨a, ha, herror⟩ := exists_of_mapM_eq_error hl
      obtain ⟨b, hok⟩ := h a ha
      rw [herror] at hok
      cases hok

end

/-! ## Reading the options -/

/-- Reading the sheets keeps them if they are there, makes them if they are not and is refused where
they cannot be made. -/
theorem perform_readSheets (s : Squad) :
    s.perform readSheets =
      match s.sheets with
      | some sheets => (s, .ok sheets)
      | none =>
        match s.freshSheets with
        | .ok sheets => ({ s with sheets := some sheets }, .ok sheets)
        | .error e => (s, .error e) := by
  unfold readSheets
  rw [perform_bind, perform_get]
  dsimp only
  cases s.sheets with
  | some sheets => rfl
  | none =>
    rw [perform_bind, perform_lift]
    cases s.freshSheets <;> rfl

/-- Reading sheets that are there changes nothing. -/
theorem perform_readSheets_of_some {s : Squad} {sheets : List Sheet}
    (hsheets : s.sheets = some sheets) : s.perform readSheets = (s, .ok sheets) := by
  rw [perform_readSheets, hsheets]

/-- Reading the options fails, or it leaves them read and changes nothing else. -/
theorem readSheets_cases (s : Squad) :
    (∃ e, s.perform readSheets = (s, .error e)) ∨
      ∃ sheets, s.perform readSheets = ({ s with sheets := some sheets }, .ok sheets) := by
  cases hsheets : s.sheets with
  | some sheets =>
    refine .inr ⟨sheets, ?_⟩
    rw [perform_readSheets_of_some hsheets, ← hsheets]
  | none =>
    rw [perform_readSheets, hsheets]
    cases s.freshSheets with
    | error e => exact .inl ⟨e, rfl⟩
    | ok sheets => exact .inr ⟨sheets, rfl⟩

/-- It fails only over a clause that cannot be read. -/
theorem readSheets_failed {s s' : Squad} {e : SquadError}
    (h : s.perform readSheets = (s', .error e)) :
    ∃ clause err, e = .offer s.template.name clause err := by
  rw [perform_readSheets] at h
  split at h
  · cases h
  · split at h
    · cases h
    · next hfresh =>
      cases h
      obtain ⟨clause, -, hclause⟩ := exists_of_mapM_eq_error hfresh
      split at hclause
      · cases hclause
      · cases hclause
        exact ⟨clause, _, rfl⟩

/-- Where sheets can be made, reading them succeeds and keeps them. -/
theorem exists_readSheets_of_fresh {s : Squad} (h : ∃ sheets, s.freshSheets = .ok sheets) :
    ∃ sheets, s.perform readSheets = ({ s with sheets := some sheets }, .ok sheets) := by
  rcases readSheets_cases s with ⟨e, herror⟩ | hok
  · obtain ⟨fresh, hfresh⟩ := h
    rw [perform_readSheets, hfresh] at herror
    have hresult := congrArg Prod.snd herror
    split at hresult <;> cases hresult
  · exact hok

/-- Making sure of the sheets is reading them and answering nothing. -/
theorem perform_ensureSheets (s : Squad) :
    s.perform ensureSheets =
      ((s.perform readSheets).1, (s.perform readSheets).2.map fun _ => ()) := by
  unfold ensureSheets
  rw [perform_bind]
  rcases s.perform readSheets with ⟨s', e | sheets⟩ <;> rfl

/-- A sheet is answered where it is in reach, and the sheets are read either way. -/
theorem perform_sheetAt (s : Squad) (index : Nat) :
    s.perform (sheetAt index) =
      match s.perform readSheets with
      | (s', .ok sheets) =>
        match sheets[index]? with
        | some sheet => (s', .ok sheet)
        | none => (s', .error (.noSuchOption s'.template.name index sheets.length))
      | (s', .error e) => (s', .error e) := by
  unfold sheetAt
  rw [perform_bind]
  rcases s.perform readSheets with ⟨s', e | sheets⟩
  · rfl
  · dsimp only
    cases sheets[index]? <;> rfl

/-- A change of a sheet writes the changed sheet in its place, or is refused and writes none. -/
theorem perform_editSheet (s : Squad) (index : Nat) (edit : Sheet → Except PickError Sheet) :
    s.perform (editSheet index edit) =
      match s.perform (sheetAt index) with
      | (s', .ok sheet) =>
        match edit sheet with
        | .ok sheet' => ({ s' with sheets := some (s'.sheetList.set index sheet') }, .ok ())
        | .error e => (s', .error (.pick e))
      | (s', .error e) => (s', .error e) := by
  unfold editSheet
  rw [perform_bind]
  rcases s.perform (sheetAt index) with ⟨s', e | sheet⟩
  · rfl
  · dsimp only
    rw [perform_bind, perform_lift]
    cases edit sheet <;> rfl

/-! ## Equipping -/

/-- Carving moves models between the lead and the group of the look that is asked for; where that is
the look of the lead, there is nothing to move. -/
theorem perform_carve (s : Squad) (sheet : Sheet) :
    s.perform (carve sheet) =
      if (s.variant sheet).equippedLike s.lead s.gear then (s, .ok ())
      else
        let existing := s.existing? (s.variant sheet)
        let current := s.currentCount existing
        match s.target sheet existing current with
        | .error e => (s, .error e)
        | .ok target =>
          if target - current > 0 ∧ s.lead.count = 0 then (s, .error (.noModelsAvailable s.name))
          else
            let moved := min (target - current) s.lead.count
            let returned := current - target
            (s.regroup existing (s.variant sheet) (s.lead.count - moved + returned)
              (current + moved - returned), .ok ()) := by
  unfold carve
  rw [perform_bind, perform_get]
  dsimp only
  split
  · rfl
  · rw [perform_bind, perform_lift]
    cases s.target sheet _ _ with
    | error e => rfl
    | ok target =>
      dsimp only
      split <;> rfl

/-- An application is refused for its picks or for too few models; one that picks nothing changes
nothing, and any other carves a group or equips every model. -/
theorem perform_equip (s : Squad) (sheet : Sheet) :
    s.perform (equip sheet) =
      match sheet.checkPicks with
      | .error e => (s, .error (.pick e))
      | .ok () =>
        let required := sheet.offer.modelsPer
        if required > s.size then
          (s, .error (.insufficientModels required s.size (required - s.size)
            (Amount.mul (required - s.size) (s.lead.pointsEach s.gear))))
        else if sheet.selected.isEmpty then (s, .ok ())
        else if required > 1 ∨ sheet.offer.perModel ∧ s.size > 1 then
          match s.perform (carve sheet) with
          | (s', .ok ()) => (s'.refresh, .ok ())
          | (s', .error e) => (s', .error e)
        else ((s.equipAll sheet).refresh, .ok ()) := by
  unfold equip
  rw [perform_bind, perform_get]
  dsimp only
  rw [perform_bind, perform_lift]
  cases sheet.checkPicks with
  | error e => rfl
  | ok _ =>
    dsimp only [Except.mapError]
    split
    · rfl
    · split
      · rfl
      · split
        · rw [perform_bind]
          rcases s.perform (carve sheet) with ⟨s', e | _⟩ <;> rfl
        · rfl

/-- Applications in turn begin with the first and stop where it is refused. -/
theorem perform_equipInTurn_cons (s : Squad) (sheet : Sheet) (rest : List Sheet) :
    s.perform (equipInTurn (sheet :: rest)) =
      match s.perform (equip sheet) with
      | (s', .ok ()) => s'.perform (equipInTurn rest)
      | (s', .error e) => (s', .error e) := by
  rw [equipInTurn, perform_bind]
  rcases s.perform (equip sheet) with ⟨s', e | _⟩ <;> rfl

/-- Applications of sheets put the squad back where one of them is refused. -/
theorem perform_equipEach (s : Squad) (sheets : List Sheet) :
    s.perform (equipEach sheets) =
      match s.perform (equipInTurn sheets) with
      | (s', .ok ()) => (s', .ok ())
      | (s', .error e) => (restore s s', .error e) := by
  unfold equipEach
  rw [perform_bind, perform_get]
  dsimp only
  rw [perform_tryCatch]
  rcases s.perform (equipInTurn sheets) with ⟨s', e | _⟩ <;> rfl

/-- Applying what is picked checks every sheet before it applies one. -/
theorem perform_equipPicked (s : Squad) :
    s.perform equipPicked =
      match s.pending.forM Sheet.checkPicks with
      | .error e => (s, .error (.pick e))
      | .ok () =>
        match s.perform (equipEach s.pending) with
        | (s', .ok ()) => (s'.clearPicks, .ok ())
        | (s', .error e) => (s', .error e) := by
  unfold equipPicked
  rw [perform_bind, perform_get]
  dsimp only
  rw [perform_bind, perform_lift]
  cases s.pending.forM Sheet.checkPicks with
  | error e => rfl
  | ok _ =>
    dsimp only [Except.mapError]
    rw [perform_bind]
    rcases s.perform (equipEach s.pending) with ⟨s', e | _⟩ <;> rfl

/-! ## Sizing -/

/-- A resize within the range keeps the other groups and gives the lead what is left, where enough
is. -/
theorem perform_resize (s : Squad) (size : Nat) :
    s.perform (resize size) =
      match s.checkRange size with
      | .error e => (s, .error e)
      | .ok () =>
        if size < s.othersCount then
          (s, .error (.invalidSize s.name size (max s.othersCount s.template.minSize)
            s.template.maxSize))
        else
          (refresh { s with lead := { s.lead with count := size - s.othersCount } }, .ok ()) := by
  unfold resize
  rw [perform_bind, perform_get]
  dsimp only
  rw [perform_bind, perform_lift]
  cases s.checkRange size with
  | error e => rfl
  | ok _ =>
    dsimp only
    split <;> rfl

/-- Sizing succeeds if and only if the number is in range and covers the other groups. -/
theorem perform_resize_eq_ok_iff {s s' : Squad} {size : Nat} :
    s.perform (resize size) = (s', .ok ()) ↔
      s.checkRange size = .ok () ∧ s.othersCount ≤ size ∧
        s' = refresh { s with lead := { s.lead with count := size - s.othersCount } } := by
  rw [perform_resize]
  constructor
  · intro h
    split at h
    · cases h
    · next hrange =>
      split at h
      · cases h
      · next hroom =>
        cases h
        exact ⟨hrange, Nat.le_of_not_lt hroom, rfl⟩
  · rintro ⟨hrange, hroom, rfl⟩
    rw [hrange]
    exact if_neg (Nat.not_lt.mpr hroom)

/-- A resize by type keeps the groups of the own type, makes those of the further types anew and
gives the lead what is left; where one of the checks before refuses, nothing changes. -/
theorem perform_resizeModels (s : Squad) (counts : List Nat) :
    s.perform (resizeModels counts) =
      let expected := 1 + s.template.models.length
      match counts with
      | [] => (s, .error (.modelCountMismatch s.name expected 0))
      | own :: extra =>
        if extra.length ≠ s.template.models.length then
          (s, .error (.modelCountMismatch s.name expected (own :: extra).length))
        else
          match SquadError.register (own + Amount.sum extra) with
          | .error e => (s, .error e)
          | .ok requested =>
            match s.checkRange requested with
            | .error e => (s, .error e)
            | .ok () =>
              match s.extraGroups extra with
              | .error e => (s, .error e)
              | .ok groups =>
                let kept := Amount.sum (s.ownOthers.map Group.count)
                if own < kept then (s, .error (.invalidSize s.name own kept s.template.maxSize))
                else
                  (refresh { s with
                    lead := { s.lead with count := own - kept }
                    others := s.ownOthers ++ groups }, .ok ()) := by
  unfold resizeModels
  rw [perform_bind, perform_get]
  cases counts with
  | nil => rfl
  | cons own extra =>
    dsimp only
    split
    · rfl
    · rw [perform_bind, perform_lift]
      cases SquadError.register (own + Amount.sum extra) with
      | error e => rfl
      | ok requested =>
        dsimp only
        rw [perform_bind, perform_lift]
        cases s.checkRange requested with
        | error e => rfl
        | ok _ =>
          dsimp only
          rw [perform_bind, perform_lift]
          cases s.extraGroups extra with
          | error e => rfl
          | ok groups =>
            dsimp only
            split <;> rfl

/-- A number of models is kept if and only if its register has room for it. -/
theorem register_eq_ok_iff {m n : Nat} : SquadError.register m = .ok n ↔ m ≤ Amount.cap ∧ m = n := by
  rw [← Amount.checked_eq_some_iff]
  unfold SquadError.register
  cases Amount.checked m <;> simp

/-- It is the only reason to abort that its register has none. -/
theorem register_eq_error_iff {n : Nat} {e : SquadError} :
    SquadError.register n = .error e ↔ Amount.cap < n ∧ e = .aborted := by
  unfold SquadError.register Amount.checked
  by_cases h : n ≤ Amount.cap
  · simp [h, Nat.not_lt.mpr h]
  · simp [h, Nat.lt_of_not_le h, eq_comm]

/-- A number of models within the range of the template has room in a register. -/
theorem le_cap_of_checkRange {s : Squad} {n : Nat} (h : s.checkRange n = .ok ()) :
    n ≤ Amount.cap := by
  unfold checkRange at h
  split at h
  · cases h
  · have hmax := s.template.maxSize_le
    omega

/-- The number of models in some groups. -/
def headcount (gs : List Group) : Nat := Amount.sum (gs.map Group.count)

/-- Sizing by types succeeds if and only if there is a number for each type, all of them are in
range, groups can be made of the further types, and the number of the unit's own type covers the
groups of this type. -/
theorem perform_resizeModels_eq_ok_iff {s s' : Squad} {counts : List Nat} :
    s.perform (resizeModels counts) = (s', .ok ()) ↔
      ∃ own extra groups, counts = own :: extra ∧
        extra.length = s.template.models.length ∧ s.checkRange (own + Amount.sum extra) = .ok () ∧
        s.extraGroups extra = .ok groups ∧ headcount s.ownOthers ≤ own ∧
        s' = refresh { s with
          lead := { s.lead with count := own - headcount s.ownOthers }
          others := s.ownOthers ++ groups } := by
  rw [perform_resizeModels]
  constructor
  · intro h
    dsimp only at h
    split at h
    · cases h
    · next own extra =>
      split at h
      · cases h
      · next hlength =>
        split at h
        · cases h
        · next requested hregister =>
          obtain ⟨-, rfl⟩ := register_eq_ok_iff.mp hregister
          split at h
          · cases h
          · next hrange =>
            split at h
            · cases h
            · next groups hgroups =>
              split at h
              · cases h
              · next hkept =>
                cases h
                exact ⟨own, extra, groups, rfl, Decidable.not_not.mp hlength, hrange, hgroups,
                  Nat.le_of_not_lt hkept, rfl⟩
  · rintro ⟨own, extra, groups, rfl, hlength, hrange, hgroups, hkept, rfl⟩
    dsimp only
    rw [if_neg (Decidable.not_not.mpr hlength),
      register_eq_ok_iff.mpr ⟨le_cap_of_checkRange hrange, rfl⟩]
    dsimp only
    rw [hrange]
    dsimp only
    rw [hgroups]
    exact if_neg (Nat.not_lt.mpr hkept)

/-- A reset makes the squad anew from its template or is refused and changes nothing. -/
theorem perform_reset (s : Squad) :
    s.perform reset =
      match ofTemplate s.codex s.role s.name s.template with
      | .error e => (s, .error e)
      | .ok s' => (s', .ok ()) := by
  unfold reset
  rw [perform_bind, perform_get]
  dsimp only
  rw [perform_bind, perform_lift]
  cases ofTemplate s.codex s.role s.name s.template <;> rfl

end Squad

/-! ## A small unit -/

namespace Guards

/-- A melee weapon at 3 points. -/
def axe : Gear := .item ⟨"Axe", 1, 3, .melee⟩

/-- A ranged weapon at 5 points. -/
def bow : Gear := .item ⟨"Bow", 1, 5, .ranged⟩

/-- Some axes and a bow as one piece. -/
def kit (axes : Nat) : Gear := .bundle ⟨⟨"Axe", axes, 3, .melee⟩, ⟨"Bow", 1, 5, .ranged⟩, [], 1⟩

/-- Kits go by the same names, however many axes there are. -/
theorem kit_same (m n : Nat) : (kit m).same (kit n) = true := beq_iff_eq.mpr rfl

/-- There is room for eight guards. -/
theorem eight_le_cap : 8 ≤ Amount.cap := by decide

/-- One to eight guards at 10 points; one in two may take an axe or a bow. -/
def template (wargear : List String) : UnitTemplate :=
  ⟨"Guards", 10, 1, 8, wargear, ["Axe/Bow-2"], [], Amount.one_le_cap, eight_le_cap⟩

/-- A codex with no other unit. -/
def codex (wargear : List String) : Codex :=
  (Codex.ofArsenal "Watch" ((Arsenal.empty.insert "Axe" 3 .melee).insert "Bow" 5 .ranged)).addUnit
    .troops (template wargear)

/-- Guards with the base gear only. -/
def squad (wargear : List String) (gear : Loadout) (count points : Nat) : Squad :=
  ⟨codex wargear, template wargear, .troops, "Guards", gear, .plain "Guards" count 10, [], none,
    points⟩

/-- The option with an axe in the base gear. -/
def sheet (picks : List Pick) : Sheet where
  source := "Axe/Bow-2"
  offer := ⟨none, .every 2, .choice [axe, bow]⟩
  header := "For every 2 models, you may exchange Axe for one of the following:"
  picks := picks

/-- A codex where a bow is as many points as given, and guards have one option of their own. -/
def drill (bowCost : Nat) (wargear : List String) (option : String) : Codex :=
  (Codex.ofArsenal "Watch"
    ((Arsenal.empty.insert "Axe" 3 .melee).insert "Bow" bowCost .ranged)).addUnit
      .troops { template wargear with options := [option] }

/-- Their option, where it is for the whole unit, as it reads to guards with the base gear. -/
def drillSheet (option : String) (offered : List Gear) (gear : Loadout) : Sheet where
  source := option
  offer := ⟨none, .squad, .choice offered⟩
  header := Offer.header ⟨none, .squad, .choice offered⟩ ⟨gear, .squad⟩
  picks := []

/-- One of them, who has read the option. -/
def recruit (bowCost : Nat) (wargear : List String) (option : String) (offered : List Gear)
    (gear : Loadout) (points : Nat) : Squad :=
  ⟨drill bowCost wargear option, { template wargear with options := [option] }, .troops, "Guards",
    gear, .plain "Guards" 1 10, [], some [drillSheet option offered gear], points⟩

/-- Some of them, who have not read it. -/
def drilled (wargear : List String) (option : String) (gear : Loadout) (count points : Nat) :
    Squad :=
  { squad wargear gear count points with
    codex := drill 5 wargear option
    template := { template wargear with options := [option] } }

/-- Their option, where it is for any model. -/
def modelSheet (option : String) (offered : List Gear) (gear : Loadout) : Sheet where
  source := option
  offer := ⟨none, .anyModel, .choice offered⟩
  header := Offer.header ⟨none, .anyModel, .choice offered⟩ ⟨gear, .squad⟩
  picks := []

/-- A codex where guards with an axe may include a further type of model, in each place where it is
listed. -/
def patrol (option : String) (m : ModelTemplate) (models : List String) : Codex :=
  ((Codex.ofArsenal "Watch" ((Arsenal.empty.insert "Axe" 3 .melee).insert "Bow" 5 .ranged)).addUnit
    .troops { template ["Axe"] with options := [option], models }).addModel m

/-- A model without gear. -/
def scout (limit : Option Nat) : ModelTemplate := ⟨"Scout", 7, limit, [], false⟩

/-- One of the guards who may include others, before any has. -/
def patroller (option : String) (m : ModelTemplate) (models : List String) : Squad :=
  { squad ["Axe"] [axe] 1 13 with
    codex := patrol option m models
    template := { template ["Axe"] with options := [option], models } }

end Guards

end Muster
