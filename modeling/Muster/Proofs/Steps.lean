import Mathlib.Logic.Relation
import Muster.Proofs.Carving

/-!
# Steps of a squad

A call is taken apart into steps. A step is one thing that an operation writes once its checks have
passed, and it says what the checks have found. Every call takes finitely many steps, even one that
fails, so that whatever each step keeps is kept by every history of calls. What holds of a squad for
as long as it stands is proved in this way at the end.
-/

namespace Muster

namespace Squad

variable {s s' : Squad} {t : Sheet}

/-! ## The steps -/

/-- One change of a squad. -/
inductive Step (s : Squad) : Squad → Prop where
  | read {sheets : List Sheet} : s.freshSheets = .ok sheets → Step s { s with sheets := some sheets }
  | mark {index : Nat} {sheet sheet' : Sheet} (c : Sheet.Call) :
      s.sheetList[index]? = some sheet → c.answer sheet = .ok sheet' →
      Step s { s with sheets := some (s.sheetList.set index sheet') }
  | clearPicks : Step s s.clearPicks
  | equipped {t : Sheet} {s' : Squad} : t.offer.modelsPer ≤ s.size → Equipped s t s' → Step s s'
  | resize {size : Nat} : s.checkRange size = .ok () → s.othersCount ≤ size →
      Step s (refresh { s with lead := { s.lead with count := size - s.othersCount } })
  | resizeModels {own : Nat} {extra : List Nat} {groups : List Group} :
      extra.length = s.template.models.length → s.checkRange (own + Amount.sum extra) = .ok () →
      s.extraGroups extra = .ok groups → headcount s.ownOthers ≤ own →
      Step s (refresh { s with
        lead := { s.lead with count := own - headcount s.ownOthers }
        others := s.ownOthers ++ groups })
  | rename (name : String) : Step s (s.rename name)
  | reset {s' : Squad} : ofTemplate s.codex s.role s.name s.template = .ok s' → Step s s'

/-- Any number of changes. -/
abbrev Steps : Squad → Squad → Prop := Relation.ReflTransGen Step

/-! ## Every call takes steps -/

/-- Reading the sheets is a run of steps. -/
theorem steps_readSheets (s : Squad) : Steps s (s.perform readSheets).1 := by
  rw [perform_readSheets]
  split
  · exact .refl
  · split
    · next hfresh => exact .single (.read hfresh)
    · exact .refl

/-- The sheets that have been read are those of the squad. -/
theorem sheetList_of_readSheets {sheets : List Sheet}
    (h : s.perform readSheets = (s', .ok sheets)) : s'.sheetList = sheets := by
  rw [perform_readSheets] at h
  split at h
  · next hsheets =>
    cases h
    unfold sheetList
    rw [hsheets]
    rfl
  · split at h
    · cases h
      rfl
    · cases h

/-- Looking up a sheet leaves what reading the options leaves. -/
theorem perform_sheetAt_fst (s : Squad) (index : Nat) :
    (s.perform (sheetAt index)).1 = (s.perform readSheets).1 := by
  rw [perform_sheetAt]
  rcases s.perform readSheets with ⟨s', e | sheets⟩
  · rfl
  · dsimp only
    split <;> rfl

/-- The sheet that is looked up is the one in its place. -/
theorem sheetAt_ok {index : Nat} {sheet : Sheet}
    (h : s.perform (sheetAt index) = (s', .ok sheet)) : s'.sheetList[index]? = some sheet := by
  rw [perform_sheetAt] at h
  split at h
  · next s'' sheets hread =>
    split at h
    · next hat =>
      cases h
      rw [sheetList_of_readSheets hread]
      exact hat
    · cases h
  · cases h

/-- A change of a sheet is a run of steps. -/
theorem steps_mark (s : Squad) (index : Nat) (c : Sheet.Call) :
    Steps s (s.perform (editSheet index c.answer)).1 := by
  have hread := steps_readSheets s
  rw [← perform_sheetAt_fst s index] at hread
  rw [perform_editSheet]
  rcases hat : s.perform (sheetAt index) with ⟨s', e | sheet⟩
  all_goals rw [hat] at hread
  · exact hread
  · dsimp only
    split
    · next sheet' hanswer => exact hread.tail (.mark c (sheetAt_ok hat) hanswer)
    · exact hread

/-- An application is a run of steps, whether it succeeds or not. -/
theorem steps_equip (s : Squad) (t : Sheet) : Steps s (s.perform (equip t)).1 := by
  rcases hequip : s.perform (equip t) with ⟨s', e | _⟩
  · rw [equip_failed hequip]
  · obtain ⟨hsize, hequipped⟩ := equipped_of_ok hequip
    exact .single (.equipped hsize hequipped)

/-- Applications in turn are a run of steps, as far as they get. -/
theorem steps_equipInTurn (s : Squad) (sheets : List Sheet) :
    Steps s (s.perform (equipInTurn sheets)).1 := by
  induction sheets generalizing s with
  | nil => exact .refl
  | cons sheet rest ih =>
    have hfirst := steps_equip s sheet
    rw [perform_equipInTurn_cons]
    rcases hequip : s.perform (equip sheet) with ⟨s', e | _⟩
    all_goals rw [hequip] at hfirst
    · exact hfirst
    · exact hfirst.trans (ih s')

/-- A list that fails is taken back, which is no step at all. -/
theorem steps_equipEach (s : Squad) (sheets : List Sheet) :
    Steps s (s.perform (equipEach sheets)).1 := by
  rcases heach : s.perform (equipEach sheets) with ⟨s', e | _⟩
  · rw [equipEach_failed heach]
  · have hturn := steps_equipInTurn s sheets
    rw [perform_equipEach] at heach
    split at heach
    · next hinTurn =>
      cases heach
      rw [hinTurn] at hturn
      exact hturn
    · cases heach

/-- Applying what is picked is a run of steps. -/
theorem steps_equipPicked (s : Squad) : Steps s (s.perform equipPicked).1 := by
  have heach := steps_equipEach s s.pending
  rw [perform_equipPicked]
  split
  · exact .refl
  · rcases hequip : s.perform (equipEach s.pending) with ⟨s', e | _⟩
    all_goals rw [hequip] at heach
    · exact heach
    · exact heach.tail .clearPicks

/-- A resize is a run of steps. -/
theorem steps_resize (s : Squad) (size : Nat) : Steps s (s.perform (resize size)).1 := by
  rcases hresize : s.perform (resize size) with ⟨s', e | _⟩
  · obtain rfl := resize_failed hresize
    exact .refl
  · obtain ⟨hrange, hroom, rfl⟩ := perform_resize_eq_ok_iff.mp hresize
    exact .single (.resize hrange hroom)

/-- A resize by type is a run of steps. -/
theorem steps_resizeModels (s : Squad) (counts : List Nat) :
    Steps s (s.perform (resizeModels counts)).1 := by
  rcases hresize : s.perform (resizeModels counts) with ⟨s', e | _⟩
  · obtain rfl := resizeModels_failed hresize
    exact .refl
  · obtain ⟨own, extra, groups, -, hlength, hrange, hgroups, hkept, rfl⟩ :=
      perform_resizeModels_eq_ok_iff.mp hresize
    exact .single (.resizeModels hlength hrange hgroups hkept)

/-- A reset is a run of steps. -/
theorem steps_reset (s : Squad) : Steps s (s.perform reset).1 := by
  rw [perform_reset]
  split
  · exact .refl
  · next hreset => exact .single (.reset hreset)

/-- Every call takes steps, whether it succeeds or fails. -/
theorem steps_perform (s : Squad) (c : Call) : Steps s (s.perform c.action).1 := by
  cases c with
  | list =>
    change Steps s (s.perform ensureSheets).1
    rw [perform_ensureSheets]
    exact steps_readSheets s
  | mark index c => exact steps_mark s index c
  | clearPicks => exact .single .clearPicks
  | equip sheet => exact steps_equip s sheet
  | equipEach sheets => exact steps_equipEach s sheets
  | equipPicked => exact steps_equipPicked s
  | resize size => exact steps_resize s size
  | resizeModels counts => exact steps_resizeModels s counts
  | rename name => exact .single (.rename name)
  | reset => exact steps_reset s

/-- Whatever is called is a run of steps. -/
theorem steps_run (s : Squad) (calls : List Call) : Steps s (s.run calls) := by
  induction calls generalizing s with
  | nil => exact .refl
  | cons c rest ih => exact (steps_perform s c).trans (ih _)

/-- What every step keeps is kept by every number of steps. -/
theorem Steps.keep {P : Squad → Prop} (hstep : ∀ s s', P s → Step s s' → P s')
    (h : Steps s s') (hs : P s) : P s' := by
  induction h with
  | refl => exact hs
  | tail _ hlast ih => exact hstep _ _ ih hlast

/-! ## Groups of further models -/

/-- What comes of a further type of model: it is in the codex, its limit is kept in this place, and
it makes a group if there are to be any models of it. -/
theorem extraGroup_cases {kind : String} {count : Nat} {found : Option Group}
    (h : s.extraGroup kind count = .ok found) :
    ∃ m, s.codex.model kind = .ok m ∧ (∀ limit, m.limit = some limit → count ≤ limit) ∧
      (count = 0 ∧ found = none ∨
        0 < count ∧ ∃ gear, found = some ⟨kind, count, m.points, gear, s.gear, m.limit⟩) := by
  unfold extraGroup at h
  split at h
  · cases h
  · next m hmodel =>
    split at h
    · cases h
    · next hwithin =>
      have hlimit (limit : Nat) (hm : m.limit = some limit) : count ≤ limit := by
        simpa [hm] using hwithin
      split at h
      · next hnone =>
        cases h
        exact ⟨m, hmodel, hlimit, .inl ⟨hnone, rfl⟩⟩
      · next hsome =>
        split at h
        · cases h
        · next gear _ =>
          cases h
          exact ⟨m, hmodel, hlimit, .inr ⟨Nat.pos_of_ne_zero hsome, gear, rfl⟩⟩

/-- A group that is made from counts is made from the count of one of the types. -/
theorem exists_of_mem_extraGroups {counts : List Nat} {groups : List Group} {g : Group}
    (h : s.extraGroups counts = .ok groups) (hg : g ∈ groups) :
    ∃ kind count, (kind, count) ∈ s.template.models.zip counts ∧
      s.extraGroup kind count = .ok (some g) := by
  unfold extraGroups at h
  obtain ⟨found, hfound, rfl⟩ := exists_of_map_eq_ok h
  obtain ⟨g', hg', rfl⟩ := List.mem_filterMap.mp hg
  obtain ⟨⟨kind, count⟩, hmem, hgroup⟩ := exists_of_mem_mapM hfound hg'
  exact ⟨kind, count, hmem, hgroup⟩

/-! ## What applying an option to the whole squad does -/

/-- Where the lead group has no gear of its own, only base gear is given up. -/
theorem LeadPlain.giveUp_eq (h : s.LeadPlain) (piece : Gear) :
    s.giveUp piece = { s with gear := s.gear.drop piece } := by
  unfold giveUp
  split
  · rfl
  · next hcarries =>
    have hlead : s.lead.gear.drop piece = s.lead.gear := by
      rw [h.1]
      rfl
    rw [hlead, Loadout.drop_of_not_carries (Bool.not_eq_true _ ▸ hcarries)]

/-- Giving up base pieces with a plain lead group drops them from the base gear. -/
theorem LeadPlain.foldl_giveUp_eq (h : s.LeadPlain) (pieces : Loadout) :
    pieces.foldl giveUp s = { s with gear := s.gear.dropAll pieces } := by
  induction pieces generalizing s with
  | nil => rfl
  | cons piece rest ih =>
    have hnext : LeadPlain { s with gear := s.gear.drop piece } := h
    rw [List.foldl_cons, h.giveUp_eq, ih hnext]
    rfl

/-- An option for the whole squad changes nothing but the base gear. -/
theorem LeadPlain.equipAll_eq (h : s.LeadPlain) (t : Sheet) :
    s.equipAll t = { s with gear := s.gear.dropAll t.gear ++ t.selected } := by
  unfold equipAll
  rw [h.foldl_giveUp_eq]

/-! ## Squads that stand -/

/-- What holds of a squad of a template for as long as it stands. -/
structure Standing (x : Codex) (u : UnitTemplate) (s : Squad) : Prop where
  codex : s.codex = x
  template : s.template = u
  /-- only the number of models in the lead group changes -/
  lead : s.lead = .plain u.name s.lead.count u.basePoints
  manned : ∀ g ∈ s.others, 0 < g.count
  /-- the options have been read from the clauses of the template -/
  sheets : ∀ t ∈ s.sheetList, ∃ clause ∈ u.options.flatMap Offer.clauses,
    Offer.read x.arsenal clause = .ok t.offer

variable {x : Codex} {u : UnitTemplate}

/-- The lead group of a standing squad is plain. -/
theorem Standing.leadPlain (h : Standing x u s) : s.LeadPlain := by
  rw [LeadPlain, h.lead]
  exact ⟨rfl, rfl⟩

/-- The lead group of a standing squad, with any count, is a plain group of the unit. -/
theorem Standing.lead_with (h : Standing x u s) (count : Nat) :
    { s.lead with count } = .plain u.name count u.basePoints := by
  rw [h.lead]
  rfl

/-- A squad made from a template stands. -/
theorem standing_ofTemplate {role : Role} {name : String}
    (h : ofTemplate x role name u = .ok s) : Standing x u s := by
  obtain ⟨gear, -, rfl⟩ := exists_of_ofTemplate h
  exact ⟨rfl, rfl, rfl, fun g hg => absurd hg List.not_mem_nil,
    fun t ht => absurd ht List.not_mem_nil⟩

/-- A sheet that is read holds the offer of a clause. -/
theorem exists_of_mem_freshSheets {sheets : List Sheet} (h : s.freshSheets = .ok sheets)
    (ht : t ∈ sheets) : ∃ clause ∈ s.clauses, Offer.read s.codex.arsenal clause = .ok t.offer := by
  obtain ⟨clause, hclause, hread⟩ := exists_of_mem_mapM h ht
  refine ⟨clause, hclause, ?_⟩
  split at hread
  · next hsheet =>
    cases hread
    unfold Sheet.read at hsheet
    split at hsheet
    · cases hsheet
    · next hoffer =>
      cases hsheet
      exact hoffer
  · cases hread

/-- Writing a group back leaves a squad standing. -/
theorem Standing.regroup (h : Standing x u s) (existing : Option Nat) (g : Group)
    (leadCount count : Nat) : Standing x u (s.regroup existing g leadCount count) where
  codex := h.codex
  template := h.template
  lead := h.lead_with leadCount
  manned := by
    intro k hk
    have hmanned := List.of_mem_filter hk
    simpa using hmanned
  sheets := h.sheets

/-- Bringing the points up to date leaves a squad standing. -/
theorem Standing.refresh (h : Standing x u s) : Standing x u s.refresh :=
  ⟨h.codex, h.template, h.lead, h.manned, h.sheets⟩

/-- Equipping leaves a squad standing. -/
theorem Standing.equipped (h : Standing x u s) (hequipped : Equipped s t s') :
    Standing x u s' := by
  cases hequipped with
  | unpicked => exact h
  | apart _ _ hcarve =>
    cases carved_of_ok hcarve with
    | kept => exact h.refresh
    | regrouped => exact (h.regroup _ _ _ _).refresh
  | whole =>
    rw [h.leadPlain.equipAll_eq]
    exact ⟨h.codex, h.template, h.lead, h.manned, h.sheets⟩

/-- Every step keeps a squad standing. -/
theorem Standing.step (h : Standing x u s) (hstep : Step s s') :
    Standing x u s' := by
  cases hstep with
  | read hfresh =>
    refine ⟨h.codex, h.template, h.lead, h.manned, fun t ht => ?_⟩
    obtain ⟨clause, hclause, hread⟩ := exists_of_mem_freshSheets hfresh ht
    rw [clauses, h.template] at hclause
    rw [h.codex] at hread
    exact ⟨clause, hclause, hread⟩
  | mark c hat hanswer =>
    refine ⟨h.codex, h.template, h.lead, h.manned, fun t ht => ?_⟩
    rcases List.mem_or_eq_of_mem_set ht with hold | rfl
    · exact h.sheets t hold
    · rw [Sheet.offer_answer hanswer]
      exact h.sheets _ (List.mem_of_getElem? hat)
  | clearPicks =>
    refine ⟨h.codex, h.template, h.lead, h.manned, fun t ht => ?_⟩
    cases hsheets : s.sheets with
    | none =>
      rw [sheetList, Squad.clearPicks, hsheets] at ht
      exact absurd ht List.not_mem_nil
    | some sheets =>
      rw [sheetList, Squad.clearPicks, hsheets] at ht
      obtain ⟨t', ht', rfl⟩ := List.mem_map.mp ht
      refine h.sheets t' ?_
      rw [sheetList, hsheets]
      exact ht'
  | equipped _ hequipped => exact h.equipped hequipped
  | resize => exact ⟨h.codex, h.template, h.lead_with _, h.manned, h.sheets⟩
  | resizeModels _ _ hgroups _ =>
    refine ⟨h.codex, h.template, h.lead_with _, fun g hg => ?_, h.sheets⟩
    rcases List.mem_append.mp hg with hown | hextra
    · exact h.manned g (List.mem_of_mem_filter hown)
    · obtain ⟨kind, count, -, hgroup⟩ := exists_of_mem_extraGroups hgroups hextra
      obtain ⟨m, -, -, ⟨-, hnone⟩ | ⟨hpos, gear, hmade⟩⟩ := extraGroup_cases hgroup
      · cases hnone
      · cases hmade
        exact hpos
  | rename name => exact ⟨h.codex, h.template, h.lead, h.manned, h.sheets⟩
  | reset hreset =>
    rw [h.codex, h.template] at hreset
    exact standing_ofTemplate hreset

/-- A squad stays standing whatever is called. -/
theorem Standing.run (h : Standing x u s) (calls : List Call) :
    Standing x u (s.run calls) :=
  Steps.keep (fun _ _ => Standing.step) (steps_run s calls) h

/-- What every step of a standing squad keeps is kept by every history of calls. -/
theorem Standing.keep {P : Squad → Prop}
    (hstep : ∀ s s', Standing x u s → P s → Step s s' → P s') (h : Standing x u s) (hs : P s)
    (calls : List Call) : P (s.run calls) := by
  have hboth : Standing x u (s.run calls) ∧ P (s.run calls) := by
    refine Steps.keep (P := fun s => Standing x u s ∧ P s) ?_ (steps_run s calls) ⟨h, hs⟩
    rintro s s' ⟨hstanding, hs⟩ hlast
    exact ⟨hstanding.step hlast, hstep s s' hstanding hs hlast⟩
  exact hboth.2

/-- Whether a squad comes of a history of calls on a new squad of the codex. -/
def Reachable (x : Codex) (s : Squad) : Prop :=
  ∃ role unit s₀ calls, muster x role unit = .ok s₀ ∧ s = s₀.run calls

/-- What is called on a reachable squad leaves it reachable. -/
theorem Reachable.run (h : Reachable x s) (calls : List Call) : Reachable x (s.run calls) := by
  obtain ⟨role, unit, s₀, before, hmuster, rfl⟩ := h
  exact ⟨role, unit, s₀, before ++ calls, hmuster, List.foldl_append.symm⟩

/-- A reachable squad is a standing one of some unit. -/
theorem Reachable.standing (h : Reachable x s) :
    ∃ role unit u, x.unit role unit = .ok u ∧ Standing x u s := by
  obtain ⟨role, unit, s₀, calls, hmuster, rfl⟩ := h
  obtain ⟨u, hunit, htemplate⟩ := exists_of_muster hmuster
  exact ⟨role, unit, u, hunit, (standing_ofTemplate htemplate).run calls⟩

/-- The lead group of a reachable squad is plain. -/
theorem Reachable.leadPlain (h : Reachable x s) : s.LeadPlain := by
  obtain ⟨role, unit, u, -, hstanding⟩ := h.standing
  exact hstanding.leadPlain

end Squad

end Muster
