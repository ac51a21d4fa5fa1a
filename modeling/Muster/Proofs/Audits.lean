import Muster.Codex.Audit
import Muster.Codex.Document
import Muster.Proofs.Steps

/-!
# Audits

An audit is made before any squad is, and reads the texts of the codex in its own way: it goes on
after an entry that cannot be read, and offers the options to whoever carries the rest. It is shown
to find an error exactly where a squad would come to grief. Whether a clause can be read depends on
the arsenal alone, not on whom it is offered to, and a squad reads no text that the audit has not
tried, whenever it comes to read it.
-/

namespace Muster

/-! ## Codices that are made -/

namespace Codex

/-- A codex that is made of an arsenal by filing units and models. -/
inductive Built : Codex → Prop where
  | ofArsenal (faction : String) (a : Arsenal) : Built (.ofArsenal faction a)
  | addUnit {x : Codex} (role : Role) (t : UnitTemplate) : Built x → Built (x.addUnit role t)
  | addModel {x : Codex} (t : ModelTemplate) : Built x → Built (x.addModel t)

variable {x : Codex}

/-- Units are filed under their names, and every one of them is found. -/
theorem Built.units_direct (h : x.Built) :
    x.units.Direct ∧ ∀ row ∈ x.units.rows, row.1.name = row.2.name := by
  induction h with
  | ofArsenal faction a =>
    exact ⟨fun row hrow => absurd hrow List.not_mem_nil, fun row hrow => absurd hrow List.not_mem_nil⟩
  | addModel t _ ih => exact ih
  | addUnit role t _ ih =>
    refine ⟨ih.1.insert _ _, fun row hrow => ?_⟩
    rcases Table.mem_place.mp hrow with rfl | hold
    · rfl
    · exact ih.2 row (List.mem_of_mem_filter hold)

/-- A unit that is listed is found under its role and name. -/
theorem Built.unit_eq (h : x.Built) {role : Role} {t : UnitTemplate}
    (hlisted : (role, t) ∈ x.unitListing) : x.unit role t.name = .ok t := by
  obtain ⟨⟨⟨_, name⟩, _⟩, hrow, heq⟩ := List.mem_map.mp hlisted
  obtain ⟨rfl, rfl⟩ := Prod.mk.inj heq
  obtain ⟨hdirect, hnames⟩ := h.units_direct
  have hname := hnames _ hrow
  have hget := hdirect _ hrow
  dsimp only at hname hget
  rw [unit, ← hname, hget]

/-- A unit that is found stands in the listing of a codex. -/
theorem mem_unitListing_of_unit {role : Role} {name : String} {t : UnitTemplate}
    (h : x.unit role name = .ok t) : ∃ role', (role', t) ∈ x.unitListing := by
  unfold unit at h
  split at h
  · next hget =>
    cases h
    exact ⟨_, List.mem_map_of_mem (Table.mem_of_get? hget)⟩
  · split at h
    · next hget =>
      cases h
      exact ⟨_, List.mem_map_of_mem (Table.mem_of_get? hget)⟩
    · cases h

/-- A model that is found stands in the listing of a codex. -/
theorem mem_modelListing_of_model {name : String} {m : ModelTemplate} (h : x.model name = .ok m) :
    m ∈ x.modelListing := by
  unfold model at h
  split at h
  · next hget =>
    cases h
    exact List.mem_map_of_mem (Table.mem_of_get? hget)
  · cases h

end Codex

/-! ## Codices that are read -/

section

variable {x x' : Codex}

/-- What every entry keeps is kept by a list of entries. -/
theorem foldlM_keep {P : β → Prop} {f : β → α → Except ε β} {l : List α} {b b' : β} (hb : P b)
    (hf : ∀ b a b', P b → f b a = .ok b' → P b') (h : l.foldlM f b = .ok b') : P b' := by
  induction l generalizing b with
  | nil =>
    cases h
    exact hb
  | cons a rest ih =>
    rw [List.foldlM_cons] at h
    cases ha : f b a with
    | error e =>
      rw [ha] at h
      cases h
    | ok next =>
      rw [ha] at h
      exact ih (hf b a next hb ha) h

/-- A section of a document leaves a built codex a built one. -/
theorem Codex.Built.addSection (hx : x.Built) {heading : String}
    {units : Table String UnitTemplate} (h : Document.addSection x heading units = .ok x') :
    x'.Built := by
  unfold Document.addSection at h
  split at h
  · cases h
  · cases h
    exact List.foldlRecOn _ _ hx fun _ hbuilt _ _ => .addUnit _ _ hbuilt

/-- The codex that a document makes is a built one. -/
theorem Codex.built_of_toCodex {d : Document} (h : d.toCodex = .ok x) : x.Built := by
  unfold Document.toCodex at h
  split at h
  · cases h
  · split at h
    · cases h
    · next hunits =>
      cases h
      have hbuilt := foldlM_keep (P := Built) (.ofArsenal _ _) (fun _ _ _ hx => hx.addSection) hunits
      exact List.foldlRecOn _ _ hbuilt fun _ hbuilt _ _ => .addModel _ hbuilt

/-- Every codex that comes of a text is made by filing units and models. -/
theorem Codex.built_of_read {format : Format} {text : String}
    (h : Codex.read format text = .ok x) : x.Built := by
  unfold Codex.read at h
  split at h
  · cases h
  · exact Codex.built_of_toCodex h

end

/-! ## Texts that can be read -/

/-- Every entry of a loadout can be read. -/
def Arsenal.Equips (a : Arsenal) (entries : List String) : Prop :=
  ∀ entry ∈ entries, ∃ g, Gear.read a entry = .ok g

/-- Every clause of some options can be read. -/
def Arsenal.Offers (a : Arsenal) (entries : List String) : Prop :=
  ∀ clause ∈ entries.flatMap Offer.clauses, ∃ o, Offer.read a clause = .ok o

/-- What a codex says of a unit is in order. -/
structure UnitTemplate.Sound (x : Codex) (t : UnitTemplate) : Prop where
  sized : 1 ≤ t.minSize ∧ t.minSize ≤ t.maxSize
  equipped : x.arsenal.Equips t.wargear
  offered : x.arsenal.Offers t.options
  staffed : ∀ name ∈ t.models, ∃ m, x.model name = .ok m

/-- Whom an offer is made to makes no difference to whether it can be read. -/
theorem Sheet.exists_read_iff {a : Arsenal} {clause : String} {b : Bearer} :
    (∃ sheet, Sheet.read a clause b = .ok sheet) ↔ ∃ o, Offer.read a clause = .ok o := by
  unfold Sheet.read
  cases Offer.read a clause with
  | error e => simp
  | ok o => simp

/-! ## What an audit finds -/

namespace Audit

/-- Two audits together have errors if one of them has. -/
theorem hasErrors_append (a b : Audit) : hasErrors (a ++ b) = (a.hasErrors || b.hasErrors) :=
  List.any_append

/-- A list of audits is without errors if each of them is. -/
theorem hasErrors_flatMap_eq_false_iff {l : List α} {f : α → Audit} :
    hasErrors (l.flatMap f) = false ↔ ∀ y ∈ l, (f y).hasErrors = false := by
  rw [hasErrors, List.any_flatMap, List.any_eq_false]
  simp [hasErrors]

/-- Findings made one at a time are no errors if none of them is. -/
theorem hasErrors_filterMap_eq_false_iff {l : List α} {f : α → Option Finding} :
    hasErrors (l.filterMap f) = false ↔
      ∀ y ∈ l, ∀ found, f y = some found → found.severity ≠ .error := by
  rw [hasErrors, List.any_eq_false]
  constructor
  · intro h y hy found hfound
    simpa using h found (List.mem_filterMap.mpr ⟨y, hy, hfound⟩)
  · intro h found hfound
    obtain ⟨y, hy, hf⟩ := List.mem_filterMap.mp hfound
    simpa using h y hy found hf

/-- A finding made on a condition is an error if it is grave and the condition holds. -/
theorem hasErrors_ite_eq_false_iff {p : Prop} [Decidable p] {f : Finding} :
    hasErrors (if p then [f] else []) = false ↔ (f.severity = .error → ¬ p) := by
  by_cases hp : p <;> simp [hasErrors, hp]

variable {x : Codex} {a : Arsenal} {context : String}

/-- The audit of a loadout is without errors exactly where the arsenal equips all of it. -/
theorem ofLoadout_hasErrors_eq_false_iff {entries : List String} :
    (ofLoadout a context entries).hasErrors = false ↔ a.Equips entries := by
  rw [ofLoadout, hasErrors_filterMap_eq_false_iff]
  refine forall₂_congr fun entry _ => ?_
  cases Gear.read a entry with
  | error e => simp
  | ok g => simp

/-- The audit of options is without errors exactly where the arsenal offers all of them. -/
theorem ofOptions_hasErrors_eq_false_iff {entries : List String} {maxSize : Nat} {b : Bearer} :
    (ofOptions a context entries maxSize b).hasErrors = false ↔ a.Offers entries := by
  rw [ofOptions, hasErrors_filterMap_eq_false_iff, Sheet.readAll, List.forall_mem_map]
  refine forall₂_congr fun clause _ => ?_
  rw [← Sheet.exists_read_iff (b := b)]
  cases Sheet.read a clause b with
  | error e => simp
  | ok sheet =>
    dsimp only
    split <;> simp

/-- The audit of a unit is without errors exactly where the unit is sound. -/
theorem ofUnit_hasErrors_eq_false_iff {role : Role} {t : UnitTemplate} :
    (ofUnit x role t).hasErrors = false ↔ t.Sound x := by
  unfold ofUnit
  simp only [hasErrors_append, Bool.or_eq_false_iff, hasErrors_ite_eq_false_iff,
    ofLoadout_hasErrors_eq_false_iff, ofOptions_hasErrors_eq_false_iff,
    hasErrors_filterMap_eq_false_iff]
  -- the last finding is no error, so nothing is to be shown for it
  constructor
  · rintro ⟨⟨⟨⟨hsize, hequipped⟩, hoffered⟩, hfound⟩, -⟩
    have hsized : ¬ (t.minSize = 0 ∨ t.minSize > t.maxSize) := hsize trivial
    refine ⟨by omega, hequipped, hoffered, fun name hname => ?_⟩
    have hnone := hfound name hname
    cases hmodel : x.model name with
    | ok m => exact ⟨m, rfl⟩
    | error e =>
      rw [hmodel] at hnone
      exact absurd rfl (hnone _ rfl)
  · intro h
    have hsized := h.sized
    refine ⟨⟨⟨⟨fun _ => by omega, h.equipped⟩, h.offered⟩, fun name hname found hfound => ?_⟩, ?_⟩
    · obtain ⟨m, hmodel⟩ := h.staffed name hname
      rw [hmodel] at hfound
      cases hfound
    · intro hsevere
      cases hsevere

/-- The audit of a model is without errors exactly where the arsenal equips it. -/
theorem ofModel_hasErrors_eq_false_iff {m : ModelTemplate} :
    (ofModel x m).hasErrors = false ↔ x.arsenal.Equips m.wargear := by
  unfold ofModel
  rw [hasErrors_append, Bool.or_eq_false_iff, ofLoadout_hasErrors_eq_false_iff,
    hasErrors_ite_eq_false_iff]
  refine and_iff_left fun hsevere => ?_
  cases hsevere

end Audit

/-- An audit finds no error if and only if every unit is in order and every model can be equipped. -/
theorem Codex.audit_hasErrors_eq_false_iff {x : Codex} :
    x.audit.hasErrors = false ↔
      (∀ row ∈ x.unitListing, row.2.Sound x) ∧ ∀ m ∈ x.modelListing, x.arsenal.Equips m.wargear := by
  unfold audit
  rw [Audit.hasErrors_append, Bool.or_eq_false_iff, Audit.hasErrors_flatMap_eq_false_iff,
    Audit.hasErrors_flatMap_eq_false_iff]
  refine and_congr (forall₂_congr fun row _ => ?_) (forall₂_congr fun m _ => ?_)
  · exact Audit.ofUnit_hasErrors_eq_false_iff
  · exact Audit.ofModel_hasErrors_eq_false_iff

/-- The further types of model that a unit names are there and can be equipped. -/
theorem UnitTemplate.Sound.exists_model {x : Codex} {t : UnitTemplate} (h : t.Sound x)
    (hequips : ∀ m ∈ x.modelListing, x.arsenal.Equips m.wargear) :
    ∀ name ∈ t.models, ∃ m, x.model name = .ok m ∧ x.arsenal.Equips m.wargear := by
  intro name hname
  obtain ⟨m, hmodel⟩ := h.staffed name hname
  exact ⟨m, hmodel, hequips m (Codex.mem_modelListing_of_model hmodel)⟩

/-! ## What a squad reads -/

namespace Squad

variable {x : Codex} {s s' : Squad} {u : UnitTemplate} {e : SquadError}

/-- A loadout is read exactly where the arsenal equips all of it. -/
theorem exists_readLoadout_iff (unit : String) {entries : List String} :
    (∃ gear, readLoadout x unit entries = .ok gear) ↔ x.arsenal.Equips entries := by
  unfold readLoadout
  rw [exists_mapM_eq_ok_iff]
  refine forall₂_congr fun entry _ => ?_
  cases Gear.read x.arsenal entry with
  | error e => simp
  | ok g => simp

/-- New squads are made of a unit that is in order. -/
theorem exists_muster {role : Role} {unit : String} (hunit : x.unit role unit = .ok u)
    (hu : u.Sound x) : ∃ s₀, muster x role unit = .ok s₀ := by
  obtain ⟨gear, hgear⟩ := (exists_readLoadout_iff u.name).mpr hu.equipped
  rw [muster, hunit]
  dsimp only
  rw [ofTemplate, hgear]
  exact ⟨_, rfl⟩

/-- Sheets are made exactly where the arsenal offers every option of the template. -/
theorem exists_freshSheets_iff :
    (∃ sheets, s.freshSheets = .ok sheets) ↔ s.codex.arsenal.Offers s.template.options := by
  unfold freshSheets
  rw [exists_mapM_eq_ok_iff]
  refine forall₂_congr fun clause _ => ?_
  rw [← Sheet.exists_read_iff (b := s.bearer)]
  cases Sheet.read s.codex.arsenal clause s.bearer with
  | error e => simp
  | ok sheet => simp

/-- A squad that has not read its options reads them exactly where the arsenal offers them all. -/
theorem exists_readSheets_iff (hnone : s.sheets = none) :
    (∃ sheets, (s.perform readSheets).2 = .ok sheets) ↔
      s.codex.arsenal.Offers s.template.options := by
  rw [← exists_freshSheets_iff, perform_readSheets, hnone]
  cases s.freshSheets with
  | error e => exact Iff.rfl
  | ok sheets => exact Iff.rfl

/-- Options that can be read are read at any time, against whatever base gear there is. -/
theorem exists_readSheets (h : s.codex.arsenal.Offers s.template.options) :
    ∃ s' sheets, s.perform readSheets = (s', .ok sheets) := by
  obtain ⟨sheets, hread⟩ := exists_readSheets_of_fresh (exists_freshSheets_iff.mpr h)
  exact ⟨_, sheets, hread⟩

end Squad

/-- A unit is of a size that can be, new squads of it can be made and their options read, and all
models that it names are there. -/
structure Codex.Fieldable (x : Codex) (role : Role) (t : UnitTemplate) : Prop where
  sized : 1 ≤ t.minSize ∧ t.minSize ≤ t.maxSize
  mustered : ∃ s sheets, Squad.muster x role t.name = .ok s ∧
    (s.perform Squad.readSheets).2 = .ok sheets
  staffed : ∀ name ∈ t.models, ∃ m, x.model name = .ok m

/-- A unit can be mustered and its options read exactly where it is sound. -/
theorem Codex.fieldable_iff {x : Codex} {role : Role} {t : UnitTemplate}
    (hunit : x.unit role t.name = .ok t) : x.Fieldable role t ↔ t.Sound x := by
  constructor
  · intro h
    obtain ⟨s, sheets, hmuster, hsheets⟩ := h.mustered
    have htemplate := Squad.ofTemplate_of_muster hunit hmuster
    obtain ⟨gear, hgear, rfl⟩ := Squad.exists_of_ofTemplate htemplate
    have hequipped := (Squad.exists_readLoadout_iff t.name).mp ⟨gear, hgear⟩
    have hoffered := (Squad.exists_readSheets_iff rfl).mp ⟨sheets, hsheets⟩
    exact ⟨h.sized, hequipped, hoffered, h.staffed⟩
  · intro h
    obtain ⟨gear, hgear⟩ := (Squad.exists_readLoadout_iff t.name).mpr h.equipped
    let s := Squad.refresh
      ⟨x, t, role, t.name, gear, .plain t.name t.minSize t.basePoints, [], none, 0⟩
    have hmuster : Squad.muster x role t.name = .ok s := by
      rw [Squad.muster, hunit]
      dsimp only
      rw [Squad.ofTemplate, hgear]
    obtain ⟨sheets, hsheets⟩ := (Squad.exists_readSheets_iff (s := s) rfl).mpr h.offered
    exact ⟨h.sized, ⟨s, sheets, hmuster, hsheets⟩, h.staffed⟩

/-! ## What a squad is refused -/

/-- Whether something that is missing from the codex or cannot be read in it is at fault. -/
def SquadError.blamesCodex : SquadError → Bool
  | codex _ | offer .. => true
  | _ => false

namespace Squad

variable {x : Codex} {s s' : Squad} {u : UnitTemplate} {sheet : Sheet} {e : SquadError}

/-- There is no number of models for a group if the share is used up, or if the register has no room
for one model more. -/
theorem target_refused {existing : Option Nat} {current : Nat}
    (h : s.target sheet existing current = .error e) :
    e = .entitlementUsed s.name sheet.source (s.size / sheet.offer.modelsPer) ∨ e = .aborted := by
  unfold target at h
  split at h
  · exact .inr (register_eq_error_iff.mp h).2
  · dsimp only at h
    split at h
    · cases h
      exact .inl rfl
    · cases h

/-- Carving is refused for want of models or because the share is used up; else it may abort. -/
theorem carve_refused (h : s.perform (carve sheet) = (s', .error e)) :
    e = .noModelsAvailable s.name ∨
      (∃ entitled, e = .entitlementUsed s.name sheet.source entitled) ∨ e = .aborted := by
  rw [perform_carve] at h
  dsimp only at h
  split at h
  · cases h
  · split at h
    · next htarget =>
      cases h
      exact .inr ((target_refused htarget).imp_left fun h => ⟨_, h⟩)
    · split at h
      · cases h
        exact .inl rfl
      · cases h

/-- A refused carving never blames the codex. -/
theorem carve_blameless (h : s.perform (carve sheet) = (s', .error e)) :
    e.blamesCodex = false := by
  obtain rfl | ⟨entitled, rfl⟩ | rfl := carve_refused h
  · rfl
  · rfl
  · rfl

/-- A refused application never blames the codex. -/
theorem equip_blameless (h : s.perform (equip sheet) = (s', .error e)) :
    e.blamesCodex = false := by
  rw [perform_equip] at h
  dsimp only at h
  split at h
  · cases h
    rfl
  · split at h
    · cases h
      rfl
    · split at h
      · cases h
      · split at h
        · split at h
          · cases h
          · next hcarve =>
            cases h
            exact carve_blameless hcarve
        · cases h

/-- Applications in turn never blame the codex. -/
theorem equipInTurn_blameless {sheets : List Sheet}
    (h : s.perform (equipInTurn sheets) = (s', .error e)) : e.blamesCodex = false := by
  induction sheets generalizing s with
  | nil => cases h
  | cons sheet rest ih =>
    rw [perform_equipInTurn_cons] at h
    split at h
    · exact ih h
    · next hequip =>
      cases h
      exact equip_blameless hequip

/-- Applications of sheets, one after another, never blame the codex. -/
theorem equipEach_blameless {sheets : List Sheet}
    (h : s.perform (equipEach sheets) = (s', .error e)) : e.blamesCodex = false := by
  rw [perform_equipEach] at h
  split at h
  · cases h
  · next hturn =>
    cases h
    exact equipInTurn_blameless hturn

/-- Applying what is picked never blames the codex. -/
theorem equipPicked_blameless (h : s.perform equipPicked = (s', .error e)) :
    e.blamesCodex = false := by
  rw [perform_equipPicked] at h
  split at h
  · cases h
    rfl
  · split at h
    · cases h
    · next heach =>
      cases h
      exact equipEach_blameless heach

/-- A size out of range never blames the codex. -/
theorem checkRange_blameless {size : Nat} (h : s.checkRange size = .error e) :
    e.blamesCodex = false := by
  unfold checkRange at h
  split at h
  · cases h
    rfl
  · cases h

/-- A refused resize never blames the codex. -/
theorem resize_blameless {size : Nat} (h : s.perform (resize size) = (s', .error e)) :
    e.blamesCodex = false := by
  rw [perform_resize] at h
  split at h
  · next hrange =>
    cases h
    exact checkRange_blameless hrange
  · split at h
    · cases h
      rfl
    · cases h

/-- A group of a model that is there and can be equipped is refused for its number at most. -/
theorem extraGroup_blameless {kind : String} {count : Nat} {m : ModelTemplate}
    (hmodel : s.codex.model kind = .ok m) (hequips : s.codex.arsenal.Equips m.wargear)
    (h : s.extraGroup kind count = .error e) : e.blamesCodex = false := by
  obtain ⟨gear, hgear⟩ := (exists_readLoadout_iff s.template.name).mpr hequips
  unfold extraGroup at h
  rw [hmodel] at h
  dsimp only at h
  rw [hgear] at h
  split at h
  · cases h
    rfl
  · split at h
    · cases h
    · cases h

/-- Groups of further types blame the codex only where one of them is missing or cannot be
equipped. -/
theorem extraGroups_blameless {counts : List Nat}
    (hmodels : ∀ name ∈ s.template.models, ∃ m, s.codex.model name = .ok m ∧
      s.codex.arsenal.Equips m.wargear)
    (h : s.extraGroups counts = .error e) : e.blamesCodex = false := by
  unfold extraGroups at h
  obtain ⟨⟨kind, count⟩, hmem, hgroup⟩ := exists_of_mapM_eq_error (eq_error_of_map_eq_error h)
  obtain ⟨m, hmodel, hequips⟩ := hmodels kind (List.of_mem_zip hmem).1
  exact extraGroup_blameless hmodel hequips hgroup

/-- A resize by type blames the codex only where a further type is missing or cannot be equipped. -/
theorem resizeModels_blameless {counts : List Nat}
    (hmodels : ∀ name ∈ s.template.models, ∃ m, s.codex.model name = .ok m ∧
      s.codex.arsenal.Equips m.wargear)
    (h : s.perform (resizeModels counts) = (s', .error e)) : e.blamesCodex = false := by
  rw [perform_resizeModels] at h
  dsimp only at h
  split at h
  · cases h
    rfl
  · split at h
    · cases h
      rfl
    · split at h
      · next hregister =>
        cases h
        obtain ⟨-, rfl⟩ := register_eq_error_iff.mp hregister
        rfl
      · split at h
        · next hrange =>
          cases h
          exact checkRange_blameless hrange
        · split at h
          · next hgroups =>
            cases h
            exact extraGroups_blameless hmodels hgroups
          · split at h
            · cases h
              rfl
            · cases h

/-- A reset never blames a codex whose arsenal equips the unit. -/
theorem reset_blameless (hequips : s.codex.arsenal.Equips s.template.wargear)
    (h : s.perform reset = (s', .error e)) : e.blamesCodex = false := by
  obtain ⟨gear, hgear⟩ := (exists_readLoadout_iff s.template.name).mpr hequips
  rw [perform_reset, ofTemplate, hgear] at h
  cases h

/-- A change of a sheet never blames a codex whose arsenal offers the options. -/
theorem editSheet_blameless {index : Nat} {edit : Sheet → Except PickError Sheet}
    (hoffers : s.codex.arsenal.Offers s.template.options)
    (h : s.perform (editSheet index edit) = (s', .error e)) : e.blamesCodex = false := by
  obtain ⟨s'', sheets, hsheets⟩ := exists_readSheets hoffers
  rw [perform_editSheet, perform_sheetAt, hsheets] at h
  dsimp only at h
  cases hat : sheets[index]? with
  | none =>
    rw [hat] at h
    cases h
    rfl
  | some sheet =>
    rw [hat] at h
    dsimp only at h
    split at h
    · cases h
    · cases h
      rfl

/-- Where all is in order that a squad may come to read, no call fails for it. -/
theorem Standing.blameless (h : Standing x u s) (hsound : u.Sound x)
    (hmodels : ∀ m ∈ x.modelListing, x.arsenal.Equips m.wargear) {c : Call}
    (hfail : s.perform c.action = (s', .error e)) : e.blamesCodex = false := by
  have hequips : s.codex.arsenal.Equips s.template.wargear := by
    rw [h.codex, h.template]
    exact hsound.equipped
  have hoffers : s.codex.arsenal.Offers s.template.options := by
    rw [h.codex, h.template]
    exact hsound.offered
  have hstaff : ∀ name ∈ s.template.models, ∃ m, s.codex.model name = .ok m ∧
      s.codex.arsenal.Equips m.wargear := by
    rw [h.codex, h.template]
    exact hsound.exists_model hmodels
  cases c with
  | list =>
    obtain ⟨s'', sheets, hsheets⟩ := exists_readSheets hoffers
    change s.perform ensureSheets = _ at hfail
    rw [perform_ensureSheets, hsheets] at hfail
    cases hfail
  | mark index c => exact editSheet_blameless hoffers hfail
  | clearPicks => cases hfail
  | equip sheet => exact equip_blameless hfail
  | equipEach sheets => exact equipEach_blameless hfail
  | equipPicked => exact equipPicked_blameless hfail
  | resize size => exact resize_blameless hfail
  | resizeModels counts => exact resizeModels_blameless hstaff hfail
  | rename name => cases hfail
  | reset => exact reset_blameless hequips hfail

end Squad

/-! ## The law -/

/-- An audit finds no error in a codex if and only if every unit can be fielded and the gear of
every model can be read; and then no squad, whatever has been done with it, is refused anything on
account of the codex. -/
theorem Codex.Built.audit_exact {x : Codex} (h : x.Built) :
    (x.audit.hasErrors = false ↔
      (∀ row ∈ x.unitListing, x.Fieldable row.1 row.2) ∧
        ∀ m ∈ x.modelListing, x.arsenal.Equips m.wargear) ∧
      (x.audit.hasErrors = false → ∀ s, Squad.Reachable x s → ∀ (c : Squad.Call) s' e,
        s.perform c.action = (s', .error e) → e.blamesCodex = false) := by
  have hunits : (∀ row ∈ x.unitListing, x.Fieldable row.1 row.2) ↔
      ∀ row ∈ x.unitListing, row.2.Sound x :=
    forall₂_congr fun row hrow => fieldable_iff (h.unit_eq hrow)
  refine ⟨by rw [hunits, audit_hasErrors_eq_false_iff], fun hclean s hs c s' e hfail => ?_⟩
  obtain ⟨hsound, hmodels⟩ := audit_hasErrors_eq_false_iff.mp hclean
  obtain ⟨role, unit, u, hunit, hstanding⟩ := hs.standing
  obtain ⟨role', hlisted⟩ := mem_unitListing_of_unit hunit
  exact hstanding.blameless (hsound _ hlisted) hmodels hfail

/-- Guards pass the audit, so they can be fielded; nine of them are too many, and the codex is not
blamed for it. -/
theorem Codex.Built.audit_exact_guards :
    let x := Guards.codex ["Axe"]
    let s := Guards.squad ["Axe"] [Guards.axe] 1 13
    x.Built ∧ x.audit.hasErrors = false ∧ x.Fieldable .troops (Guards.template ["Axe"]) ∧
      Squad.Reachable x s ∧
      ∃ s' e, s.perform (Squad.Call.resize 9).action = (s', .error e) ∧ e.blamesCodex = false := by
  intro x s
  have hbuilt : x.Built := .addUnit .troops _ (.ofArsenal _ _)
  have hclean : x.audit.hasErrors = false := by with_unfolding_all rfl
  obtain ⟨hexact, hblameless⟩ := hbuilt.audit_exact
  have hreach : Squad.Reachable x s :=
    ⟨.troops, "Guards", s, [], by with_unfolding_all rfl, rfl⟩
  have hfail : s.perform (Squad.Call.resize 9).action =
      (s, .error (.invalidSize "Guards" 9 1 8)) := rfl
  have hfieldable := (hexact.mp hclean).1 (.troops, Guards.template ["Axe"]) (by decide)
  exact ⟨hbuilt, hclean, hfieldable, hreach, s, _, hfail, hblameless hclean s hreach _ _ _ hfail⟩

end Muster
