import Mathlib.Data.List.Dedup
import Mathlib.Data.List.Induction
import Muster.Codex.Document
import Muster.Proofs.Totals

/-!
# Filing units

A document lists units under headings; a codex files them by role and name. The headings are read
forgivingly, so several of them may name one role, and a unit that is filed where another one was
takes its place. The rows of all sections in a row are shown to make the table of the codex, so of
the units that are listed for one post it holds the last. It holds all of them if and only if no
post is listed twice.
-/

namespace Muster

/-! ## Tables that are made of rows -/

namespace Table

variable {κ ν : Type} [DecidableEq κ] [Ord κ]

/-- A table of one row more is the table with that row put in. -/
theorem ofList_append_singleton (rows : List (κ × ν)) (row : κ × ν) :
    ofList (rows ++ [row]) = (ofList rows).insert row.1 row.2 :=
  List.foldl_append

/-- A table of rows has one row for each key. -/
theorem single_ofList (rows : List (κ × ν)) : (ofList rows).Single := by
  induction rows using List.reverseRecOn with
  | nil => exact single_empty
  | append_singleton rows row ih =>
    rw [ofList_append_singleton]
    exact ih.insert row.1 row.2

/-- Look-up searches the rows, the last one first. -/
theorem get?_ofList (rows : List (κ × ν)) (k : κ) :
    (ofList rows).get? k = (rows.reverse.find? fun row => row.1 = k).map Prod.snd := by
  induction rows using List.reverseRecOn with
  | nil => rfl
  | append_singleton rows row ih =>
    rw [ofList_append_singleton, get?_insert, List.reverse_append, List.reverse_singleton,
      List.singleton_append, ih]
    by_cases hrow : row.1 = k
    · rw [if_pos hrow, List.find?_cons_of_pos (by simpa using hrow), Option.map_some]
    · rw [if_neg hrow, List.find?_cons_of_neg (by simpa using hrow)]

/-- A table of rows has a row for the key of each of them. -/
theorem exists_get?_ofList {rows : List (κ × ν)} {row : κ × ν} (hrow : row ∈ rows) :
    ∃ v, (row.1, v) ∈ rows ∧ (ofList rows).get? row.1 = some v := by
  rw [get?_ofList]
  cases hfound : rows.reverse.find? fun other => other.1 = row.1 with
  | none =>
    have hother := List.find?_eq_none.mp hfound row (List.mem_reverse.mpr hrow)
    simp at hother
  | some last =>
    have hkey : last.1 = row.1 := by simpa using List.find?_some hfound
    rw [← hkey]
    exact ⟨last.2, List.mem_reverse.mp (List.mem_of_find?_eq_some hfound), rfl⟩

/-- The keys of a table of rows are the keys of the rows. -/
theorem mem_keys_ofList {rows : List (κ × ν)} {k : κ} :
    k ∈ (ofList rows).keys ↔ k ∈ rows.map Prod.fst := by
  constructor
  · intro hk
    obtain ⟨row, hrow, rfl⟩ := List.mem_map.mp hk
    have hget := (single_ofList rows).direct row hrow
    rw [get?_ofList] at hget
    obtain ⟨listed, hfound, -⟩ := Option.map_eq_some_iff.mp hget
    have hkey : listed.1 = row.1 := by simpa using List.find?_some hfound
    rw [← hkey]
    exact List.mem_map_of_mem (List.mem_reverse.mp (List.mem_of_find?_eq_some hfound))
  · intro hk
    obtain ⟨row, hrow, rfl⟩ := List.mem_map.mp hk
    obtain ⟨v, -, hget⟩ := exists_get?_ofList hrow
    exact List.mem_map.mpr ⟨(row.1, v), mem_of_get? hget, rfl⟩

/-- There are as many rows as there are different keys among those that were put in. -/
theorem size_ofList (rows : List (κ × ν)) :
    (ofList rows).size = (rows.map Prod.fst).dedup.length := by
  have hkeys : (ofList rows).keys.Perm (rows.map Prod.fst).dedup :=
    (List.perm_ext_iff_of_nodup (single_ofList rows) (List.nodup_dedup _)).mpr fun k => by
      rw [mem_keys_ofList, List.mem_dedup]
  calc
    (ofList rows).size = (ofList rows).keys.length := (List.length_map _).symm
    _ = (rows.map Prod.fst).dedup.length := hkeys.length_eq

/-- A table of rows has as many as they are exactly where no key comes twice. -/
theorem size_ofList_eq_length_iff (rows : List (κ × ν)) :
    (ofList rows).size = rows.length ↔ (rows.map Prod.fst).Nodup := by
  rw [size_ofList, ← List.dedup_eq_self]
  constructor
  · intro hlength
    exact (List.dedup_sublist _).eq_of_length (hlength.trans (List.length_map _).symm)
  · intro hself
    rw [hself, List.length_map]

/-- Every row is found again if and only if rows of one key agree. -/
theorem get?_ofList_eq_iff (rows : List (κ × ν)) :
    (∀ row ∈ rows, (ofList rows).get? row.1 = some row.2) ↔
      ∀ a ∈ rows, ∀ b ∈ rows, a.1 = b.1 → a.2 = b.2 := by
  constructor
  · intro hfound a ha b hb hkey
    have hget := hfound b hb
    rw [← hkey, hfound a ha] at hget
    exact Option.some.inj hget
  · intro hagree row hrow
    obtain ⟨v, hlast, hget⟩ := exists_get?_ofList hrow
    have hv : v = row.2 := hagree _ hlast row hrow rfl
    rw [hget, hv]

end Table

/-! ## Sections -/

namespace Document

variable {d : Document} {x x' : Codex} {heading : String} {units : Table String UnitTemplate}

/-- The rows that a section files: nothing under a heading that names no role. -/
def inSection (heading : String) (units : Table String UnitTemplate) :
    List (Post × UnitTemplate) :=
  match Role.ofText? heading with
  | none => []
  | some role => units.rows.map fun (name, t) => (⟨role, name⟩, { t with name := name })

/-- The rows that all sections file, in order. -/
def listed (d : Document) : List (Post × UnitTemplate) :=
  d.units.rows.flatMap fun (heading, units) => inSection heading units

/-- How many units there are under all headings. -/
def listedCount (d : Document) : Nat := Amount.sum (d.units.rows.map fun s => s.2.size)

/-- The unit that is the last one listed for a post. -/
def lastListed? (d : Document) (post : Post) : Option UnitTemplate :=
  (d.listed.reverse.find? fun row => row.1 = post).map Prod.snd

/-- Adding units in turn puts their rows behind those that are filed. -/
theorem units_foldl_addUnit {done : List (Post × UnitTemplate)} (hx : x.units = .ofList done)
    (role : Role) (rows : List (String × UnitTemplate)) :
    (rows.foldl (fun x (name, t) => x.addUnit role { t with name := name }) x).units =
      .ofList (done ++ rows.map fun (name, t) => (⟨role, name⟩, { t with name := name })) := by
  induction rows generalizing x done with
  | nil => rw [List.map_nil, List.append_nil, List.foldl_nil, hx]
  | cons row rest ih =>
    have hnext : (x.addUnit role { row.2 with name := row.1 }).units =
        .ofList (done ++ [(⟨role, row.1⟩, { row.2 with name := row.1 })]) := by
      rw [Table.ofList_append_singleton, Codex.addUnit, hx]
    rw [List.foldl_cons, ih hnext, List.map_cons, List.append_assoc, List.singleton_append]

/-- A section whose heading names a role adds its rows. -/
theorem units_addSection {done : List (Post × UnitTemplate)} (hx : x.units = .ofList done)
    (h : addSection x heading units = .ok x') :
    (∃ role, Role.ofText? heading = some role) ∧
      x'.units = .ofList (done ++ inSection heading units) := by
  unfold addSection at h
  unfold inSection
  split at h
  · cases h
  · next role hrole =>
    cases h
    rw [hrole]
    exact ⟨⟨role, rfl⟩, units_foldl_addUnit hx role units.rows⟩

/-- Adding sections in turn files their rows in order, and all their headings name roles. -/
theorem units_foldlM_addSection {sections : List (String × Table String UnitTemplate)}
    {done : List (Post × UnitTemplate)} (hx : x.units = .ofList done)
    (h : sections.foldlM (fun x (heading, units) => addSection x heading units) x = .ok x') :
    (∀ s ∈ sections, ∃ role, Role.ofText? s.1 = some role) ∧
      x'.units = .ofList (done ++ sections.flatMap fun (heading, units) =>
        inSection heading units) := by
  induction sections generalizing x done with
  | nil =>
    cases h
    rw [List.flatMap_nil, List.append_nil]
    exact ⟨fun s hs => absurd hs List.not_mem_nil, hx⟩
  | cons s rest ih =>
    obtain ⟨heading, units⟩ := s
    rw [List.foldlM_cons] at h
    dsimp only at h
    cases hs : addSection x heading units with
    | error e =>
      rw [hs] at h
      cases h
    | ok next =>
      rw [hs] at h
      obtain ⟨hrole, hnext⟩ := units_addSection hx hs
      obtain ⟨hroles, hunits⟩ := ih hnext h
      rw [List.flatMap_cons, ← List.append_assoc]
      exact ⟨List.forall_mem_cons.mpr ⟨hrole, hroles⟩, hunits⟩

/-- Models are entered in a table of their own. -/
theorem units_foldl_addModel (rows : List (String × ModelTemplate)) (x : Codex) :
    (rows.foldl (fun x (name, t) => x.addModel { t with name := name }) x).units = x.units := by
  induction rows generalizing x with
  | nil => rfl
  | cons row rest ih => exact ih _

/-- The units of a codex are the rows of all sections, put into a table one after the other. -/
theorem units_toCodex (h : d.toCodex = .ok x) :
    (∀ s ∈ d.units.rows, ∃ role, Role.ofText? s.1 = some role) ∧ x.units = .ofList d.listed := by
  unfold toCodex at h
  split at h
  · cases h
  · next arsenal _ =>
    split at h
    · cases h
    · next filed hfiled =>
      cases h
      have hnone : (Codex.ofArsenal d.faction arsenal).units = .ofList [] := rfl
      obtain ⟨hroles, hunits⟩ := units_foldlM_addSection hnone hfiled
      refine ⟨hroles, ?_⟩
      rw [units_foldl_addModel, hunits, List.nil_append, listed]

/-- Where every heading names a role, all units are listed. -/
theorem length_listed (h : ∀ s ∈ d.units.rows, ∃ role, Role.ofText? s.1 = some role) :
    d.listed.length = d.listedCount := by
  unfold listed listedCount
  generalize d.units.rows = sections at h ⊢
  induction sections with
  | nil => rfl
  | cons s rest ih =>
    obtain ⟨⟨role, hrole⟩, hrest⟩ := List.forall_mem_cons.mp h
    have hsection : (inSection s.1 s.2).length = s.2.size := by
      simp only [inSection, hrole, List.length_map, Table.size]
    rw [List.flatMap_cons, List.length_append, hsection, ih hrest, List.map_cons, Amount.sum]

/-- The rows of all sections, section by section. -/
theorem forall_mem_listed_iff (h : ∀ s ∈ d.units.rows, ∃ role, Role.ofText? s.1 = some role)
    {P : Post × UnitTemplate → Prop} :
    (∀ row ∈ d.listed, P row) ↔
      ∀ s ∈ d.units.rows, ∀ role, Role.ofText? s.1 = some role →
        ∀ row ∈ s.2.rows, P (⟨role, row.1⟩, { row.2 with name := row.1 }) := by
  rw [listed, List.forall_mem_flatMap]
  refine forall₂_congr fun s hs => ?_
  obtain ⟨role, hrole⟩ := h s hs
  simp only [inSection, hrole, List.forall_mem_map, Option.some.injEq, forall_eq']

/-! ## The law -/

/-- A post that is listed is not looked for among the named characters. -/
theorem unit_eq_lastListed? (hunits : x.units = .ofList d.listed) {row : Post × UnitTemplate}
    (hrow : row ∈ d.listed) :
    ∃ t, d.lastListed? row.1 = some t ∧ x.units.get? row.1 = some t ∧
      x.unit row.1.role row.1.name = .ok t := by
  obtain ⟨t, -, hget⟩ := Table.exists_get?_ofList hrow
  rw [← hunits] at hget
  refine ⟨t, ?_, hget, ?_⟩
  · rw [lastListed?, ← Table.get?_ofList, ← hunits, hget]
  · rw [Codex.unit, hget]

/-- A codex that is made of a document finds, for every unit of every section, the last one that is
listed for the same role and name. It has as many units as there are different roles with names;
these are all that are listed if and only if none is listed twice. Every unit that is listed is
found itself if and only if those of one role and name are the same. -/
theorem toCodex_keeps_last (h : d.toCodex = .ok x) :
    (∀ s ∈ d.units.rows, ∃ role, Role.ofText? s.1 = some role ∧
        ∀ row ∈ s.2.rows, ∃ t, d.lastListed? ⟨role, row.1⟩ = some t ∧
          x.unit role row.1 = .ok t) ∧
      x.unitCount = (d.listed.map Prod.fst).dedup.length ∧
      (x.unitCount = d.listedCount ↔ (d.listed.map Prod.fst).Nodup) ∧
      ((∀ s ∈ d.units.rows, ∀ role, Role.ofText? s.1 = some role →
          ∀ row ∈ s.2.rows, x.unit role row.1 = .ok { row.2 with name := row.1 }) ↔
        ∀ a ∈ d.listed, ∀ b ∈ d.listed, a.1 = b.1 → a.2 = b.2) := by
  obtain ⟨hroles, hunits⟩ := units_toCodex h
  have hlast : ∀ row ∈ d.listed, ∃ t, d.lastListed? row.1 = some t ∧
      x.unit row.1.role row.1.name = .ok t := fun row hrow => by
    obtain ⟨t, hlast, -, hunit⟩ := unit_eq_lastListed? hunits hrow
    exact ⟨t, hlast, hunit⟩
  refine ⟨fun s hs => ?_, ?_, ?_, ?_⟩
  · obtain ⟨role, hrole⟩ := hroles s hs
    exact ⟨role, hrole, (forall_mem_listed_iff hroles).mp hlast s hs role hrole⟩
  · rw [Codex.unitCount, hunits, Table.size_ofList]
  · rw [Codex.unitCount, hunits, ← length_listed hroles, Table.size_ofList_eq_length_iff]
  · rw [← Table.get?_ofList_eq_iff, ← hunits]
    refine (forall_mem_listed_iff hroles
      (P := fun row => x.unit row.1.role row.1.name = .ok row.2)).symm.trans ?_
    refine forall₂_congr fun row hrow => ?_
    obtain ⟨t, -, hget, hunit⟩ := unit_eq_lastListed? hunits hrow
    simp only [hget, hunit, Except.ok.injEq, Option.some.injEq]

/-- Guards under two headings that name one role, and Scouts under one. -/
theorem toCodex_keeps_last_guards :
    let guards (points : Nat) : UnitTemplate :=
      ⟨"", points, 1, 8, [], [], [], Amount.one_le_cap, by decide⟩
    let d : Document :=
      ⟨"Watch", .empty, ⟨[("Troops", ⟨[("Guards", guards 10), ("Scouts", guards 7)]⟩),
        ("troops", ⟨[("Guards", guards 12)]⟩)]⟩, .empty⟩
    ∃ x, d.toCodex = .ok x ∧ x.unitCount = 2 ∧ d.listedCount = 3 ∧
      x.unit .troops "Guards" = .ok { guards 12 with name := "Guards" } ∧
      x.unit .troops "Scouts" = .ok { guards 7 with name := "Scouts" } := by
  intro guards d
  obtain ⟨x, hx⟩ : ∃ x, d.toCodex = .ok x := ⟨_, rfl⟩
  obtain ⟨hsections, hcount, -⟩ := toCodex_keeps_last hx
  obtain ⟨role, hrole, hrows⟩ := hsections (d.units.rows[0]) (by decide)
  have htroops : Role.ofText? "Troops" = some .troops := by decide
  obtain rfl := Option.some.inj (htroops.symm.trans hrole)
  obtain ⟨t, ht, hguards⟩ := hrows ("Guards", guards 10) (by decide)
  obtain ⟨u, hu, hscouts⟩ := hrows ("Scouts", guards 7) (by decide)
  have hlast : some { guards 12 with name := "Guards" } = some t := ht
  have honly : some { guards 7 with name := "Scouts" } = some u := hu
  refine ⟨x, hx, hcount.trans (by decide), by decide, ?_, ?_⟩
  · rw [hguards, Option.some.inj hlast]
  · rw [hscouts, Option.some.inj honly]

/-- Guards under two headings that name one role: one of the two is lost. -/
theorem toCodex_loses_guards :
    let guards (points : Nat) : UnitTemplate :=
      ⟨"", points, 1, 8, [], [], [], Amount.one_le_cap, by decide⟩
    let d : Document :=
      ⟨"Watch", .empty, ⟨[("Troops", ⟨[("Guards", guards 10)]⟩),
        ("troops", ⟨[("Guards", guards 12)]⟩)]⟩, .empty⟩
    Role.ofText? "Troops" = some .troops ∧
      ∃ x, d.toCodex = .ok x ∧ x.unitCount ≠ d.listedCount ∧
        x.unit .troops "Guards" ≠ .ok { guards 10 with name := "Guards" } := by
  intro guards d
  refine ⟨by decide, _, rfl, by decide, ?_⟩
  intro hfound
  have hpoints := congrArg (fun t => t.toOption.map UnitTemplate.basePoints) hfound
  revert hpoints
  decide

end Document

end Muster
