import Muster.Proofs.Entitlement
import Muster.Proofs.Sizes
import Muster.Squad.Report

/-!
# Limits

A squad is sized against the limit of a type of model in each place where the template lists the
type, and judged by the number of its models in all groups. The two agree as long as a type is
listed once and is not the unit's own. It is shown that a squad of a codex that passes the audit has
no problem, whatever is done with it, if and only if that is so for every type whose limit is less
than the unit can hold. Where it is not, the places are filled one after the other until there are
too many models.
-/

namespace Muster

/-- Every type of model whose limit is less than the unit can hold is listed once, and is not the
unit's own. -/
def UnitTemplate.Rationed (x : Codex) (u : UnitTemplate) : Prop :=
  ∀ kind ∈ u.models, ∀ m limit, x.model kind = .ok m → m.limit = some limit → 0 < limit →
    limit < u.maxSize → kind ≠ u.name ∧ u.models.count kind = 1

namespace Squad

variable {x : Codex} {u : UnitTemplate} {s s' : Squad} {g : Group} {t : Sheet} {kind : String}
  {m : ModelTemplate} {limit : Nat}

/-! ## What makes a squad illegal -/

/-- A squad has no problem of size exactly where its size is in the range of the template. -/
theorem sizeProblem?_eq_none_iff :
    s.sizeProblem? = none ↔ s.template.minSize ≤ s.size ∧ s.size ≤ s.template.maxSize := by
  unfold sizeProblem?
  split
  · next hout =>
    refine iff_of_false (fun h => by cases h) ?_
    omega
  · next hin =>
    refine iff_of_true rfl ?_
    omega

/-- A group has no problem with its limit exactly where no more models of its type are there. -/
theorem limitProblem?_eq_none_iff :
    s.limitProblem? g = none ↔ ∀ limit, g.limit = some limit → s.countOf g.kind ≤ limit := by
  unfold limitProblem?
  cases g.limit with
  | none => simp
  | some limit => simp

/-- A list that is built up is empty if it starts so and nothing is put in. -/
theorem foldl_eq_nil_iff {f : List β → α → List β} {P : α → Prop}
    (hf : ∀ found a, f found a = [] ↔ found = [] ∧ P a) (l : List α) (found : List β) :
    l.foldl f found = [] ↔ found = [] ∧ ∀ a ∈ l, P a := by
  induction l generalizing found with
  | nil => simp
  | cons a rest ih => rw [List.foldl_cons, ih, hf, List.forall_mem_cons, and_assoc]

/-- A squad has no problem if and only if its size is right and so is every group. -/
theorem problems_eq_nil_iff :
    s.problems = [] ↔ s.sizeProblem? = none ∧ ∀ g ∈ s.groups, s.limitProblem? g = none := by
  unfold problems
  rw [foldl_eq_nil_iff (P := fun g => s.limitProblem? g = none), Option.toList_eq_nil_iff]
  intro found g
  cases s.limitProblem? g with
  | none => simp
  | some problem =>
    cases found with
    | nil => simp
    | cons first others => by_cases h : problem ∈ first :: others <;> simp [h]

/-! ## Numbers of models by type -/

/-- The models of a type are those of the groups of the type. -/
theorem countOf_eq_headcount (s : Squad) (kind : String) :
    s.countOf kind = headcount (s.groups.filter fun g => g.kind = kind) := rfl

/-- There are no more models of a type than models. -/
theorem countOf_le_size (s : Squad) (kind : String) : s.countOf kind ≤ s.size :=
  headcount_le_of_sublist List.filter_sublist

/-- Numbers of models in as many places as their type is listed in, none above the limit. -/
theorem sum_filter_zip_le {names : List String} {counts : List Nat}
    (h : ∀ row ∈ names.zip counts, row.1 = kind → row.2 ≤ limit) :
    Amount.sum (((names.zip counts).filter fun row => row.1 = kind).map Prod.snd) ≤
      limit * names.count kind := by
  induction names generalizing counts with
  | nil => exact Nat.zero_le _
  | cons name names ih =>
    cases counts with
    | nil => exact Nat.zero_le _
    | cons count counts =>
      rw [List.zip_cons_cons, List.forall_mem_cons] at h
      have hrest := ih h.2
      rw [List.zip_cons_cons, List.filter_cons, List.count_cons]
      by_cases hname : name = kind
      · have hfirst := h.1 hname
        simp only [hname, decide_true, if_true, List.map_cons, Amount.sum, beq_self_eq_true,
          Nat.mul_succ]
        omega
      · simpa [hname] using hrest

/-- Moving models of one type keeps the number of models of another. -/
theorem headcount_filter_regroup (hkind : g.kind ≠ kind) (leadCount count : Nat) :
    headcount ((s.regroup (s.existing? g) g leadCount count).others.filter fun h => h.kind = kind) =
      headcount (s.others.filter fun h => h.kind = kind) := by
  obtain ⟨k, -, hlook, hperm⟩ := others_regroup_perm s g leadCount count
  have hnot (k' : Group) (hlook' : k'.look s.gear = g.look s.gear) : ¬ k'.kind = kind := by
    have hsame : k'.kind = g.kind := congrArg Prod.fst hlook'
    rwa [hsame]
  have hbesides : headcount ((s.besides (s.existing? g)).filter fun h => h.kind = kind) =
      headcount (s.others.filter fun h => h.kind = kind) := by
    cases hplace : s.existing? g with
    | none => rfl
    | some i =>
      obtain ⟨k', -, hlook', -, hperm'⟩ := others_perm hplace
      rw [headcount_eq_of_perm (hperm'.filter _), List.filter_cons_of_neg]
      simpa using hnot k' hlook'
  rw [headcount_eq_of_perm (hperm.filter _), List.filter_comm, headcount_filter,
    List.filter_cons_of_neg, hbesides]
  simpa using hnot k hlook

/-- A group of models that have moved was there, or it is the one that they move to. -/
theorem exists_of_mem_regroup {leadCount count : Nat} {k : Group}
    (hk : k ∈ (s.regroup (s.existing? g) g leadCount count).others) :
    ∃ k' n, (k' ∈ s.others ∨ k' = g) ∧ k = { k' with count := n } := by
  obtain ⟨k', hk', -, hperm⟩ := others_regroup_perm s g leadCount count
  rcases List.mem_cons.mp (List.mem_of_mem_filter (hperm.mem_iff.mp hk)) with rfl | hbesides
  · exact ⟨k', count, hk', rfl⟩
  · exact ⟨k, k.count, .inl (mem_others_of_mem_besides hbesides), rfl⟩

/-! ## Where limited models come from -/

/-- Groups with a limit are of types that the template lists, and of each type but the unit's own
there are no more models than its places hold. -/
structure Supplied (x : Codex) (u : UnitTemplate) (s : Squad) : Prop where
  limited : ∀ g ∈ s.others, ∀ limit, g.limit = some limit →
    0 < limit ∧ g.kind ∈ u.models ∧ ∃ m, x.model g.kind = .ok m ∧ m.limit = some limit
  capped : ∀ kind ≠ u.name, ∀ m limit, x.model kind = .ok m → m.limit = some limit →
    headcount (s.others.filter fun g => g.kind = kind) ≤ limit * u.models.count kind

/-- A squad of one group is supplied. -/
theorem supplied_of_others_eq_nil (h : s.others = []) : Supplied x u s where
  limited := by simp [h]
  capped := by simp [h, headcount, Amount.sum]

/-- Whether a squad is supplied depends on the groups besides the lead. -/
theorem Supplied.of_others_eq (h : Supplied x u s) (hothers : s'.others = s.others) :
    Supplied x u s' := by
  refine ⟨?_, ?_⟩
  · rw [hothers]
    exact h.limited
  · rw [hothers]
    exact h.capped

/-- Bringing the points up to date leaves a squad supplied. -/
theorem Supplied.refresh (h : Supplied x u s) : Supplied x u s.refresh := ⟨h.limited, h.capped⟩

/-- Writing back a group of the own type leaves a squad supplied. -/
theorem Supplied.regroup (h : Supplied x u s) (hkind : g.kind = u.name) (hlimit : g.limit = none)
    (leadCount count : Nat) : Supplied x u (s.regroup (s.existing? g) g leadCount count) where
  limited := by
    intro k hk limit hk'
    obtain ⟨k', n, hold | rfl, rfl⟩ := exists_of_mem_regroup hk
    · exact h.limited k' hold limit hk'
    · rw [hlimit] at hk'
      cases hk'
  capped := by
    intro kind hne m limit hm hm'
    have hother : g.kind ≠ kind := by
      rw [hkind]
      exact hne.symm
    rw [headcount_filter_regroup hother]
    exact h.capped kind hne m limit hm hm'

/-- An application leaves a squad supplied. -/
theorem Supplied.equipped (h : Supplied x u s) (hstanding : Standing x u s)
    (hequipped : Equipped s t s') : Supplied x u s' := by
  cases hequipped with
  | unpicked => exact h
  | whole =>
    rw [hstanding.leadPlain.equipAll_eq]
    exact h.of_others_eq rfl
  | apart _ _ hcarve =>
    cases carved_of_ok hcarve with
    | kept => exact h.of_others_eq rfl
    | @regrouped existing current target moved returned _ hexisting =>
      subst hexisting
      have hvariant : (s.variant t).kind = u.name ∧ (s.variant t).limit = none := by
        rw [hstanding.leadPlain.variant_eq, hstanding.lead]
        exact ⟨rfl, rfl⟩
      exact (h.regroup hvariant.1 hvariant.2 _ _).refresh

/-- A group of a further type of model has the limit of its type. -/
theorem exists_model_of_mem_extraGroups {counts : List Nat} {groups : List Group}
    (h : s.extraGroups counts = .ok groups) (hg : g ∈ groups) :
    g.kind ∈ s.template.models ∧ 0 < g.count ∧ ∃ m, s.codex.model g.kind = .ok m ∧
      g.limit = m.limit ∧ ∀ limit, m.limit = some limit → g.count ≤ limit := by
  obtain ⟨kind, count, hmem, hgroup⟩ := exists_of_mem_extraGroups h hg
  obtain ⟨m, hmodel, hwithin, ⟨-, hnone⟩ | ⟨hsome, gear, hfound⟩⟩ := extraGroup_cases hgroup
  · cases hnone
  · cases hfound
    exact ⟨(List.of_mem_zip hmem).1, hsome, m, hmodel, rfl, hwithin⟩

/-- In every place there are no more models than the limit of their type. -/
theorem le_limit_of_extraGroups {counts : List Nat} {groups : List Group}
    (h : s.extraGroups counts = .ok groups) (hm : s.codex.model kind = .ok m)
    (hlimit : m.limit = some limit) :
    ∀ row ∈ s.template.models.zip counts, row.1 = kind → row.2 ≤ limit := by
  rintro row hrow rfl
  obtain ⟨found, hfound, -⟩ := exists_of_map_eq_ok h
  obtain ⟨made, hmade⟩ := exists_of_mapM_eq_ok hfound row hrow
  obtain ⟨m', hm', hwithin, -⟩ := extraGroup_cases hmade
  obtain rfl : m = m' := Except.ok.inj (hm.symm.trans hm')
  exact hwithin limit hlimit

/-- Groups of further types that are made from counts leave a squad supplied. -/
theorem supplied_extras (h : Supplied x u s) (hstanding : Standing x u s) {counts : List Nat}
    {groups : List Group} (hgroups : s.extraGroups counts = .ok groups)
    (hothers : s'.others = s.ownOthers ++ groups) : Supplied x u s' := by
  refine ⟨fun g hg limit hlimit => ?_, fun kind hkind m limit hm hlimit => ?_⟩
  · rw [hothers] at hg
    rcases List.mem_append.mp hg with hown | hextra
    · exact h.limited g (List.mem_of_mem_filter hown) limit hlimit
    · obtain ⟨hlisted, hsome, m, hm, hsame, hwithin⟩ :=
        exists_model_of_mem_extraGroups hgroups hextra
      rw [hstanding.template] at hlisted
      rw [hstanding.codex] at hm
      rw [hsame] at hlimit
      exact ⟨hsome.trans_le (hwithin limit hlimit), hlisted, m, hm, hlimit⟩
  · have hown : s.ownOthers.filter (fun g => g.kind = kind) = [] := by
      refine List.filter_eq_nil_iff.mpr fun g hg => ?_
      have hname : g.kind = u.name := by
        have hkept := List.of_mem_filter hg
        rw [hstanding.template] at hkept
        simpa using hkept
      simpa [hname] using hkind.symm
    rw [← hstanding.codex] at hm
    rw [hothers, List.filter_append, hown, List.nil_append,
      headcount_filter_extraGroups (fun name => name = kind) hgroups, ← hstanding.template]
    exact sum_filter_zip_le (le_limit_of_extraGroups hgroups hm hlimit)

/-- Every step keeps a squad supplied. -/
theorem Supplied.step (h : Supplied x u s) (hstanding : Standing x u s) (hstep : Step s s') :
    Supplied x u s' := by
  cases hstep with
  | read => exact h.of_others_eq rfl
  | mark => exact h.of_others_eq rfl
  | clearPicks => exact h.of_others_eq rfl
  | rename => exact h.of_others_eq rfl
  | resize => exact h.of_others_eq rfl
  | equipped _ hequipped => exact h.equipped hstanding hequipped
  | resizeModels _ _ hgroups => exact supplied_extras h hstanding hgroups rfl
  | reset hreset =>
    obtain ⟨gear, -, rfl⟩ := exists_of_ofTemplate hreset
    exact supplied_of_others_eq_nil rfl

/-- A squad stays supplied whatever is called. -/
theorem Supplied.run (h : Supplied x u s) (hstanding : Standing x u s) (calls : List Call) :
    Supplied x u (s.run calls) :=
  hstanding.keep (fun _ _ hs hsupplied hstep => hsupplied.step hs hstep) h calls

/-- Where limited types are rationed, a squad that is supplied and of the right size is legal. -/
theorem problems_eq_nil_of_rationed (hrationed : u.Rationed x) (hstanding : Standing x u s)
    (hrange : InRange u s) (h : Supplied x u s) : s.problems = [] := by
  refine problems_eq_nil_iff.mpr ⟨?_, fun g hg => ?_⟩
  · rw [sizeProblem?_eq_none_iff, hstanding.template]
    exact hrange
  · rw [limitProblem?_eq_none_iff]
    intro limit hlimit
    rcases List.mem_cons.mp hg with rfl | hother
    · rw [hstanding.lead] at hlimit
      cases hlimit
    · obtain ⟨hpos, hlisted, m, hm, hmlimit⟩ := h.limited g hother limit hlimit
      by_cases htight : limit < u.maxSize
      · obtain ⟨hname, hone⟩ := hrationed g.kind hlisted m limit hm hmlimit hpos htight
        have hcapped := h.capped g.kind hname m limit hm hmlimit
        have hlead : ¬ s.lead.kind = g.kind := by
          rw [hstanding.lead]
          exact hname.symm
        rw [hone, Nat.mul_one] at hcapped
        rw [countOf_eq_headcount, groups, List.filter_cons_of_neg (by simpa using hlead)]
        exact hcapped
      · have hsize := countOf_le_size s g.kind
        have hmax := hrange.2
        omega

/-! ## Filling up a type of model -/

/-- Numbers for the types of model in order: those `left` are put where `kind` is listed, as many in
each place as the limit allows. -/
def ration (kind : String) (limit : Nat) : Nat → List String → List Nat
  | _, [] => []
  | left, name :: rest =>
    if name = kind then min left limit :: ration kind limit (left - limit) rest
    else 0 :: ration kind limit left rest

/-- A ration has a number for each place. -/
theorem length_ration (kind : String) (limit left : Nat) (names : List String) :
    (ration kind limit left names).length = names.length := by
  induction names generalizing left with
  | nil => rfl
  | cons name rest ih =>
    rw [ration]
    split <;> simp [ih]

/-- No place but those of the type has any models, and none more than the limit. -/
theorem le_of_mem_zip_ration {left : Nat} {names : List String} {row : String × Nat}
    (h : row ∈ names.zip (ration kind limit left names)) :
    row.2 ≤ if row.1 = kind then limit else 0 := by
  induction names generalizing left with
  | nil => cases h
  | cons name rest ih =>
    rw [ration] at h
    by_cases hname : name = kind
    · rw [if_pos hname, List.zip_cons_cons] at h
      rcases List.mem_cons.mp h with rfl | hrest
      · rw [if_pos hname]
        exact Nat.min_le_right _ _
      · exact ih hrest
    · rw [if_neg hname, List.zip_cons_cons] at h
      rcases List.mem_cons.mp h with rfl | hrest
      · exact Nat.zero_le _
      · exact ih hrest

/-- The models fit in as far as there are places. -/
theorem sum_filter_zip_ration (p : String → Bool) (hp : p kind = true) (left : Nat)
    (names : List String) :
    Amount.sum (((names.zip (ration kind limit left names)).filter fun row => p row.1).map
      Prod.snd) = min left (limit * names.count kind) := by
  induction names generalizing left with
  | nil => simp [ration, Amount.sum]
  | cons name rest ih =>
    rw [ration, List.count_cons]
    by_cases hname : name = kind
    · simp only [hname, if_true, List.zip_cons_cons, List.filter_cons, hp, List.map_cons,
        Amount.sum, ih, beq_self_eq_true, Nat.mul_succ]
      omega
    · have hrest := ih left
      by_cases hother : p name = true <;>
        simp [hname, hother, Amount.sum, hrest]

/-- A ration puts every model, where the places hold as many. -/
theorem sum_ration {left : Nat} {names : List String} (hroom : left ≤ limit * names.count kind) :
    Amount.sum (ration kind limit left names) = left := by
  have hall : Amount.sum (((names.zip (ration kind limit left names)).filter fun _ => true).map
      Prod.snd) = min left (limit * names.count kind) :=
    sum_filter_zip_ration (fun _ => true) rfl left names
  have hlength := length_ration kind limit left names
  rwa [List.filter_true, List.map_snd_zip hlength.le, Nat.min_eq_left hroom] at hall

/-- Groups are made of all types of model whose numbers are within their limits. -/
theorem exists_extraGroups {counts : List Nat}
    (hmodels : ∀ name ∈ s.template.models, ∃ m, s.codex.model name = .ok m ∧
      s.codex.arsenal.Equips m.wargear)
    (hwithin : ∀ row ∈ s.template.models.zip counts, ∀ m limit, s.codex.model row.1 = .ok m →
      m.limit = some limit → row.2 ≤ limit) :
    ∃ groups, s.extraGroups counts = .ok groups := by
  have hrows : ∀ row ∈ s.template.models.zip counts, ∃ found,
      s.extraGroup row.1 row.2 = .ok found := by
    rintro ⟨name, count⟩ hrow
    obtain ⟨m, hm, hequips⟩ := hmodels name (List.of_mem_zip hrow).1
    obtain ⟨gear, hgear⟩ := (exists_readLoadout_iff s.template.name).mpr hequips
    have hroom : ¬ m.limit.any (fun limit => count > limit) = true := by
      cases hlimit : m.limit with
      | none => simp
      | some limit => simpa using hwithin (name, count) hrow m limit hm hlimit
    dsimp only
    rw [extraGroup, hm]
    dsimp only
    rw [if_neg hroom, hgear]
    split
    · exact ⟨_, rfl⟩
    · exact ⟨_, rfl⟩
  obtain ⟨found, hfound⟩ := exists_mapM_eq_ok_iff.mpr hrows
  refine ⟨found.filterMap id, ?_⟩
  change Except.map _ (List.mapM _ _) = _
  rw [hfound]
  rfl

/-- Where the places of one type only have models, within its limit, groups are made. -/
theorem exists_extraGroups_ration (left : Nat) (hm : s.codex.model kind = .ok m)
    (hlimit : ∀ most, m.limit = some most → limit ≤ most)
    (hmodels : ∀ name ∈ s.template.models, ∃ m, s.codex.model name = .ok m ∧
      s.codex.arsenal.Equips m.wargear) :
    ∃ groups, s.extraGroups (ration kind limit left s.template.models) = .ok groups := by
  refine exists_extraGroups hmodels fun row hrow m' limit' hm' hlimit' => ?_
  have hle := le_of_mem_zip_ration hrow
  split at hle
  · next hkind =>
    rw [hkind, hm] at hm'
    obtain rfl := Except.ok.inj hm'
    exact hle.trans (hlimit limit' hlimit')
  · exact hle.trans (Nat.zero_le _)

/-- The groups of the type have all models that are put in its places. -/
theorem headcount_extraGroups_ration {left : Nat} {groups : List Group}
    (hgroups : s.extraGroups (ration kind limit left s.template.models) = .ok groups)
    (hroom : left ≤ limit * s.template.models.count kind) :
    headcount (groups.filter fun g => g.kind = kind) = left := by
  rw [headcount_filter_extraGroups (fun name => name = kind) hgroups,
    sum_filter_zip_ration (fun name => name = kind) (decide_eq_true rfl), Nat.min_eq_left hroom]

/-- A squad with a lead group only takes on all groups that are made. -/
theorem perform_resizeModels_of_others_eq_nil {own : Nat} {extra : List Nat} {groups : List Group}
    (hothers : s.others = []) (hlength : extra.length = s.template.models.length)
    (hrange : s.checkRange (own + Amount.sum extra) = .ok ())
    (hgroups : s.extraGroups extra = .ok groups) :
    s.perform (resizeModels (own :: extra)) =
      (refresh { s with lead := { s.lead with count := own }, others := groups }, .ok ()) := by
  have hkept : s.ownOthers = [] := by
    rw [ownOthers, hothers]
    rfl
  refine perform_resizeModels_eq_ok_iff.mpr
    ⟨own, extra, groups, rfl, hlength, hrange, hgroups, ?_, ?_⟩
  · rw [hkept]
    exact Nat.zero_le own
  · rw [hkept]
    rfl

/-- In a new squad the places of a type can be filled up, and this is what is counted then. -/
theorem exists_filled {own left : Nat} (hstanding : Standing x u s) (hothers : s.others = [])
    (hmodels : ∀ name ∈ u.models, ∃ m, x.model name = .ok m ∧ x.arsenal.Equips m.wargear)
    (hm : x.model kind = .ok m) (hlimit : m.limit = some limit) (hpos : 0 < left)
    (hroom : left ≤ limit * u.models.count kind) (hmin : u.minSize ≤ own + left)
    (hmax : own + left ≤ u.maxSize) :
    ∃ calls, ∃ g ∈ (s.run calls).groups, g.kind = kind ∧ g.limit = some limit ∧
      (s.run calls).countOf kind = (if u.name = kind then own else 0) + left := by
  obtain rfl := hstanding.codex
  obtain rfl := hstanding.template
  let extra := ration kind limit left s.template.models
  have hlength : extra.length = s.template.models.length := length_ration _ _ _ _
  have hrange : s.checkRange (own + Amount.sum extra) = .ok () := by
    rw [checkRange_eq_ok_iff, sum_ration hroom]
    exact ⟨hmin, hmax⟩
  have hwithin (most : Nat) (hmost : m.limit = some most) : limit ≤ most :=
    (Option.some.inj (hlimit.symm.trans hmost)).le
  obtain ⟨groups, hgroups⟩ := exists_extraGroups_ration left hm hwithin hmodels
  have hcount := headcount_extraGroups_ration hgroups hroom
  have hrun : s.run [.resizeModels (own :: extra)] =
      refresh { s with lead := { s.lead with count := own }, others := groups } :=
    congrArg Prod.fst (perform_resizeModels_of_others_eq_nil hothers hlength hrange hgroups)
  obtain ⟨g, hg⟩ : ∃ g, g ∈ groups.filter fun g => g.kind = kind := by
    refine List.exists_mem_of_ne_nil _ fun hnil => ?_
    rw [hnil] at hcount
    exact hpos.ne hcount
  obtain ⟨hmem, hkind⟩ := List.mem_filter.mp hg
  obtain rfl : g.kind = kind := of_decide_eq_true hkind
  obtain ⟨-, -, m', hm', hsame, -⟩ := exists_model_of_mem_extraGroups hgroups hmem
  obtain rfl : m = m' := Except.ok.inj (hm.symm.trans hm')
  refine ⟨[.resizeModels (own :: extra)], g, ?_, rfl, hsame.trans hlimit, ?_⟩
  · rw [hrun]
    exact List.mem_cons_of_mem _ hmem
  · have hlead : s.lead.kind = s.template.name := by
      rw [hstanding.lead]
      rfl
    rw [hrun, countOf_eq_headcount]
    change headcount (({ s.lead with count := own } :: groups).filter fun h => h.kind = g.kind) = _
    rw [List.filter_cons]
    simp only [hlead, decide_eq_true_eq]
    split
    · rw [headcount_cons, hcount]
    · rw [hcount, Nat.zero_add]

/-! ## The law -/

/-- Where no history leads to a problem, models of a limited type are within its limit if they fit
in its places and in the squad. -/
theorem le_limit_of_legal (own left : Nat) (hstanding : Standing x u s) (hothers : s.others = [])
    (hmodels : ∀ name ∈ u.models, ∃ m, x.model name = .ok m ∧ x.arsenal.Equips m.wargear)
    (hlegal : ∀ calls, (s.run calls).problems = []) (hm : x.model kind = .ok m)
    (hlimit : m.limit = some limit) (hpos : 0 < left) (hroom : left ≤ limit * u.models.count kind)
    (hmin : u.minSize ≤ own + left) (hmax : own + left ≤ u.maxSize) :
    (if u.name = kind then own else 0) + left ≤ limit := by
  obtain ⟨calls, g, hg, rfl, hglimit, hcount⟩ :=
    exists_filled hstanding hothers hmodels hm hlimit hpos hroom hmin hmax
  obtain ⟨-, hwithin⟩ := problems_eq_nil_iff.mp (hlegal calls)
  rw [← hcount]
  exact limitProblem?_eq_none_iff.mp (hwithin g hg) limit hglimit

/-- Where no history leads to a problem, limited types are rationed. -/
theorem rationed_of_legal (hstanding : Standing x u s) (hothers : s.others = [])
    (hmodels : ∀ name ∈ u.models, ∃ m, x.model name = .ok m ∧ x.arsenal.Equips m.wargear)
    (hfits : u.minSize ≤ u.maxSize) (hlegal : ∀ calls, (s.run calls).problems = []) :
    u.Rationed x := by
  intro kind hkind m limit hm hlimit hpos htight
  have hplace : 1 ≤ u.models.count kind := List.count_pos_iff.mpr hkind
  constructor
  · -- one model in the place of the type and as many leaders as the limit are too many
    intro hown
    have hone := le_limit_of_legal (max limit (u.minSize - 1)) 1 hstanding hothers hmodels
      hlegal hm hlimit Nat.one_pos (Nat.mul_le_mul hpos hplace) (by omega) (by omega)
    rw [if_pos hown.symm] at hone
    omega
  · -- two places hold one model more than the limit
    by_contra hmany
    have htwice : limit * 2 ≤ limit * u.models.count kind := Nat.mul_le_mul_left _ (by omega)
    have hfull := le_limit_of_legal (u.minSize - (limit + 1)) (limit + 1) hstanding hothers hmodels
      hlegal hm hlimit (Nat.succ_pos limit) (by omega) (by omega) (by omega)
    omega

/-- In a codex that passes the audit, a squad of a unit has no problem after any history of calls if
and only if the unit's types of model are rationed. -/
theorem problems_run_eq_nil_iff {role : Role} {unit : String} (hclean : x.audit.hasErrors = false)
    (hunit : x.unit role unit = .ok u) :
    (∀ s₀ calls, muster x role unit = .ok s₀ → (s₀.run calls).problems = []) ↔ u.Rationed x := by
  obtain ⟨hsound, hequips⟩ := Codex.audit_hasErrors_eq_false_iff.mp hclean
  obtain ⟨role', hlisted⟩ := Codex.mem_unitListing_of_unit hunit
  have hu : u.Sound x := hsound _ hlisted
  have hfits : u.minSize ≤ u.maxSize := hu.sized.2
  constructor
  · intro hlegal
    have hmodels : ∀ name ∈ u.models, ∃ m, x.model name = .ok m ∧ x.arsenal.Equips m.wargear := by
      intro name hname
      obtain ⟨m, hm⟩ := hu.staffed name hname
      exact ⟨m, hm, hequips m (Codex.mem_modelListing_of_model hm)⟩
    obtain ⟨gear, hgear⟩ := (exists_readLoadout_iff u.name).mpr hu.equipped
    obtain ⟨s₀, hmuster⟩ : ∃ s₀, muster x role unit = .ok s₀ := by
      rw [muster, hunit]
      dsimp only
      rw [ofTemplate, hgear]
      exact ⟨_, rfl⟩
    have hstanding := standing_ofTemplate (ofTemplate_of_muster hunit hmuster)
    exact rationed_of_legal hstanding (leadPlain_of_muster hmuster).2 hmodels hfits
      fun calls => hlegal s₀ calls hmuster
  · intro hrationed s₀ calls hmuster
    have htemplate := ofTemplate_of_muster hunit hmuster
    have hstanding := standing_ofTemplate htemplate
    have hsupplied : Supplied x u s₀ :=
      supplied_of_others_eq_nil (leadPlain_of_muster hmuster).2
    exact problems_eq_nil_of_rationed hrationed (hstanding.run calls)
      ((inRange_ofTemplate hfits htemplate).run hstanding hfits calls)
      (hsupplied.run hstanding calls)

/-- Guards who may include one scout, in one place, are legal whatever is done with them. -/
theorem problems_run_eq_nil_patrol :
    let x := Guards.patrol "Axe/Bow" (Guards.scout (some 1)) ["Scout"]
    let u := (Guards.patroller "Axe/Bow" (Guards.scout (some 1)) ["Scout"]).template
    x.audit.hasErrors = false ∧ x.unit .troops "Guards" = .ok u ∧ u.Rationed x ∧
      ∀ s₀ calls, muster x .troops "Guards" = .ok s₀ → (s₀.run calls).problems = [] := by
  intro x u
  have hclean : x.audit.hasErrors = false := by with_unfolding_all rfl
  have hunit : x.unit .troops "Guards" = .ok u := by with_unfolding_all rfl
  have hrationed : u.Rationed x := by
    intro kind hkind m limit hm hlimit hpos htight
    obtain rfl : kind = "Scout" := List.mem_singleton.mp hkind
    decide
  exact ⟨hclean, hunit, hrationed, (problems_run_eq_nil_iff hclean hunit).mpr hrationed⟩

/-- Where scouts are listed twice, one may be taken in each place; and where guards are listed among
the further types of model, those who lead the unit are counted with them. -/
theorem problems_overfilled_patrols :
    (let m := Guards.scout (some 1)
      let x := Guards.patrol "Axe/Bow" m ["Scout", "Scout"]
      let s := (Guards.patroller "Axe/Bow" m ["Scout", "Scout"]).run [.resizeModels [1, 1, 1]]
      x.audit.hasErrors = false ∧ Reachable x s ∧
        s.problems = ["Guards may include at most 1 Scout, not 2"]) ∧
    (let m := { Guards.scout (some 1) with name := "Guards" }
      let x := Guards.patrol "Axe/Bow" m ["Guards"]
      let s := (Guards.patroller "Axe/Bow" m ["Guards"]).run [.resizeModels [1, 1]]
      x.audit.hasErrors = false ∧ Reachable x s ∧
        s.problems = ["Guards may include at most 1 Guards, not 2"]) := by
  refine ⟨⟨?_, ?_, ?_⟩, ?_, ?_, ?_⟩
  · with_unfolding_all rfl
  · exact ⟨.troops, "Guards", _, _, by with_unfolding_all rfl, rfl⟩
  · with_unfolding_all rfl
  · with_unfolding_all rfl
  · exact ⟨.troops, "Guards", _, _, by with_unfolding_all rfl, rfl⟩
  · with_unfolding_all rfl

end Squad

end Muster
