import Muster.Proofs.Limits

/-!
# Resizing

What a change of size makes of a squad that has been equipped or sized before. A sizing by types
keeps the groups of the unit's own type and makes all others anew. Types are told by name, so it
also keeps the groups of a further type that goes by the unit's own name. The last sizing wins if
the one before has made no such groups, and only then.

Neither way of sizing looks at options. The models that an option counts stay as they are, and the
size decides whether they are within its share. What an option quotes where it lacks models is what
sizing the squad for it costs.
-/

namespace Muster

namespace UnitTemplate

/-- How many models are asked for of further types that go by the unit's own name, where `counts`
has a number for each type. -/
def namesakes (u : UnitTemplate) (counts : List Nat) : Nat :=
  Amount.sum (((u.models.zip counts.tail).filter fun row => row.1 = u.name).map Prod.snd)

/-- Numbers for the types of model that make up the largest size, with as many namesakes as `left`
and no other model of a further type. -/
def fill (u : UnitTemplate) (left : Nat) : List Nat :=
  (u.maxSize - left) :: Squad.ration u.name 1 left u.models

/-- No further type that there can be models of goes by the unit's own name. -/
def ToldApart (x : Codex) (u : UnitTemplate) : Prop :=
  ∀ kind ∈ u.models, ∀ m, x.model kind = .ok m → m.limit ≠ some 0 → kind ≠ u.name

end UnitTemplate

namespace Squad

variable {x : Codex} {u : UnitTemplate} {s s' s₁ s₂ s₃ : Squad} {t : Sheet}

/-! ## One sizing after another -/

/-- Of groups that all have models there are none exactly where there are no models. -/
theorem headcount_eq_zero_iff {gs : List Group} (hmanned : ∀ g ∈ gs, 0 < g.count) :
    headcount gs = 0 ↔ gs = [] := by
  cases gs with
  | nil => exact iff_of_true rfl rfl
  | cons g gs =>
    have hpos := hmanned g List.mem_cons_self
    refine iff_of_false (fun hzero => ?_) (List.cons_ne_nil g gs)
    rw [headcount_cons] at hzero
    omega

/-- No group that is made is of the unit's own type if and only if no namesakes are asked for. -/
theorem filter_extraGroups_eq_nil_iff {own : Nat} {extra : List Nat} {groups : List Group}
    (h : s.extraGroups extra = .ok groups) :
    (groups.filter fun g => g.kind = s.template.name) = [] ↔
      s.template.namesakes (own :: extra) = 0 := by
  have hcount := headcount_filter_extraGroups (fun kind => kind = s.template.name) h
  have hmanned : ∀ g ∈ groups.filter fun g => g.kind = s.template.name, 0 < g.count :=
    fun g hg => (exists_model_of_mem_extraGroups h (List.mem_of_mem_filter hg)).2.1
  rw [← headcount_eq_zero_iff hmanned, hcount]
  rfl

/-- A sizing by types keeps the groups of the unit's own type, and adds those of its namesakes. -/
theorem ownOthers_append (s : Squad) (groups : List Group) :
    (s.ownOthers ++ groups).filter (fun g => g.kind = s.template.name) =
      s.ownOthers ++ groups.filter fun g => g.kind = s.template.name := by
  rw [List.filter_append, ownOthers, List.filter_filter]
  simp only [Bool.and_self]

/-- A resize by type keeps the groups of the own type exactly where no namesake is asked for. -/
theorem ownOthers_resizeModels_eq_iff {counts : List Nat}
    (h : s.perform (resizeModels counts) = (s', .ok ())) :
    s'.ownOthers = s.ownOthers ↔ s.template.namesakes counts = 0 := by
  obtain ⟨own, extra, groups, rfl, -, -, hgroups, -, rfl⟩ := perform_resizeModels_eq_ok_iff.mp h
  rw [← filter_extraGroups_eq_nil_iff hgroups]
  change (s.ownOthers ++ groups).filter (fun g => g.kind = s.template.name) = s.ownOthers ↔ _
  rw [ownOthers_append]
  exact List.append_right_eq_self

/-- A sizing by types undoes the one before if and only if this has asked for no namesakes. -/
theorem resizeModels_resizeModels_iff {c₁ c₂ : List Nat}
    (h₁ : s.perform (resizeModels c₁) = (s₁, .ok ()))
    (h₂ : s₁.perform (resizeModels c₂) = (s₂, .ok ()))
    (h₃ : s.perform (resizeModels c₂) = (s₃, .ok ())) :
    s₂.groups = s₃.groups ∧ s₂.points = s₃.points ↔ s.template.namesakes c₁ = 0 := by
  rw [← ownOthers_resizeModels_eq_iff h₁]
  obtain ⟨own, extra, made, -, -, -, -, -, rfl⟩ := perform_resizeModels_eq_ok_iff.mp h₁
  generalize hfirst : refresh { s with
    lead := { s.lead with count := own - headcount s.ownOthers }
    others := s.ownOthers ++ made } = s₁ at *
  obtain ⟨own, extra, groups, rfl, -, -, hgroups, -, rfl⟩ := perform_resizeModels_eq_ok_iff.mp h₂
  obtain ⟨own', extra', groups', heq, -, -, hgroups', -, rfl⟩ :=
    perform_resizeModels_eq_ok_iff.mp h₃
  cases heq
  -- the groups of further types depend on nothing that a sizing changes
  have hsame : s₁.extraGroups extra = s.extraGroups extra := by
    rw [← hfirst]
    rfl
  obtain rfl : groups' = groups := Except.ok.inj (hgroups'.symm.trans (hsame.symm.trans hgroups))
  constructor
  · rintro ⟨hall, -⟩
    have hothers : s₁.ownOthers ++ groups' = s.ownOthers ++ groups' := (List.cons.inj hall).2
    exact List.append_cancel_right hothers
  · intro hown
    rw [hown, ← hfirst]
    exact ⟨rfl, rfl⟩

/-- Where the types of model are told apart, a sizing that succeeds asks for no namesakes. -/
theorem namesakes_eq_zero_of_toldApart {counts : List Nat} (hapart : s.template.ToldApart s.codex)
    (h : s.perform (resizeModels counts) = (s', .ok ())) : s.template.namesakes counts = 0 := by
  obtain ⟨own, extra, groups, rfl, -, -, hgroups, -, -⟩ := perform_resizeModels_eq_ok_iff.mp h
  rw [← filter_extraGroups_eq_nil_iff hgroups, List.filter_eq_nil_iff]
  intro g hg
  obtain ⟨hlisted, hpos, m, hm, -, hwithin⟩ := exists_model_of_mem_extraGroups hgroups hg
  have hlimit : m.limit ≠ some 0 := fun hzero => absurd (hwithin 0 hzero) (Nat.not_le.mpr hpos)
  simpa using hapart g.kind hlisted m hm hlimit

section Namesake

variable {m : ModelTemplate} (hu : u.Sound x)
  (hmodels : ∀ name ∈ u.models, ∃ m, x.model name = .ok m ∧ x.arsenal.Equips m.wargear)
  (hlisted : u.name ∈ u.models) (hm : x.model u.name = .ok m) (hlimit : m.limit ≠ some 0)

include hu hmodels hlisted hm hlimit

/-- A squad can be filled up with a namesake or none if its groups of the unit's own type leave room
for that. -/
theorem exists_filledUp {left : Nat} (hstanding : Standing x u s) (hleft : left ≤ 1)
    (hkept : headcount s.ownOthers ≤ u.maxSize - left) :
    ∃ s', s.perform (resizeModels (u.fill left)) = (s', .ok ()) ∧
      headcount s'.ownOthers = headcount s.ownOthers + left := by
  obtain rfl := hstanding.codex
  obtain rfl := hstanding.template
  have hplace : 1 ≤ s.template.models.count s.template.name := List.count_pos_iff.mpr hlisted
  have hrange : s.checkRange (s.template.maxSize - left +
      Amount.sum (ration s.template.name 1 left s.template.models)) = .ok () := by
    have hsized := hu.sized
    rw [checkRange_eq_ok_iff, sum_ration (by omega)]
    omega
  have hone (most : Nat) (hmost : m.limit = some most) : 1 ≤ most := by
    refine Nat.one_le_iff_ne_zero.mpr fun hzero => hlimit ?_
    rw [hmost, hzero]
  obtain ⟨groups, hgroups⟩ := exists_extraGroups_ration left hm hone hmodels
  refine ⟨_, perform_resizeModels_eq_ok_iff.mpr
    ⟨_, _, groups, rfl, length_ration _ _ _ _, hrange, hgroups, hkept, rfl⟩, ?_⟩
  change headcount ((s.ownOthers ++ groups).filter fun g => g.kind = s.template.name) = _
  rw [ownOthers_append, headcount_append, headcount_extraGroups_ration hgroups (by omega)]

/-- A new squad can be filled up with a namesake and then without one, which can also be done at
once. -/
theorem exists_sizings (hstanding : Standing x u s) (hothers : s.others = []) :
    ∃ s₁ s₂ s₃, s.perform (resizeModels (u.fill 1)) = (s₁, .ok ()) ∧
      s₁.perform (resizeModels (u.fill 0)) = (s₂, .ok ()) ∧
      s.perform (resizeModels (u.fill 0)) = (s₃, .ok ()) ∧ s₁.ownOthers ≠ s.ownOthers := by
  have hnone : headcount s.ownOthers = 0 := by
    rw [ownOthers, hothers]
    rfl
  have hsized := hu.sized
  obtain ⟨s₁, h₁, hcount⟩ :=
    exists_filledUp hu hmodels hlisted hm hlimit hstanding (Nat.le_refl 1) (by omega)
  have hfirst : s.run [.resizeModels (u.fill 1)] = s₁ := congrArg Prod.fst h₁
  have hstanding₁ : Standing x u s₁ := hfirst ▸ hstanding.run _
  obtain ⟨s₂, h₂, -⟩ :=
    exists_filledUp hu hmodels hlisted hm hlimit hstanding₁ (Nat.zero_le 1) (by omega)
  obtain ⟨s₃, h₃, -⟩ :=
    exists_filledUp hu hmodels hlisted hm hlimit hstanding (Nat.zero_le 1) (by omega)
  refine ⟨s₁, s₂, s₃, h₁, h₂, h₃, fun hsame => ?_⟩
  rw [hsame] at hcount
  omega

end Namesake

/-- Whatever sizing by types comes before, the next leaves the groups and points that it leaves by
itself, as long as both succeed. -/
def LastSizingWins (s : Squad) : Prop :=
  ∀ c₁ c₂ s₁ s₂ s₃, s.perform (resizeModels c₁) = (s₁, .ok ()) →
    s₁.perform (resizeModels c₂) = (s₂, .ok ()) → s.perform (resizeModels c₂) = (s₃, .ok ()) →
    s₂.groups = s₃.groups ∧ s₂.points = s₃.points

/-- In a codex that passes the audit, the last sizing by types wins after all histories of calls on
a squad of a unit if and only if the unit's types of model are told apart. -/
theorem lastSizingWins_run_iff {role : Role} {unit : String} (hclean : x.audit.hasErrors = false)
    (hunit : x.unit role unit = .ok u) :
    (∀ s₀ calls, muster x role unit = .ok s₀ → LastSizingWins (s₀.run calls)) ↔
      u.ToldApart x := by
  obtain ⟨hsound, hequips⟩ := Codex.audit_hasErrors_eq_false_iff.mp hclean
  obtain ⟨role', hlisted⟩ := Codex.mem_unitListing_of_unit hunit
  have hu : u.Sound x := hsound _ hlisted
  constructor
  · rintro hwins kind hkind m hm hlimit rfl
    obtain ⟨s₀, hmuster⟩ := exists_muster hunit hu
    have hstanding := standing_ofTemplate (ofTemplate_of_muster hunit hmuster)
    obtain ⟨s₁, s₂, s₃, h₁, h₂, h₃, hmore⟩ := exists_sizings hu (hu.exists_model hequips) hkind hm
      hlimit hstanding (leadPlain_of_muster hmuster).2
    have hsame := hwins s₀ [] hmuster _ _ _ _ _ h₁ h₂ h₃
    rw [resizeModels_resizeModels_iff h₁ h₂ h₃, ← ownOthers_resizeModels_eq_iff h₁] at hsame
    exact hmore hsame
  · intro hapart s₀ calls hmuster c₁ c₂ s₁ s₂ s₃ h₁ h₂ h₃
    have hstanding := (standing_ofTemplate (ofTemplate_of_muster hunit hmuster)).run calls
    rw [← hstanding.template, ← hstanding.codex] at hapart
    exact (resizeModels_resizeModels_iff h₁ h₂ h₃).mpr (namesakes_eq_zero_of_toldApart hapart h₁)

/-- Guards who may include scouts are as they were sized last, whatever is done with them. -/
theorem lastSizingWins_run_patrol :
    let x := Guards.patrol "Axe/Bow-2" (Guards.scout none) ["Scout"]
    let u := (Guards.patroller "Axe/Bow-2" (Guards.scout none) ["Scout"]).template
    x.audit.hasErrors = false ∧ x.unit .troops "Guards" = .ok u ∧ u.ToldApart x ∧
      ∀ s₀ calls, muster x .troops "Guards" = .ok s₀ → LastSizingWins (s₀.run calls) := by
  intro x u
  have hclean : x.audit.hasErrors = false := by with_unfolding_all rfl
  have hunit : x.unit .troops "Guards" = .ok u := by with_unfolding_all rfl
  have hapart : u.ToldApart x := by
    intro kind hkind m hm hlimit
    obtain rfl : kind = "Scout" := List.mem_singleton.mp hkind
    decide
  exact ⟨hclean, hunit, hapart, (lastSizingWins_run_iff hclean hunit).mpr hapart⟩

/-- Where guards are listed among the further types of model, one of them stays when two leaders and
one of them are asked for after one of each. -/
theorem lastSizing_loses_patrol :
    let m := { Guards.scout none with name := "Guards" }
    let x := Guards.patrol "Axe/Bow-2" m ["Guards"]
    let s := Guards.patroller "Axe/Bow-2" m ["Guards"]
    x.audit.hasErrors = false ∧ Reachable x s ∧
      ∃ s₁ s₂ s₃, s.perform (resizeModels [1, 1]) = (s₁, .ok ()) ∧
        s₁.perform (resizeModels [2, 1]) = (s₂, .ok ()) ∧
        s.perform (resizeModels [2, 1]) = (s₃, .ok ()) ∧
        s₂.groups.map Group.count = [1, 1, 1] ∧ s₂.points = 27 ∧
        s₃.groups.map Group.count = [2, 1] ∧ s₃.points = 33 := by
  intro m x s
  have hclean : x.audit.hasErrors = false := by with_unfolding_all rfl
  have hreach : Reachable x s := ⟨.troops, "Guards", s, [], by with_unfolding_all rfl, rfl⟩
  let s₁ := s.run [.resizeModels [1, 1]]
  refine ⟨hclean, hreach, s₁, s₁.run [.resizeModels [2, 1]], s.run [.resizeModels [2, 1]],
    ?_, ?_, ?_, ?_⟩
  · with_unfolding_all rfl
  · with_unfolding_all rfl
  · with_unfolding_all rfl
  · decide

/-! ## Shares when the size changes -/

/-- What sizing a squad makes of it, in all or by types without any namesake. -/
inductive Sized (s : Squad) : Squad → Prop where
  | inAll {s' : Squad} {size : Nat} : s.perform (resize size) = (s', .ok ()) → Sized s s'
  | byTypes {s' : Squad} {counts : List Nat} : s.template.namesakes counts = 0 →
      s.perform (resizeModels counts) = (s', .ok ()) → Sized s s'

/-- Sizing a squad keeps its template. -/
theorem Sized.template_eq (h : Sized s s') : s'.template = s.template := by
  cases h with
  | inAll hok =>
    obtain ⟨-, -, rfl⟩ := perform_resize_eq_ok_iff.mp hok
    rfl
  | byTypes _ hok =>
    obtain ⟨own, extra, groups, -, -, -, -, -, rfl⟩ := perform_resizeModels_eq_ok_iff.mp hok
    rfl

/-- The size is as the template allows, whatever it was before. -/
theorem Sized.sizeProblem?_eq_none (h : Sized s s') : s'.sizeProblem? = none := by
  rw [sizeProblem?_eq_none_iff, h.template_eq]
  cases h with
  | inAll hok =>
    obtain ⟨hrange, hroom, rfl⟩ := perform_resize_eq_ok_iff.mp hok
    rw [size_resized hroom]
    exact checkRange_eq_ok_iff.mp hrange
  | byTypes _ hok =>
    obtain ⟨own, extra, groups, -, hlength, hrange, hgroups, hkept, rfl⟩ :=
      perform_resizeModels_eq_ok_iff.mp hok
    rw [size_resizedByTypes hlength hgroups hkept]
    exact checkRange_eq_ok_iff.mp hrange

/-- An option counts models of the unit's own type only. -/
theorem Standing.kind_of_counts (h : Standing x u s) {g : Group} (hcounts : s.counts t g = true) :
    g.kind = u.name := by
  have hkind : g.kind = s.lead.kind := eq_of_beq (Bool.and_eq_true_iff.mp hcounts).1
  rw [hkind, h.lead]
  rfl

/-- What an option counts stays as it is. -/
theorem Sized.carvedBy_none_eq (h : Sized s s') (hstanding : Standing x u s) (t : Sheet) :
    s'.carvedBy t none = s.carvedBy t none := by
  obtain rfl := hstanding.template
  cases h with
  | inAll hok =>
    obtain ⟨-, -, rfl⟩ := perform_resize_eq_ok_iff.mp hok
    rfl
  | byTypes hnone hok =>
    obtain ⟨own, extra, groups, rfl, -, -, hgroups, -, rfl⟩ := perform_resizeModels_eq_ok_iff.mp hok
    have hmade : groups.filter (s.counts t) = [] := by
      rw [← filter_extraGroups_eq_nil_iff hgroups, List.filter_eq_nil_iff] at hnone
      refine List.filter_eq_nil_iff.mpr fun g hg hcounts => hnone g hg ?_
      exact decide_eq_true (hstanding.kind_of_counts hcounts)
    have hkept : s.ownOthers.filter (s.counts t) = s.others.filter (s.counts t) := by
      rw [ownOthers, List.filter_filter]
      refine List.filter_congr fun g _ => ?_
      cases hcounts : s.counts t g with
      | false => rfl
      | true => exact decide_eq_true (hstanding.kind_of_counts hcounts)
    rw [carvedBy_eq, carvedBy_eq]
    change headcount ((s.ownOthers ++ groups).filter (s.counts t)) = _
    rw [List.filter_append, hmade, List.append_nil, hkept]
    rfl

/-- Sizing a squad keeps the number of models that an option counts. They are within its share
afterwards if and only if the squad has enough models for them, as it has if they were within it
before and the squad does not shrink. That they are not is no problem of the squad: it has one only
where there are more models of a type than its limit. -/
theorem carvedBy_le_sized (h : Reachable x s) (hper : 1 < t.offer.modelsPer) (hsized : Sized s s') :
    s'.carvedBy t none = s.carvedBy t none ∧
      (s'.carvedBy t none ≤ s'.size / t.offer.modelsPer ↔
        t.offer.modelsPer * s.carvedBy t none ≤ s'.size) ∧
      (s.carvedBy t none ≤ s.size / t.offer.modelsPer → s.size ≤ s'.size →
        s'.carvedBy t none ≤ s'.size / t.offer.modelsPer) ∧
      (s'.problems = [] ↔
        ∀ g ∈ s'.groups, ∀ limit, g.limit = some limit → s'.countOf g.kind ≤ limit) := by
  obtain ⟨role, unit, u, -, hstanding⟩ := h.standing
  have hsame := hsized.carvedBy_none_eq hstanding t
  refine ⟨hsame, ?_, fun hbefore hgrown => ?_, ?_⟩
  · rw [hsame, Nat.le_div_iff_mul_le (Nat.zero_lt_of_lt hper), Nat.mul_comm]
  · rw [hsame]
    exact hbefore.trans (Nat.div_le_div_right hgrown)
  · rw [problems_eq_nil_iff, and_iff_right hsized.sizeProblem?_eq_none]
    exact forall₂_congr fun g _ => limitProblem?_eq_none_iff

/-- Two of four guards have taken a bow. They stay when a scout comes, and the share is two of
five. -/
theorem carvedBy_le_sized_patrol :
    let s := { Guards.patroller "Axe/Bow-2" (Guards.scout none) ["Scout"] with
      lead := .plain "Guards" 2 10
      others := [⟨"Guards", 2, 10, [Guards.bow], [Guards.axe], none⟩]
      points := 56 }
    let t := Guards.sheet []
    Reachable s.codex s ∧ s.carvedBy t none = 2 ∧
      ∃ s', s.perform (resizeModels [4, 1]) = (s', .ok ()) ∧ s'.size = 5 ∧
        s'.carvedBy t none ≤ s'.size / t.offer.modelsPer ∧ s'.problems = [] := by
  intro s t
  have hreach : Reachable s.codex s :=
    ⟨.troops, "Guards", Guards.patroller "Axe/Bow-2" (Guards.scout none) ["Scout"],
      [.resize 4, .equip (Guards.sheet [⟨1, 1⟩])],
      by with_unfolding_all rfl, by with_unfolding_all rfl⟩
  let scout : Group := ⟨"Scout", 1, 7, [], [Guards.axe], none⟩
  let s' := { s with others := s.others ++ [scout], points := 63 }
  have hok : s.perform (resizeModels [4, 1]) = (s', .ok ()) := by
    dsimp only [s, s', scout]
    with_unfolding_all rfl
  have hnone : s.template.namesakes [4, 1] = 0 := by decide
  obtain ⟨-, -, hgrown, hproblems⟩ :=
    carvedBy_le_sized (t := t) hreach (by decide) (.byTypes hnone hok)
  have hlimits : ∀ g ∈ s'.groups, g.limit = none := by decide
  have hcarved : s.carvedBy t none = 2 := by with_unfolding_all rfl
  refine ⟨hreach, hcarved, s', hok, by decide, hgrown ?_ (by decide), ?_⟩
  · rw [hcarved]
    decide
  · refine hproblems.mpr fun g hg limit hlimit => ?_
    rw [hlimits g hg] at hlimit
    cases hlimit

/-- Two of four guards have taken a bow. When one of the others leaves, in whichever way, the share
is one of three, and the squad has no problem. -/
theorem carvedBy_exceeds_guards :
    let s := { Guards.squad ["Axe"] [Guards.axe] 2 56 with
      others := [⟨"Guards", 2, 10, [Guards.bow], [Guards.axe], none⟩] }
    let t := Guards.sheet []
    Reachable (Guards.codex ["Axe"]) s ∧ s.freshSheets = .ok [t] ∧ 1 < t.offer.modelsPer ∧
      s.carvedBy t none ≤ s.size / t.offer.modelsPer ∧
      ∃ s', s.perform (resize 3) = (s', .ok ()) ∧ s.perform (resizeModels [3]) = (s', .ok ()) ∧
        ¬ s'.carvedBy t none ≤ s'.size / t.offer.modelsPer ∧ s'.problems = [] := by
  intro s t
  have hreach : Reachable (Guards.codex ["Axe"]) s :=
    ⟨.troops, "Guards", Guards.squad ["Axe"] [Guards.axe] 1 13,
      [.resize 4, .equip (Guards.sheet [⟨1, 1⟩])],
      by with_unfolding_all rfl, by with_unfolding_all rfl⟩
  have hsheets : s.freshSheets = .ok [t] := by with_unfolding_all rfl
  have hcarved : s.carvedBy t none = 2 := by with_unfolding_all rfl
  let s' := { s with lead := .plain "Guards" 1 10, points := 43 }
  have hstays : s'.carvedBy t none = 2 := by with_unfolding_all rfl
  refine ⟨hreach, hsheets, by decide, ?_, s', ?_, ?_, ?_, ?_⟩
  · rw [hcarved]
    decide
  · dsimp only [s, s']
    with_unfolding_all rfl
  · dsimp only [s, s']
    with_unfolding_all rfl
  · rw [hstays]
    decide
  · decide

/-! ## The price of missing models -/

/-- An option quotes a price if and only if its picks are allowed and there are fewer models than it
is for. It quotes as many lead models as are missing. -/
theorem equip_insufficient_iff {required current shortfall costDelta : Nat} :
    s.perform (equip t) =
        (s', .error (.insufficientModels required current shortfall costDelta)) ↔
      t.checkPicks = .ok () ∧ s.size < t.offer.modelsPer ∧ s' = s ∧
        required = t.offer.modelsPer ∧ current = s.size ∧ shortfall = required - s.size ∧
        costDelta = Amount.mul shortfall (s.lead.pointsEach s.gear) := by
  rw [perform_equip]
  constructor
  · intro h
    split at h
    · cases h
    · next hcheck =>
      dsimp only at h
      split at h
      · next hfew =>
        cases h
        exact ⟨hcheck, hfew, rfl, rfl, rfl, rfl, rfl⟩
      · split at h
        · cases h
        · split at h
          · split at h
            · cases h
            · next hcarve =>
              cases h
              rcases carve_refused hcarve with h | ⟨_, h⟩ | h <;> cases h
          · cases h
  · rintro ⟨hcheck, hfew, rfl, rfl, rfl, rfl, rfl⟩
    rw [hcheck]
    exact if_pos hfew

/-- Lead models that are added are worth as much as those that are there. -/
theorem worth_lead_add (s : Squad) (n : Nat) :
    worth { s with lead := { s.lead with count := s.lead.count + n } } =
      s.worth + n * (s.lead.basePoints + (s.lead.loadout s.gear).worth) := by
  have hadded : Group.worth { s.lead with count := s.lead.count + n } s.gear =
      s.lead.worth s.gear + n * (s.lead.basePoints + (s.lead.loadout s.gear).worth) :=
    Nat.add_mul _ _ _
  simp only [worth, groups, List.map_cons, Amount.sum, hadded]
  omega

/-- What as many lead models as are missing cost is added to the points by sizing. -/
theorem UpToDate.points_resize {size : Nat} (h : s.UpToDate) (hmore : s.size ≤ size)
    (hok : s.perform (resize size) = (s', .ok ())) :
    s'.points =
      Amount.add s.points (Amount.mul (size - s.size) (s.lead.pointsEach s.gear)) := by
  obtain ⟨-, -, rfl⟩ := perform_resize_eq_ok_iff.mp hok
  have hlead : size - s.othersCount = s.lead.count + (size - s.size) := by
    have hsize := s.size_eq
    omega
  have hpoints : s.points = Amount.clamp s.worth := h.trans s.tally_eq_clamp
  simp only [refresh]
  rw [tally_eq_clamp, hlead, worth_lead_add, hpoints, Group.pointsEach_eq_clamp_worth, Amount.mul,
    Amount.clamp_mul_clamp, Amount.add, Amount.clamp_clamp_add, Amount.clamp_add_clamp]

/-- Where an option lacks models, nothing changes, and it names the models that there are and those
that are missing. The squad can be sized for it if the template allows so many. It is then as many
points more as the option has quoted, up to the largest amount, and the option does not lack models
any more. -/
theorem equip_shortfall {required current shortfall costDelta : Nat} (h : Reachable x s)
    (hfew : s.perform (equip t) =
      (s', .error (.insufficientModels required current shortfall costDelta))) :
    s' = s ∧ required = t.offer.modelsPer ∧ current = s.size ∧ shortfall = required - s.size ∧
      0 < shortfall ∧
      ((∃ s'', s.perform (resize required) = (s'', .ok ())) ↔
        s.template.minSize ≤ required ∧ required ≤ s.template.maxSize) ∧
      ∀ s'', s.perform (resize required) = (s'', .ok ()) →
        s''.points = min Amount.cap (s.points + costDelta) ∧
          ∀ r c k d, (s''.perform (equip t)).2 ≠ .error (.insufficientModels r c k d) := by
  obtain ⟨-, hsize, rfl, rfl, rfl, rfl, rfl⟩ := equip_insufficient_iff.mp hfew
  refine ⟨rfl, rfl, rfl, rfl, Nat.sub_pos_of_lt hsize, ?_, fun s'' hok => ⟨?_, ?_⟩⟩
  · rw [← checkRange_eq_ok_iff]
    constructor
    · rintro ⟨s'', hok⟩
      exact (perform_resize_eq_ok_iff.mp hok).1
    · intro hrange
      have hroom : s'.othersCount ≤ t.offer.modelsPer := by
        have hall := s'.size_eq
        omega
      exact ⟨_, perform_resize_eq_ok_iff.mpr ⟨hrange, hroom, rfl⟩⟩
  · rw [h.upToDate.points_resize hsize.le hok, Nat.min_comm]
    rfl
  · intro r c k d hagain
    obtain ⟨-, hstill, -⟩ := equip_insufficient_iff.mp (Prod.ext rfl hagain)
    obtain ⟨-, hroom, rfl⟩ := perform_resize_eq_ok_iff.mp hok
    rw [size_resized hroom] at hstill
    exact Nat.lt_irrefl _ hstill

/-- A guard lacks another for an option that is for every two, who is 13 points. -/
theorem equip_shortfall_guards :
    let s := Guards.squad ["Axe"] [Guards.axe] 1 13
    let t := Guards.sheet [⟨1, 1⟩]
    Reachable (Guards.codex ["Axe"]) s ∧
      s.perform (equip t) = (s, .error (.insufficientModels 2 1 1 13)) ∧
      ∃ s', s.perform (resize 2) = (s', .ok ()) ∧ s'.points = 26 := by
  intro s t
  have hreach : Reachable (Guards.codex ["Axe"]) s :=
    ⟨.troops, "Guards", s, [], by with_unfolding_all rfl, rfl⟩
  have hfew : s.perform (equip t) = (s, .error (.insufficientModels 2 1 1 13)) := by
    with_unfolding_all rfl
  obtain ⟨-, -, -, -, -, hsized, hquoted⟩ := equip_shortfall hreach hfew
  obtain ⟨s', hok⟩ := hsized.mpr (by decide)
  exact ⟨hreach, hfew, s', hok, (hquoted s' hok).1⟩

end Squad

end Muster
