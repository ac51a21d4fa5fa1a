import Muster.Proofs.Lookalikes
import Muster.Proofs.Prices

/-!
# Models set apart in any order

An option for any model moves one model at a time out of the lead group, into the first group that
is equipped like it or into a new group. Which one that is depends on the groups that are there, so
that of two such options the second searches groups that the first has changed: it may join the
group that the first has made, which is then stored in the form that the first has given it.

Still it makes no difference to the models which option comes first, as long as the clauses offer
single items only. Bundles that count as the same may differ in price, and then whoever comes first
sets the price.
-/

namespace Muster

/-! ## Clauses without a plus sign -/

namespace Offer

variable {ls : List Lexeme}

/-- Without a plus sign a bundle has a single member. -/
theorem Bundled.exists_eq_singleton {members : List Item} (h : Bundled ls members)
    (hplus : .plus ∉ ls) : ∃ i, members = [i] := by
  cases h with
  | single => exact ⟨_, rfl⟩
  | plus => exact absurd (List.mem_append_right _ List.mem_cons_self) hplus

/-- Without a plus sign no alternative is a bundle. -/
theorem Chosen.isBundle_eq_false {gs : List Gear} (h : Chosen ls gs) (hplus : .plus ∉ ls) :
    ∀ g ∈ gs, g.isBundle = false := by
  have hfirst {ls : List Lexeme} {members : List Item} {g : Gear} (hb : Bundled ls members)
      (hg : Gear.ofMembers? members = some g) (hplus : .plus ∉ ls) : g.isBundle = false := by
    obtain ⟨i, rfl⟩ := hb.exists_eq_singleton hplus
    cases hg
    rfl
  induction h with
  | single hb hg => exact List.forall_mem_singleton.mpr (hfirst hb hg hplus)
  | slash hb hg _ ih =>
    rw [List.mem_append, List.mem_cons, not_or, not_or] at hplus
    exact List.forall_mem_cons.mpr ⟨hfirst hb hg hplus.1, ih hplus.2.2⟩

/-- Without a plus sign no piece of a menu is a bundle. -/
theorem Qualified.isBundle_eq_false {m : Menu} {r : Reach} (h : Qualified ls m r)
    (hplus : .plus ∉ ls) : ∀ g ∈ m.gear, g.isBundle = false := by
  obtain ⟨hchosen, hgs, -⟩ := h
  rw [gear_of_ofAlternatives? hgs]
  exact hchosen.isBundle_eq_false fun hmem => hplus (List.mem_append_left _ hmem)

/-- Without a plus sign no piece of an offer is a bundle. -/
theorem Clause.isBundle_eq_false {o : Offer} (h : Clause ls o) (hplus : .plus ∉ ls) :
    ∀ g ∈ o.gear, g.isBundle = false := by
  cases h with
  | plain hq => exact hq.isBundle_eq_false hplus
  | picks _ hq =>
    exact hq.isBundle_eq_false fun hmem =>
      hplus (List.mem_cons_of_mem _ (List.mem_cons_of_mem _ hmem))

end Offer

/-- Only the character itself spells a plus sign. -/
theorem Token.Cut.plus_mem {a : Arsenal} {before cs : List Char} {ts : List Token}
    (h : Token.Cut a before cs ts) (hplus : .plus ∈ ts.map Token.lexeme) : '+' ∈ cs := by
  induction h with
  | done => exact absurd hplus List.not_mem_nil
  | @token before blanks text rest l ts _ hspells _ ih =>
    rcases List.mem_cons.mp hplus with hl | hplus
    · obtain rfl : l = .plus := hl.symm
      cases hspells with
      | @operator c _ _ hop =>
        obtain rfl : c = '+' := by simpa [operators] using hop
        simp
    · exact List.mem_append_right _ (ih hplus)

/-- A clause without a plus sign offers single items only. -/
theorem Offer.isBundle_eq_false_of_read {a : Arsenal} {clause : String} {o : Offer}
    (h : Offer.read a clause = .ok o) (hplus : '+' ∉ clause.toList) :
    ∀ g ∈ o.gear, g.isBundle = false := by
  unfold Offer.read at h
  split at h
  · cases h
  · next ts hscan =>
    exact (ofTokens_eq_ok_iff.mp h).isBundle_eq_false fun hmem =>
      hplus ((Token.scan_eq_ok_iff.mp hscan).plus_mem hmem)

/-! ## Loadouts as they are shown -/

/-- Pieces that count as the same are both bundles or both single items. -/
theorem Gear.isBundle_eq_of_same {g h : Gear} (hsame : g.same h = true) :
    g.isBundle = h.isBundle := by
  cases g <;> cases h <;> first | rfl | cases hsame

/-- More of a piece is a bundle exactly where the piece is. -/
theorem Gear.isBundle_times (g : Gear) (factor : Nat) : (g.times factor).isBundle = g.isBundle := by
  cases g <;> rfl

/-- Where single items are on offer, single items are picked. -/
theorem Sheet.isBundle_eq_false_of_mem_selected {t : Sheet}
    (hitems : ∀ g ∈ t.gear, g.isBundle = false) : ∀ g ∈ t.selected, g.isBundle = false := by
  intro g hg
  obtain ⟨p, -, hp⟩ := List.mem_filterMap.mp hg
  obtain ⟨offered, hoffered, rfl⟩ := Option.map_eq_some_iff.mp hp
  have hoffered := hitems offered (List.mem_of_getElem? hoffered)
  split
  · rwa [Gear.isBundle_times]
  · exact hoffered

namespace Loadout

variable {l m : Loadout}

/-- What the pieces of a loadout count as, read as and cost, in any order. -/
def faces (l : Loadout) : Multiset (Likeness × String × Nat) :=
  ↑(l.map fun g => (g.likeness, g.label, g.cost))

/-- A loadout is its bundles and its single items, in another order. -/
theorem perm_bundles_items (l : Loadout) :
    l.Perm (l.filter Gear.isBundle ++ l.filter fun g => !g.isBundle) :=
  (List.filter_append_perm Gear.isBundle l).symm

/-- Giving up a single item leaves the bundles. -/
theorem filter_isBundle_drop {g : Gear} (hg : g.isBundle = false) :
    (l.drop g).filter Gear.isBundle = l.filter Gear.isBundle := by
  induction l with
  | nil => rfl
  | cons held l ih =>
    rw [drop_cons, List.filter_cons]
    split
    next hsame =>
      rw [if_neg (by rw [Gear.isBundle_eq_of_same hsame, hg]; exact Bool.false_ne_true)]
    next => rw [List.filter_cons, ih]

/-- Dropping single items takes no bundle away. -/
theorem filter_isBundle_dropAll {gone : Loadout} (hitems : ∀ g ∈ gone, g.isBundle = false) :
    (l.dropAll gone).filter Gear.isBundle = l.filter Gear.isBundle := by
  induction gone generalizing l with
  | nil => rfl
  | cons g gone ih =>
    obtain ⟨hg, hgone⟩ := List.forall_mem_cons.mp hitems
    rw [dropAll, List.foldl_cons, ← dropAll, ih hgone, filter_isBundle_drop hg]

/-- Loadouts that agree, and have the same bundles, are shown alike. -/
theorem faces_eq_of_bag_eq (hbag : l.bag = m.bag)
    (hbundles : l.filter Gear.isBundle = m.filter Gear.isBundle) : l.faces = m.faces := by
  have hitems : bag (l.filter fun g => !g.isBundle) = bag (m.filter fun g => !g.isBundle) := by
    rw [bag_eq_of_perm l.perm_bundles_items, bag_eq_of_perm m.perm_bundles_items, bag_append,
      bag_append, hbundles] at hbag
    exact add_left_cancel hbag
  have hfaces := perm_map_of_bag_eq (f := fun g => (g.likeness, g.label, g.cost)) hitems
    fun p hp q _ hsame => by
      cases p with
      | item i =>
        obtain ⟨hlabel, hcost⟩ := Gear.label_cost_of_same_item hsame
        rw [Gear.same_iff.mp hsame, hlabel, hcost]
      | bundle b => exact absurd (List.mem_filter.mp hp).2 Bool.false_ne_true
  have hl := l.perm_bundles_items.map fun g => (g.likeness, g.label, g.cost)
  have hm := m.perm_bundles_items.map fun g => (g.likeness, g.label, g.cost)
  rw [List.map_append, hbundles] at hl
  rw [List.map_append] at hm
  exact Multiset.coe_eq_coe.mpr (hl.trans ((hfaces.append_left _).trans hm.symm))

/-- Loadouts with the same faces cost the same. -/
theorem sum_cost_eq_of_faces_eq (h : l.faces = m.faces) :
    Amount.sum (l.map Gear.cost) = Amount.sum (m.map Gear.cost) := by
  have hcosts := (Multiset.coe_eq_coe.mp h).map fun face => face.2.2
  rw [List.map_map, List.map_map] at hcosts
  exact Amount.sum_eq_of_perm hcosts

end Loadout

/-! ## Models that join a group -/

namespace Group

/-- The groups with one model more that is equipped like `g`: it joins the first group that is
equipped so, or it is a new group that comes last. -/
def enlist (base : Loadout) (g : Group) : List Group → List Group
  | [] => [{ g with count := 1 }]
  | h :: rest =>
    if h.look base = g.look base then { h with count := h.count + 1 } :: rest
    else h :: enlist base g rest

/-- A group as it is shown, however its gear is kept. -/
structure View where
  kind : String
  count : Nat
  pointsEach : Nat
  gear : Multiset (Likeness × String × Nat)

/-- How a group is shown. -/
def view (base : Loadout) (g : Group) : View :=
  ⟨g.kind, g.count, g.pointsEach base, (g.loadout base).faces⟩

variable {base : Loadout} {g h : Group} {gs : List Group}

/-- Groups of one type that carry what is shown alike are shown alike. -/
theorem view_eq_of_faces_eq (hkind : g.kind = h.kind) (hcount : g.count = h.count)
    (hpoints : g.basePoints = h.basePoints)
    (hfaces : (g.loadout base).faces = (h.loadout base).faces) : view base g = view base h := by
  rw [view, view, pointsEach_eq_clamp, pointsEach_eq_clamp, hkind, hcount, hpoints, hfaces,
    Loadout.sum_cost_eq_of_faces_eq hfaces]

/-- A model that is equipped like no group makes a new group. -/
theorem enlist_of_none (hnone : ∀ k ∈ gs, k.look base ≠ g.look base) :
    enlist base g gs = gs ++ [{ g with count := 1 }] := by
  induction gs with
  | nil => rfl
  | cons k gs ih =>
    obtain ⟨hk, hgs⟩ := List.forall_mem_cons.mp hnone
    rw [enlist, if_neg hk, ih hgs, List.cons_append]

/-- A model joins the first group that is equipped like it. -/
theorem enlist_of_first {i : Nat} (hi : i < gs.length) (hlook : gs[i].look base = g.look base)
    (hbefore : ∀ j (hj : j < i), gs[j].look base ≠ g.look base) :
    enlist base g gs = gs.set i { gs[i] with count := gs[i].count + 1 } := by
  induction gs generalizing i with
  | nil => exact absurd hi (Nat.not_lt_zero i)
  | cons k gs ih =>
    cases i with
    | zero => exact if_pos hlook
    | succ i =>
      have hk : k.look base ≠ g.look base := hbefore 0 (Nat.succ_pos i)
      rw [enlist, if_neg hk, ih (Nat.lt_of_succ_lt_succ hi) hlook
        fun j hj => hbefore (j + 1) (Nat.succ_lt_succ hj)]
      rfl

/-- The number of its models makes no difference to the look of a group. -/
theorem look_count (base : Loadout) (g : Group) (count : Nat) :
    look base { g with count } = g.look base := rfl

/-- Of two models it makes no difference which one comes first, if models that are equipped alike
are shown alike. -/
theorem enlist_comm (hview : g.look base = h.look base →
      view base { g with count := 2 } = view base { h with count := 2 }) :
    ((enlist base h (enlist base g gs)).map (view base)).Perm
      ((enlist base g (enlist base h gs)).map (view base)) := by
  induction gs with
  | nil =>
    by_cases hlook : g.look base = h.look base
    · have hgh : enlist base h [{ g with count := 1 }] = [{ g with count := 2 }] := if_pos hlook
      have hhg : enlist base g [{ h with count := 1 }] = [{ h with count := 2 }] :=
        if_pos hlook.symm
      rw [enlist, enlist, hgh, hhg, List.map_singleton, List.map_singleton, hview hlook]
    · have hgh : enlist base h [{ g with count := 1 }] =
          [{ g with count := 1 }, { h with count := 1 }] := if_neg hlook
      have hhg : enlist base g [{ h with count := 1 }] =
          [{ h with count := 1 }, { g with count := 1 }] := if_neg (Ne.symm hlook)
      rw [enlist, enlist, hgh, hhg]
      exact List.Perm.swap _ _ _
  | cons k gs ih =>
    have hcount (count : Nat) := look_count base k count
    by_cases hg : k.look base = g.look base <;> by_cases hh : k.look base = h.look base
    · simp only [enlist, hcount, if_pos hg, if_pos hh]
      exact .refl _
    · simp only [enlist, hcount, if_pos hg, if_neg hh]
      exact .refl _
    · simp only [enlist, hcount, if_neg hg, if_pos hh]
      exact .refl _
    · simp only [enlist, if_neg hg, if_neg hh]
      exact ih.cons _

end Group

namespace Squad

variable {x : Codex} {s s' : Squad} {t t' : Sheet}

/-! ## One model set apart -/

/-- A sheet of an option for any model, whose clause has no plus sign, with picks that the option
allows. -/
structure TakesItems (s : Squad) (t : Sheet) : Prop where
  written : ∃ clause ∈ s.clauses, '+' ∉ clause.toList ∧
    Offer.read s.codex.arsenal clause = .ok t.offer
  perModel : t.offer.perModel = true
  allowed : t.checkPicks = .ok ()
  picked : t.selected ≠ []

/-- The squad with one lead model gone to the group that is equipped like `g`. -/
def part (s : Squad) (g : Group) : Squad :=
  refresh { s with
    lead := { s.lead with count := s.lead.count - 1 }
    others := g.enlist s.gear s.others }

/-- What an option for any model leaves behind. -/
def parted (s : Squad) (t : Sheet) : Squad :=
  if (s.variant t).equippedLike s.lead s.gear then s else s.part (s.variant t)

/-- Writing the group found back with one model more is enlisting a model. -/
theorem regroup_eq_enlist (hmanned : ∀ k ∈ s.others, 0 < k.count) (g : Group) (leadCount : Nat) :
    s.regroup (s.existing? g) g leadCount (s.currentCount (s.existing? g) + 1) =
      { s with
        lead := { s.lead with count := leadCount }
        others := g.enlist s.gear s.others } := by
  have hothers : (s.regroup (s.existing? g) g leadCount
      (s.currentCount (s.existing? g) + 1)).others = g.enlist s.gear s.others := by
    cases hexisting : s.existing? g with
    | none =>
      rw [others_regroup_none hmanned _ (Nat.succ_pos _),
        Group.enlist_of_none (existing?_eq_none_iff.mp hexisting)]
      rfl
    | some i =>
      obtain ⟨hi, hlike, hbefore⟩ := List.findIdx?_eq_some_iff_getElem.mp hexisting
      have hcurrent : s.currentCount (some i) = s.others[i].count := by simp [currentCount, hi]
      rw [others_regroup_some hmanned _ hi (Nat.succ_pos _), hcurrent,
        Group.enlist_of_first hi (Group.equippedLike_iff.mp hlike) fun j hj hlook =>
          hbefore j hj (Group.equippedLike_iff.mpr hlook)]
  rw [← hothers]
  rfl

/-- As long as there are lead models, carving for any model sets one of them apart. -/
theorem perform_carve_perModel (hmanned : ∀ k ∈ s.others, 0 < k.count)
    (hcap : s.size ≤ Amount.cap) (hper : t.offer.perModel = true) (hlead : 1 ≤ s.lead.count)
    (hnew : (s.variant t).equippedLike s.lead s.gear = false) :
    s.perform (carve t) =
      ({ s with
        lead := { s.lead with count := s.lead.count - 1 }
        others := (s.variant t).enlist s.gear s.others }, .ok ()) := by
  have hroom : s.currentCount (s.existing? (s.variant t)) + 1 ≤ Amount.cap := by
    have := currentCount_le s (s.variant t)
    omega
  rw [perform_carve, if_neg (Bool.not_eq_true _ ▸ hnew)]
  dsimp only
  rw [target_of_perModel hper, register_eq_ok_iff.mpr ⟨hroom, rfl⟩]
  dsimp only
  generalize hcurrent : s.currentCount (s.existing? (s.variant t)) = current
  have hone : current + 1 - current = 1 := Nat.add_sub_cancel_left current 1
  have hnone : current - (current + 1) = 0 := Nat.sub_eq_zero_of_le (Nat.le_succ current)
  rw [hone, hnone, if_neg (by omega), Nat.min_eq_left hlead, Nat.add_zero, Nat.sub_zero, ← hcurrent,
    regroup_eq_enlist hmanned]

/-- An offer for any model takes one model at a time. -/
theorem modelsPer_eq_one {o : Offer} (h : o.perModel = true) : o.modelsPer = 1 := by
  have hreach : o.reach = .anyModel := of_decide_eq_true h
  rw [Offer.modelsPer, hreach]

/-- Applying what is picked for any model never fails as long as there are lead models. -/
theorem perform_equip_perModel (h : Reachable x s) (ht : s.TakesItems t) (hlead : 1 ≤ s.lead.count)
    (hsize : 1 < s.size) : s.perform (equip t) = (s.parted t, .ok ()) := by
  obtain ⟨role, unit, u, -, hstanding⟩ := h.standing
  have henough : t.offer.modelsPer ≤ s.size := by
    rw [modelsPer_eq_one ht.perModel]
    exact Nat.le_of_lt hsize
  rw [perform_equip_apart ht.allowed ht.picked henough (.inr ⟨ht.perModel, hsize⟩), parted]
  cases hlike : (s.variant t).equippedLike s.lead s.gear with
  | true =>
    rw [perform_carve, if_pos hlike, if_pos rfl]
    dsimp only
    rw [h.upToDate.refresh_eq]
  | false =>
    rw [perform_carve_perModel hstanding.manned h.size_le ht.perModel hlead hlike]
    rfl

/-! ## Two models set apart -/

/-- A model enlisted is one model more. -/
theorem headcount_enlist (base : Loadout) (g : Group) (gs : List Group) :
    headcount (g.enlist base gs) = headcount gs + 1 := by
  induction gs with
  | nil => rfl
  | cons k gs ih =>
    rw [Group.enlist]
    split
    · rw [headcount_cons, headcount_cons]
      dsimp only
      omega
    · rw [headcount_cons, headcount_cons, ih, Nat.add_assoc]

/-- An option for any model changes nothing or takes one model from the lead. -/
theorem parted_cases (s : Squad) (t : Sheet) :
    s.parted t = s ∨ s.parted t = s.part (s.variant t) := by
  rw [parted]
  split
  · exact .inl rfl
  · exact .inr rfl

/-- An option for any model keeps the base gear. -/
theorem gear_parted (s : Squad) (t : Sheet) : (s.parted t).gear = s.gear := by
  rcases s.parted_cases t with h | h <;> rw [h]
  rfl

/-- An option for any model changes the lead group in its count only. -/
theorem lead_parted (s : Squad) (t : Sheet) :
    (s.parted t).lead = { s.lead with count := (s.parted t).lead.count } := by
  rcases s.parted_cases t with h | h <;> rw [h]
  rfl

/-- After one option for any model, another one carves the group it carved before. -/
theorem variant_parted (s : Squad) (t t' : Sheet) : (s.parted t).variant t' = s.variant t' :=
  variant_congr (s.gear_parted t) (s.lead_parted t) t'

/-- Two options for any model in turn: the second parts the squad that the first has left, unless it
changes nothing. -/
theorem parted_parted (s : Squad) (t t' : Sheet) :
    (s.parted t).parted t' =
      if (s.variant t').equippedLike s.lead s.gear then s.parted t
      else (s.parted t).part (s.variant t') := by
  have hlike : (s.variant t').equippedLike (s.parted t).lead s.gear =
      (s.variant t').equippedLike s.lead s.gear := by
    rw [lead_parted]
    rfl
  rw [parted, variant_parted, gear_parted, hlike]

/-- A sheet that a squad takes is one it takes after another option. -/
theorem TakesItems.parted (h : s.TakesItems t') (t : Sheet) : (s.parted t).TakesItems t' := by
  refine ⟨?_, h.perModel, h.allowed, h.picked⟩
  rcases s.parted_cases t with ht | ht <;> rw [ht]
  · exact h.written
  · exact h.written

/-- What an option for any model leaves behind of a reachable squad is reachable. -/
theorem Reachable.parted (h : Reachable x s) (ht : s.TakesItems t) (hlead : 1 ≤ s.lead.count)
    (hsize : 1 < s.size) : Reachable x (s.parted t) := by
  have hrun := h.run [.equip t]
  change Reachable x (s.perform (equip t)).1 at hrun
  rwa [perform_equip_perModel h ht hlead hsize] at hrun

/-- An option for any model keeps the size of a squad with a model in its lead group. -/
theorem size_parted (hlead : 1 ≤ s.lead.count) : (s.parted t).size = s.size := by
  rcases s.parted_cases t with h | h <;> rw [h]
  rw [size_eq, size_eq]
  change s.lead.count - 1 + headcount ((s.variant t).enlist s.gear s.others) =
    s.lead.count + headcount s.others
  rw [headcount_enlist]
  omega

/-- Of two models in the lead group, an option for any model leaves one. -/
theorem one_le_lead_parted (hlead : 2 ≤ s.lead.count) : 1 ≤ (s.parted t).lead.count := by
  rcases s.parted_cases t with h | h <;> rw [h]
  · exact Nat.le_of_succ_le hlead
  · exact Nat.le_sub_of_add_le hlead

/-- Two applications for any model succeed as long as there are two lead models. -/
theorem perform_equipInTurn_perModel (h : Reachable x s) (ht : s.TakesItems t)
    (ht' : s.TakesItems t') (hlead : 2 ≤ s.lead.count) :
    s.perform (equipInTurn [t, t']) = ((s.parted t).parted t', .ok ()) := by
  have hone : 1 ≤ s.lead.count := Nat.le_of_succ_le hlead
  have hsize : 1 < s.size := by
    rw [size_eq]
    omega
  have hreach := h.parted ht hone hsize
  have hsecond := perform_equip_perModel hreach (ht'.parted t) (one_le_lead_parted hlead)
    (by rwa [size_parted hone])
  rw [perform_equipInTurn_cons, perform_equip_perModel h ht hone hsize]
  dsimp only
  rw [perform_equipInTurn_cons, hsecond]
  rfl

/-- Models that take single items and are equipped alike then are shown alike. -/
theorem view_variant (hplain : s.LeadPlain) (hitems : ∀ g ∈ t.gear, g.isBundle = false)
    (hitems' : ∀ g ∈ t'.gear, g.isBundle = false) (count : Nat)
    (hlook : (s.variant t).look s.gear = (s.variant t').look s.gear) :
    Group.view s.gear { s.variant t with count } =
      Group.view s.gear { s.variant t' with count } := by
  have hbundles {t : Sheet} (hitems : ∀ g ∈ t.gear, g.isBundle = false) :
      ((s.variant t).loadout s.gear).filter Gear.isBundle = s.gear.filter Gear.isBundle := by
    have hselected : t.selected.filter Gear.isBundle = [] :=
      List.filter_eq_nil_iff.mpr fun g hg =>
        Bool.not_eq_true _ ▸ Sheet.isBundle_eq_false_of_mem_selected hitems g hg
    rw [hplain.loadout_variant, List.filter_append, Loadout.filter_isBundle_dropAll hitems,
      hselected, List.append_nil]
  have hpoints : (s.variant t).basePoints = (s.variant t').basePoints := by
    rw [hplain.variant_eq, hplain.variant_eq]
  refine Group.view_eq_of_faces_eq (congrArg Prod.fst hlook) rfl hpoints ?_
  refine Loadout.faces_eq_of_bag_eq (congrArg Prod.snd hlook) ?_
  exact (hbundles hitems).trans (hbundles hitems').symm

/-- Squads whose groups are shown alike are as many points. -/
theorem UpToDate.points_eq_of_view (h : s.UpToDate) (h' : s'.UpToDate) {base : Loadout}
    (hgear : s.gear = base) (hgear' : s'.gear = base)
    (hgroups : (s.groups.map (Group.view base)).Perm (s'.groups.map (Group.view base))) :
    s.points = s'.points := by
  have hpoints := hgroups.map fun v => Amount.mul v.count v.pointsEach
  rw [List.map_map, List.map_map] at hpoints
  rw [h, h', tally, tally, Amount.total_eq_clamp_sum, Amount.total_eq_clamp_sum, hgear, hgear']
  exact congrArg Amount.clamp (Amount.sum_eq_of_perm hpoints)

/-- A sheet whose clause has no plus sign offers no bundle. -/
theorem TakesItems.isBundle_eq_false (h : s.TakesItems t) : ∀ g ∈ t.gear, g.isBundle = false := by
  obtain ⟨clause, -, hplus, hread⟩ := h.written
  exact Offer.isBundle_eq_false_of_read hread hplus

/-- Where two models join groups, the groups are shown alike in either order. -/
theorem part_comm (hplain : s.LeadPlain) (ht : s.TakesItems t) (ht' : s.TakesItems t') :
    (((s.part (s.variant t)).part (s.variant t')).groups.map (Group.view s.gear)).Perm
      (((s.part (s.variant t')).part (s.variant t)).groups.map (Group.view s.gear)) := by
  have hview := view_variant hplain ht.isBundle_eq_false ht'.isBundle_eq_false 2
  exact (Group.enlist_comm hview).cons _

/-- Applying two options for any model succeeds in either order, whatever is picked on them, as long
as there are two lead models. The base gear stays, and the points are the same; and so are the
groups but for their order, each with its type, its number of models, the points of a model and the
pieces that it carries, by what they count as, read as and cost. -/
theorem equip_perModel_comm (h : Reachable x s) (hlead : 2 ≤ s.lead.count) (ht : s.TakesItems t)
    (ht' : s.TakesItems t') :
    ∃ s₁ s₂, s.perform (equipInTurn [t, t']) = (s₁, .ok ()) ∧
      s.perform (equipInTurn [t', t]) = (s₂, .ok ()) ∧ s₁.gear = s.gear ∧ s₂.gear = s.gear ∧
      s₁.points = s₂.points ∧
      (s₁.groups.map (Group.view s.gear)).Perm (s₂.groups.map (Group.view s.gear)) := by
  have hgear (t t' : Sheet) : ((s.parted t).parted t').gear = s.gear := by
    rw [gear_parted, gear_parted]
  refine ⟨_, _, perform_equipInTurn_perModel h ht ht' hlead,
    perform_equipInTurn_perModel h ht' ht hlead, hgear t t', hgear t' t, ?_⟩
  rw [parted_parted, parted_parted, parted, parted]
  -- where a selection is what the models carry already, the other one is applied alone
  cases (s.variant t).equippedLike s.lead s.gear <;>
    cases (s.variant t').equippedLike s.lead s.gear
  · have hgroups := part_comm h.leadPlain ht ht'
    exact ⟨(upToDate_refresh _).points_eq_of_view (upToDate_refresh _) rfl rfl hgroups, hgroups⟩
  · exact ⟨rfl, .refl _⟩
  · exact ⟨rfl, .refl _⟩
  · exact ⟨rfl, .refl _⟩

/-- Guards with an axe and a bow may give up both for a bow and two axes, or the axe alone for two
axes. Two models that do are equipped alike and join one group, which keeps the form that the first
of them has given it. -/
theorem equip_perModel_comm_drilled :
    let axes : Gear := .item ⟨"Axe", 2, 3, .melee⟩
    let option := "2#Axe/Bow/2*Axe-,Axe/2*Axe-"
    let s := Guards.drilled ["Axe", "Bow"] option [Guards.axe, Guards.bow] 3 54
    let t : Sheet := ⟨"2#Axe/Bow/2*Axe-",
      ⟨some 2, .anyModel, .choice [Guards.axe, Guards.bow, axes]⟩, "", [⟨1, 1⟩, ⟨2, 1⟩]⟩
    let t' : Sheet := ⟨"Axe/2*Axe-", ⟨none, .anyModel, .choice [Guards.axe, axes]⟩, "", [⟨1, 1⟩]⟩
    Reachable s.codex s ∧ 2 ≤ s.lead.count ∧ s.TakesItems t ∧ s.TakesItems t' ∧
      ∃ s₁ s₂, s.perform (equipInTurn [t, t']) = (s₁, .ok ()) ∧
        s.perform (equipInTurn [t', t]) = (s₂, .ok ()) ∧
        s₁.others = [⟨"Guards", 2, 10, [Guards.bow, axes], [Guards.axe, Guards.bow], none⟩] ∧
        s₂.others = [⟨"Guards", 2, 10, [axes], [Guards.axe], none⟩] ∧
        s₁.points = 60 ∧ s₁.points = s₂.points ∧
        (s₁.groups.map (Group.view s.gear)).Perm (s₂.groups.map (Group.view s.gear)) := by
  intro axes option s t t'
  have hreach : Reachable s.codex s :=
    ⟨.troops, "Guards", Guards.drilled ["Axe", "Bow"] option [Guards.axe, Guards.bow] 1 18,
      [.resize 3], by with_unfolding_all rfl, by with_unfolding_all rfl⟩
  have hlead : 2 ≤ s.lead.count := by decide
  have hclauses : s.clauses = ["2#Axe/Bow/2*Axe-", "Axe/2*Axe-"] := by decide
  have ht : s.TakesItems t := by
    refine ⟨⟨"2#Axe/Bow/2*Axe-", by simp [hclauses], by decide, ?_⟩, rfl, rfl, by decide⟩
    dsimp only [s, t, option, axes]
    with_unfolding_all rfl
  have ht' : s.TakesItems t' := by
    refine ⟨⟨"Axe/2*Axe-", by simp [hclauses], by decide, ?_⟩, rfl, rfl, by decide⟩
    dsimp only [s, t', option, axes]
    with_unfolding_all rfl
  obtain ⟨s₁, s₂, hfirst, hsecond, -, -, hpoints, hgroups⟩ :=
    equip_perModel_comm hreach hlead ht ht'
  have hs₁ : (s.perform (equipInTurn [t, t'])).1.others =
        [⟨"Guards", 2, 10, [Guards.bow, axes], [Guards.axe, Guards.bow], none⟩] ∧
      (s.perform (equipInTurn [t, t'])).1.points = 60 := by
    dsimp only [s, t, t', option, axes]
    with_unfolding_all exact ⟨rfl, rfl⟩
  have hs₂ : (s.perform (equipInTurn [t', t])).1.others =
      [⟨"Guards", 2, 10, [axes], [Guards.axe], none⟩] := by
    dsimp only [s, t, t', option, axes]
    with_unfolding_all rfl
  rw [hfirst] at hs₁
  rw [hsecond] at hs₂
  exact ⟨hreach, hlead, ht, ht', s₁, s₂, hfirst, hsecond, hs₁.1, hs₂, hs₁.2, hpoints, hgroups⟩

end Squad

end Muster
