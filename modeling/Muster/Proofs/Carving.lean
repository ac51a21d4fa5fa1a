import Mathlib.Data.List.Perm.Basic
import Muster.Proofs.Bags
import Muster.Proofs.Failure

/-!
# Setting models apart

An option for some models moves models between the lead group and the group that carries the
selection. The lemmas here say what that group carries, which other groups are counted against the
option, and what the moves do to the numbers of models.
-/

namespace Muster

namespace Squad

variable {s s' : Squad} {g : Group}

/-! ## The place of a group -/

/-- The groups besides the lead and the one at `existing`. -/
def besides (s : Squad) : Option Nat → List Group
  | some i => s.others.eraseIdx i
  | none => s.others

/-- The order of groups makes no difference to the number of their models. -/
theorem headcount_eq_of_perm {gs hs : List Group} (h : gs.Perm hs) :
    headcount gs = headcount hs :=
  Amount.sum_eq_of_perm (h.map Group.count)

/-- The models of some groups are those of the first and those of the rest. -/
theorem headcount_cons (g : Group) (gs : List Group) :
    headcount (g :: gs) = g.count + headcount gs := rfl

/-- Groups without models do not count. -/
theorem headcount_filter (gs : List Group) :
    headcount (gs.filter fun h => h.count > 0) = headcount gs := by
  induction gs with
  | nil => rfl
  | cons g gs ih =>
    rw [List.filter_cons, headcount_cons]
    split
    next => rw [headcount_cons, ih]
    next h =>
      have hzero : g.count = 0 := by simpa using h
      rw [ih, hzero, Nat.zero_add]

/-- Some of the groups have no more models than all of them. -/
theorem headcount_le_of_sublist {gs hs : List Group} (h : gs.Sublist hs) :
    headcount gs ≤ headcount hs := by
  induction h with
  | slnil => exact Nat.le_refl _
  | cons g _ ih => exact Nat.le_trans ih (Nat.le_add_left ..)
  | cons_cons g _ ih => exact Nat.add_le_add_left ih g.count

/-- The groups are the one in its place and those besides it. -/
theorem others_perm {i : Nat} (h : s.existing? g = some i) :
    ∃ k ∈ s.others, k.look s.gear = g.look s.gear ∧ k.count = s.currentCount (some i) ∧
      s.others.Perm (k :: s.besides (some i)) := by
  obtain ⟨hi, hlike, -⟩ := List.findIdx?_eq_some_iff_getElem.mp h
  refine ⟨s.others[i], List.getElem_mem hi, Group.equippedLike_iff.mp hlike, ?_,
    (List.getElem_cons_eraseIdx_perm hi).symm⟩
  simp [currentCount, hi]

/-- No group is found exactly where no other group has the look. -/
theorem existing?_eq_none_iff :
    s.existing? g = none ↔ ∀ k ∈ s.others, k.look s.gear ≠ g.look s.gear := by
  rw [existing?, List.findIdx?_eq_none_iff]
  refine forall₂_congr fun k _ => ?_
  rw [← Bool.not_eq_true, Group.equippedLike_iff]

/-- The place of a group can be told from what the groups look like. -/
theorem existing?_eq_findIdx? (s : Squad) (g : Group) :
    s.existing? g =
      (s.others.map (Group.look s.gear)).findIdx? fun look => look = g.look s.gear := by
  rw [existing?, List.findIdx?_map]
  congr 1
  funext k
  exact Bool.eq_iff_iff.mpr (Group.equippedLike_iff.trans decide_eq_true_iff.symm)

/-- The models outside the lead are those of the group found and those besides it. -/
theorem othersCount_eq (s : Squad) (g : Group) :
    s.othersCount = s.currentCount (s.existing? g) + headcount (s.besides (s.existing? g)) := by
  change headcount s.others = _
  cases h : s.existing? g with
  | none => exact (Nat.zero_add _).symm
  | some i =>
    obtain ⟨k, -, -, hcount, hperm⟩ := others_perm h
    rw [headcount_eq_of_perm hperm, headcount_cons, hcount]

/-- Only the count of one group changes, which may be a new one, and groups without models go. -/
theorem others_regroup_perm (s : Squad) (g : Group) (leadCount count : Nat) :
    ∃ k, (k ∈ s.others ∨ k = g) ∧ k.look s.gear = g.look s.gear ∧
      (s.regroup (s.existing? g) g leadCount count).others.Perm
        (({ k with count } :: s.besides (s.existing? g)).filter fun h => h.count > 0) := by
  cases h : s.existing? g with
  | none => exact ⟨g, .inr rfl, rfl, (List.perm_append_singleton _ _).filter _⟩
  | some i =>
    obtain ⟨hi, hlike, -⟩ := List.findIdx?_eq_some_iff_getElem.mp h
    refine ⟨s.others[i], .inl (List.getElem_mem hi), Group.equippedLike_iff.mp hlike, ?_⟩
    have hmod : i < (s.others.modify i fun h => { h with count }).length := by
      rwa [List.length_modify]
    have hperm := List.getElem_cons_eraseIdx_perm hmod
    rw [List.getElem_modify_eq, List.eraseIdx_modify_of_eq] at hperm
    exact hperm.symm.filter _

/-- After groups are written back, the models outside the lead are the new count and those
besides. -/
theorem othersCount_regroup (s : Squad) (g : Group) (leadCount count : Nat) :
    (s.regroup (s.existing? g) g leadCount count).othersCount =
      count + headcount (s.besides (s.existing? g)) := by
  obtain ⟨k, -, -, hperm⟩ := others_regroup_perm s g leadCount count
  change headcount _ = _
  rw [headcount_eq_of_perm hperm, headcount_filter, headcount_cons]

/-- Without other groups there are no models outside the lead. -/
theorem othersCount_eq_zero (h : s.others = []) : s.othersCount = 0 := by
  rw [othersCount, h]
  rfl

/-- A squad is its lead group and the models outside it. -/
theorem size_eq (s : Squad) : s.size = s.lead.count + s.othersCount := rfl

/-- The groups besides one are other groups. -/
theorem mem_others_of_mem_besides {existing : Option Nat} (h : g ∈ s.besides existing) :
    g ∈ s.others := by
  cases existing with
  | none => exact h
  | some i => exact List.mem_of_mem_eraseIdx h

/-- Where no two groups look alike, none besides the one in the place of `g` looks like `g`. -/
theorem nodup_looks_besides (hnodup : (s.others.map (Group.look s.gear)).Nodup) (g : Group) :
    (g.look s.gear :: (s.besides (s.existing? g)).map (Group.look s.gear)).Nodup := by
  cases h : s.existing? g with
  | none =>
    refine List.nodup_cons.mpr ⟨?_, hnodup⟩
    intro hmem
    obtain ⟨k, hk, hlook⟩ := List.mem_map.mp hmem
    exact existing?_eq_none_iff.mp h k hk hlook
  | some i =>
    obtain ⟨k, -, hlook, -, hperm⟩ := others_perm h
    have hall := (hperm.map (Group.look s.gear)).nodup_iff.mp hnodup
    rwa [List.map_cons, hlook] at hall

/-! ## What the group carries -/

variable {t : Sheet}

/-- Without gear of its own a group gives up base gear only. -/
theorem giveUp_eq (carried : Loadout) (piece : Gear) (hg : g.gear = []) :
    g.giveUp carried piece =
      if carried.carries piece then { g with exchanged := g.exchanged ++ [piece] } else g := by
  have hnone : ¬ g.gear.carries piece = true := by
    rw [hg]
    exact Bool.false_ne_true
  rw [Group.giveUp, if_neg hnone]

/-- Giving up pieces in turn exchanges those that are carried, in the order they are named. -/
theorem foldl_giveUp (carried pieces : Loadout) (hg : g.gear = []) :
    pieces.foldl (Group.giveUp carried) g =
      { g with exchanged := g.exchanged ++ pieces.filter carried.carries } := by
  induction pieces generalizing g with
  | nil => rw [List.foldl_nil, List.filter_nil, List.append_nil]
  | cons piece rest ih =>
    rw [List.foldl_cons, giveUp_eq carried piece hg, List.filter_cons]
    split
    · have hmore : { g with exchanged := g.exchanged ++ [piece] }.gear = [] := hg
      rw [ih hmore, List.append_assoc]
      rfl
    · exact ih hg

/-- The lead group carries the base gear and nothing else. -/
def LeadPlain (s : Squad) : Prop := s.lead.gear = [] ∧ s.lead.exchanged = []

/-- A lead group without changes carries the base gear. -/
theorem LeadPlain.loadout_eq (h : s.LeadPlain) : s.lead.loadout s.gear = s.gear := by
  rw [Group.loadout, h.1, h.2, List.append_nil]
  rfl

/-- The group that is carved from a plain lead exchanges what it carries of the offer and has what
is selected. -/
theorem LeadPlain.variant_eq (h : s.LeadPlain) (t : Sheet) :
    s.variant t = { s.lead with
      count := 0
      exchanged := t.gear.filter s.gear.carries
      gear := t.selected } := by
  rw [variant, foldl_giveUp _ _ (show { s.lead with count := 0 }.gear = [] from h.1),
    h.loadout_eq]
  simp only [h.1, h.2, List.nil_append]

/-- What a model with the base gear gives up for the option: the part of the offer that it
carries. -/
def surrendered (s : Squad) (t : Sheet) : Multiset Likeness := s.gear.bag ∩ t.gear.bag

/-- The group that is carved carries the base gear without what it surrenders, and what is
selected. -/
theorem LeadPlain.bag_loadout_variant (h : s.LeadPlain) (t : Sheet) :
    ((s.variant t).loadout s.gear).bag = s.gear.bag - s.surrendered t + t.selected.bag := by
  rw [Group.bag_loadout, h.variant_eq, Loadout.bag_sub_bag_filter, surrendered, Multiset.sub_inter]

/-- The lead group keeps its gear if and only if what it gives up is what it takes. -/
theorem LeadPlain.equippedLike_lead_iff (h : s.LeadPlain) (t : Sheet) :
    (s.variant t).equippedLike s.lead s.gear = true ↔ t.selected.bag = s.surrendered t := by
  have hle : s.surrendered t ≤ s.gear.bag := Multiset.inter_le_left
  have hback : s.gear.bag - s.surrendered t + s.surrendered t = s.gear.bag :=
    Multiset.sub_add_cancel hle
  have hkind : (s.variant t).kind = s.lead.kind := by rw [h.variant_eq]
  rw [Group.equippedLike_iff, Group.look, Group.look, Prod.mk.injEq, h.bag_loadout_variant,
    h.loadout_eq]
  constructor
  · rintro ⟨-, hbag⟩
    exact add_left_cancel (hbag.trans hback.symm)
  · intro hbag
    rw [hbag]
    exact ⟨hkind, hback⟩

/-- Groups carved for two selections from one offer look alike if and only if the selections do. -/
theorem LeadPlain.look_variant_eq_iff (h : s.LeadPlain) {t t' : Sheet} (hgear : t.gear = t'.gear) :
    (s.variant t).look s.gear = (s.variant t').look s.gear ↔ t.selected.bag = t'.selected.bag := by
  have hkind : (s.variant t).kind = (s.variant t').kind := by rw [h.variant_eq, h.variant_eq]
  have hsame : s.surrendered t = s.surrendered t' := by rw [surrendered, surrendered, hgear]
  rw [Group.look, Group.look, Prod.mk.injEq, h.bag_loadout_variant, h.bag_loadout_variant, hsame]
  constructor
  · rintro ⟨-, hbag⟩
    exact add_left_cancel hbag
  · intro hbag
    rw [hbag]
    exact ⟨hkind, rfl⟩

/-- A carved group gains nothing if and only if the selection is part of what is given up. -/
theorem LeadPlain.gainedOver_eq_nil_iff (h : s.LeadPlain) (t : Sheet) (n : Nat) :
    { s.variant t with count := n }.gainedOver s.lead s.gear = [] ↔
      t.selected.bag ≤ s.surrendered t := by
  have hle : s.surrendered t ≤ s.gear.bag := Multiset.inter_le_left
  have hback : s.gear.bag - s.surrendered t + s.surrendered t = s.gear.bag :=
    Multiset.sub_add_cancel hle
  have hloadout : { s.variant t with count := n }.loadout s.gear = (s.variant t).loadout s.gear :=
    rfl
  have hcancel : s.gear.bag - s.surrendered t + t.selected.bag ≤
      s.gear.bag - s.surrendered t + s.surrendered t ↔ t.selected.bag ≤ s.surrendered t :=
    Multiset.add_le_add_iff_left
  rw [hback] at hcancel
  rw [Group.gainedOver_eq_nil_iff, hloadout, h.bag_loadout_variant, h.loadout_eq]
  exact hcancel

/-- What a carved group gains over the lead group comes from the selection. -/
theorem LeadPlain.mem_selected_of_gained (h : s.LeadPlain) (t : Sheet) {piece : Gear} {n : Nat}
    (hmem : piece ∈ { s.variant t with count := n }.gainedOver s.lead s.gear) :
    piece ∈ t.selected := by
  let left := s.gear.dropAll (t.gear.filter s.gear.carries)
  have hloadout : { s.variant t with count := n }.loadout s.gear = left ++ t.selected := by
    rw [h.variant_eq]
    rfl
  have hleft : left.minus s.gear = [] := by
    rw [Loadout.minus_eq_nil_iff, Loadout.bag_dropAll]
    exact Multiset.sub_le_self _ _
  rw [Group.gainedOver, hloadout, h.loadout_eq, Loadout.minus_append, hleft] at hmem
  exact Loadout.mem_of_mem_minus hmem

/-! ## Which groups are counted -/

/-- More of a piece has the name of the piece. -/
theorem name_times (piece : Gear) (factor : Nat) : (piece.times factor).name = piece.name := by
  cases piece <;> rfl

/-- A selected piece has the name of a piece on offer. -/
theorem name_of_mem_selected {piece : Gear} (h : piece ∈ t.selected) :
    piece.name ∈ t.gear.map Gear.name := by
  obtain ⟨p, -, hp⟩ := List.mem_filterMap.mp h
  obtain ⟨offered, hoffered, rfl⟩ := Option.map_eq_some_iff.mp hp
  have hmem : offered ∈ t.gear := List.mem_of_getElem? hoffered
  have hname : (if p.count > 1 then offered.times p.count else offered).name = offered.name := by
    split
    · exact name_times _ _
    · rfl
  rw [hname]
  exact List.mem_map_of_mem hmem

/-- Whether the option counts the models of a group as set apart by it. -/
def counts (s : Squad) (t : Sheet) (g : Group) : Bool :=
  g.kind == s.lead.kind &&
    (g.gainedOver s.lead s.gear).any fun piece => (t.gear.map Gear.name).contains piece.name

/-- The models that carry something of an option are those of the groups besides that count for
it. -/
theorem carvedBy_eq (s : Squad) (t : Sheet) (existing : Option Nat) :
    s.carvedBy t existing = headcount ((s.besides existing).filter (s.counts t)) := by
  cases existing <;> rfl

/-- A group that an option has set apart is counted unless it gains nothing. -/
theorem LeadPlain.counts_variant_iff (h : s.LeadPlain) {t t' : Sheet} (hgear : t'.gear = t.gear)
    (n : Nat) :
    s.counts t { s.variant t' with count := n } = true ↔ ¬ t'.selected.bag ≤ s.surrendered t' := by
  have hkind : { s.variant t' with count := n }.kind = s.lead.kind := by rw [h.variant_eq]
  rw [← h.gainedOver_eq_nil_iff t' n, counts, hkind, beq_self_eq_true, Bool.true_and,
    List.any_eq_true]
  constructor
  · rintro ⟨piece, hpiece, -⟩ hnil
    rw [hnil] at hpiece
    cases hpiece
  · intro hne
    obtain ⟨piece, hpiece⟩ := List.exists_mem_of_ne_nil _ hne
    have hname := name_of_mem_selected (h.mem_selected_of_gained t' hpiece)
    rw [hgear] at hname
    exact ⟨piece, hpiece, List.contains_iff_mem.mpr hname⟩

/-! ## What carving does -/

/-- What a carving that succeeds leaves behind. -/
inductive Carved (s : Squad) (t : Sheet) : Squad → Prop where
  /-- the models carry the selection already -/
  | kept : (s.variant t).equippedLike s.lead s.gear = true → Carved s t s
  /-- models move, as far as there are any, until the group that carries the selection has the
  number that it is to have -/
  | regrouped {existing : Option Nat} {current target moved returned : Nat} :
      (s.variant t).equippedLike s.lead s.gear = false →
      existing = s.existing? (s.variant t) → current = s.currentCount existing →
      s.target t existing current = .ok target →
      moved = min (target - current) s.lead.count → returned = current - target →
      (current < target → 0 < moved) →
      Carved s t (s.regroup existing (s.variant t) (s.lead.count - moved + returned)
        (current + moved - returned))

/-- A carving that succeeds does what carving means. -/
theorem carved_of_ok (h : s.perform (carve t) = (s', .ok ())) : Carved s t s' := by
  rw [perform_carve] at h
  split at h
  next hlike =>
    cases h
    exact .kept hlike
  next hlike =>
    dsimp only at h
    split at h
    next => cases h
    next target htarget =>
      split at h
      next => cases h
      next hlead =>
        cases h
        refine .regrouped (Bool.not_eq_true _ ▸ hlike) rfl rfl htarget rfl rfl ?_
        omega

/-- Carving leaves the squad as it is, or brings the group that carries the selection to the number
that it is to have, as far as there are lead models. -/
theorem carve_cases (s : Squad) (t : Sheet) :
    (s.perform (carve t)).1 = s ∨
      ∃ target, (s.variant t).equippedLike s.lead s.gear = false ∧
        s.target t (s.existing? (s.variant t)) (s.currentCount (s.existing? (s.variant t))) =
          .ok target ∧
        ∃ leadCount count, count ≤ target ∧
          leadCount + count = s.lead.count + s.currentCount (s.existing? (s.variant t)) ∧
          (s.perform (carve t)).1 =
            s.regroup (s.existing? (s.variant t)) (s.variant t) leadCount count := by
  rcases hcarve : s.perform (carve t) with ⟨s', _ | _⟩
  · exact .inl (carve_failed hcarve)
  · cases carved_of_ok hcarve with
    | kept => exact .inl rfl
    | regrouped hlike hexisting hcurrent htarget =>
      subst hexisting hcurrent
      exact .inr ⟨_, hlike, htarget, _, _, by omega, by omega, rfl⟩

/-! ## What equipping does -/

/-- Whether an option is for some models only, which it sets apart from the others. -/
def SetsApart (s : Squad) (t : Sheet) : Prop :=
  t.offer.modelsPer > 1 ∨ t.offer.perModel = true ∧ s.size > 1

instance (s : Squad) (t : Sheet) : Decidable (s.SetsApart t) :=
  inferInstanceAs (Decidable (_ ∨ _))

/-- What applying an option leaves behind when it succeeds. -/
inductive Equipped (s : Squad) (t : Sheet) : Squad → Prop where
  /-- nothing is picked -/
  | unpicked : t.selected = [] → Equipped s t s
  | apart {s' : Squad} : t.selected ≠ [] → s.SetsApart t → s.perform (carve t) = (s', .ok ()) →
      Equipped s t s'.refresh
  | whole : t.selected ≠ [] → ¬ s.SetsApart t → Equipped s t (s.equipAll t).refresh

/-- An application that succeeds does what equipping means, in a squad large enough for the
offer. -/
theorem equipped_of_ok (h : s.perform (equip t) = (s', .ok ())) :
    t.offer.modelsPer ≤ s.size ∧ Equipped s t s' := by
  rw [perform_equip] at h
  split at h
  next => cases h
  next =>
    dsimp only at h
    split at h
    next => cases h
    next hsize =>
      refine ⟨Nat.le_of_not_lt hsize, ?_⟩
      split at h
      next hselected =>
        cases h
        exact .unpicked (List.isEmpty_iff.mp hselected)
      next hselected =>
        have hpicked : t.selected ≠ [] := fun hnil => hselected (List.isEmpty_iff.mpr hnil)
        split at h
        next happart =>
          split at h
          next s' hcarve =>
            cases h
            exact .apart hpicked happart hcarve
          next => cases h
        next hwhole =>
          cases h
          exact .whole hpicked hwhole

/-- Only picks that the option allows are applied. -/
theorem checkPicks_of_equip_ok (h : s.perform (equip t) = (s', .ok ())) :
    t.checkPicks = .ok () := by
  rw [perform_equip] at h
  split at h
  next => cases h
  next hcheck => exact hcheck

/-- What is picked on an option for some models is carved. -/
theorem perform_equip_apart (hcheck : t.checkPicks = .ok ()) (hpicked : t.selected ≠ [])
    (henough : t.offer.modelsPer ≤ s.size) (happart : s.SetsApart t) :
    s.perform (equip t) =
      match s.perform (carve t) with
      | (s', .ok ()) => (s'.refresh, .ok ())
      | (s', .error e) => (s', .error e) := by
  have hsome : ¬ t.selected.isEmpty = true := fun h => hpicked (List.isEmpty_iff.mp h)
  rw [perform_equip, hcheck]
  dsimp only
  rw [if_neg (Nat.not_lt.mpr henough), if_neg hsome]
  exact if_pos happart

/-- An option for a number of models carves, if there are enough models and something is picked. -/
theorem equip_cases (s : Squad) (hper : 1 < t.offer.modelsPer) :
    (s.perform (equip t)).1 = s ∨
      (t.offer.modelsPer ≤ s.size ∧ t.selected ≠ [] ∧
        (s.perform (equip t)).1 = (s.perform (carve t)).1.refresh) := by
  rcases hequip : s.perform (equip t) with ⟨s', _ | _⟩
  · exact .inl (equip_failed hequip)
  · obtain ⟨hsize, hequipped⟩ := equipped_of_ok hequip
    cases hequipped with
    | unpicked => exact .inl rfl
    | apart hselected _ hcarve => exact .inr ⟨hsize, hselected, by rw [hcarve]⟩
    | whole _ hwhole => exact absurd (.inl hper) hwhole

end Squad

end Muster
