import Muster.Proofs.Carving

/-!
# Shared entitlement

An option for one model in every `n` may equip no more models than its share of the squad, over all
the groups that it sets apart. Nothing records which option has set a group apart: the groups are
told by what they gain over the lead group. A selection that is only a part of the gear given up for
it gains nothing, so the groups that carry it are not counted. The share is kept to by every history
of the option if and only if no such selection goes together with another one.
-/

namespace Muster

/-! ## Selections -/

namespace Sheet

/-- The sheet with picks that the option allows. -/
def Admits (sheet t : Sheet) : Prop := Marked sheet t ∧ t.checkPicks = .ok ()

/-- A sheet with other picks has the gear it had on offer. -/
theorem Admits.gear_eq {sheet t : Sheet} (h : sheet.Admits t) : t.gear = sheet.gear := by
  rw [gear, gear, h.1.offer_eq]

end Sheet

/-- An offer for one in several models is not for any model. -/
theorem Offer.perModel_eq_false {o : Offer} (h : 1 < o.modelsPer) : o.perModel = false := by
  rw [Offer.perModel, decide_eq_false_iff_not]
  intro hreach
  rw [Offer.modelsPer, hreach] at h
  exact Nat.lt_irrefl 1 h

namespace Squad

variable {s s₀ : Squad} {sheet t : Sheet}

/-! ## Histories of one option -/

/-- What equipping a squad through one option only leads to from `s₀`: the lead group has lost
models, and each other group carries a selection, no two the same. -/
structure Served (s₀ : Squad) (sheet : Sheet) (s : Squad) : Prop where
  gear : s.gear = s₀.gear
  lead : s.lead = { s₀.lead with count := s.lead.count }
  others : ∀ g ∈ s.others, ∃ t, sheet.Admits t ∧ t.selected ≠ [] ∧
    t.selected.bag ≠ s₀.surrendered sheet ∧ g = { s₀.variant t with count := g.count }
  distinct : (s.others.map (Group.look s.gear)).Nodup
  size : s.size = s₀.size

/-- The group that is carved depends on the base gear and on the lead group without its count. -/
theorem variant_congr (hgear : s.gear = s₀.gear)
    (hlead : s.lead = { s₀.lead with count := s.lead.count }) (t : Sheet) :
    s.variant t = s₀.variant t := by
  rw [variant, variant, hgear, hlead]
  rfl

/-- Serving an option keeps a plain lead group plain. -/
theorem Served.leadPlain (h : Served s₀ sheet s) (hplain : s₀.LeadPlain) : s.LeadPlain := by
  rw [LeadPlain, h.lead]
  exact hplain

/-- A squad of one group is served by no option yet. -/
theorem served_start (hothers : s₀.others = []) : Served s₀ sheet s₀ where
  gear := rfl
  lead := rfl
  others := by
    rw [hothers]
    exact fun g hg => absurd hg List.not_mem_nil
  distinct := by
    rw [hothers]
    exact List.nodup_nil
  size := rfl

/-- Bringing the points up to date makes no difference to who is served. -/
theorem Served.refresh (h : Served s₀ sheet s) : Served s₀ sheet s.refresh :=
  ⟨h.gear, h.lead, h.others, h.distinct, h.size⟩

/-- A selection surrenders what it surrendered at first. -/
theorem Served.surrendered_eq (h : Served s₀ sheet s) (ht : sheet.Admits t) :
    s.surrendered t = s₀.surrendered sheet := by
  rw [surrendered, surrendered, h.gear, ht.gear_eq]

/-- Carving serves the option, whether it succeeds or not. -/
theorem served_carve (h : Served s₀ sheet s) (hplain : s₀.LeadPlain) (ht : sheet.Admits t)
    (hselected : t.selected ≠ []) : Served s₀ sheet (s.perform (carve t)).1 := by
  rcases carve_cases s t with hsame | ⟨_, hlike, -, leadCount, count, -, hsum, hregroup⟩
  · rw [hsame]
    exact h
  have hvariant : s.variant t = s₀.variant t := variant_congr h.gear h.lead t
  have hnew : t.selected.bag ≠ s₀.surrendered sheet := by
    intro hbag
    rw [← h.surrendered_eq ht, ← (h.leadPlain hplain).equippedLike_lead_iff, hlike] at hbag
    cases hbag
  obtain ⟨k, hk, hlook, hperm⟩ := others_regroup_perm s (s.variant t) leadCount count
  rw [hregroup]
  exact {
    gear := h.gear
    lead := by
      change { s.lead with count := leadCount } = { s₀.lead with count := leadCount }
      rw [h.lead]
    others := by
      intro g hg
      have hg' := List.mem_of_mem_filter (hperm.mem_iff.mp hg)
      rcases List.mem_cons.mp hg' with rfl | hbeside
      · rcases hk with hold | rfl
        · obtain ⟨t', ht', hselected', hnew', hcarved⟩ := h.others k hold
          refine ⟨t', ht', hselected', hnew', ?_⟩
          rw [hcarved]
        · exact ⟨t, ht, hselected, hnew, by rw [hvariant]⟩
      · exact h.others g (mem_others_of_mem_besides hbeside)
    distinct := by
      refine (hperm.map _).nodup_iff.mpr (List.Nodup.sublist (List.filter_sublist.map _) ?_)
      rw [List.map_cons]
      change (k.look s.gear :: _).Nodup
      rw [hlook]
      exact nodup_looks_besides h.distinct _
    size := by
      rw [size_eq, othersCount_regroup, ← h.size, size_eq s, othersCount_eq s (s.variant t)]
      change leadCount + _ = _
      omega }

/-- An application serves the option, whether it succeeds or not. -/
theorem served_equip (h : Served s₀ sheet s) (hplain : s₀.LeadPlain) (ht : sheet.Admits t)
    (hper : 1 < t.offer.modelsPer) : Served s₀ sheet (s.perform (equip t)).1 := by
  rcases equip_cases s hper with hsame | ⟨-, hselected, hcarve⟩
  · rw [hsame]
    exact h
  · rw [hcarve]
    exact (served_carve h hplain ht hselected).refresh

/-! ## The share is kept to -/

/-- Carving keeps to the share while all other groups are counted. -/
theorem othersCount_carve_le (hper : t.offer.perModel = false)
    (hcounted : ∀ g ∈ s.besides (s.existing? (s.variant t)), s.counts t g = true)
    (hle : s.othersCount ≤ s.size / t.offer.modelsPer) :
    (s.perform (carve t)).1.othersCount ≤ s.size / t.offer.modelsPer := by
  rcases carve_cases s t with hsame | ⟨wanted, -, htarget, leadCount, count, hcount, -, hregroup⟩
  · rw [hsame]
    exact hle
  · have htaken : s.carvedBy t (s.existing? (s.variant t)) =
        headcount (s.besides (s.existing? (s.variant t))) := by
      rw [carvedBy_eq, List.filter_eq_self.mpr hcounted]
    rw [target, hper, if_neg Bool.false_ne_true, htaken] at htarget
    dsimp only at htarget
    split at htarget
    · cases htarget
    · cases htarget
      rw [hregroup, othersCount_regroup]
      omega

/-- A selection that is only a part of what is given up for it goes together with no other one that
changes anything. -/
def Unmixed (s₀ : Squad) (sheet : Sheet) : Prop :=
  ∀ a b, sheet.Admits a → sheet.Admits b → a.selected ≠ [] → b.selected ≠ [] →
    a.selected.bag < s₀.surrendered sheet →
    b.selected.bag = s₀.surrendered sheet ∨ b.selected.bag = a.selected.bag

/-- Selections do not mix where a model gives up one piece at most. -/
theorem unmixed_of_card_le_one (h : (s₀.surrendered sheet).card ≤ 1) : Unmixed s₀ sheet := by
  intro a _ _ _ haselected _ hpart
  have hcard := Multiset.card_lt_card hpart
  have hnone : a.selected.bag.card = 0 := by omega
  exact absurd (Loadout.bag_eq_zero.mp (Multiset.card_eq_zero.mp hnone)) haselected

/-- Where selections do not mix, all groups are counted but the one that carries the selection. -/
theorem counts_of_unmixed (h : Served s₀ sheet s) (hplain : s₀.LeadPlain)
    (hunmixed : Unmixed s₀ sheet) (ht : sheet.Admits t) (hselected : t.selected ≠ [])
    (hnew : t.selected.bag ≠ s₀.surrendered sheet) :
    ∀ g ∈ s.besides (s.existing? (s.variant t)), s.counts t g = true := by
  intro g hg
  obtain ⟨t', ht', hselected', hnew', hcarved⟩ := h.others g (mem_others_of_mem_besides hg)
  have hleadPlain := h.leadPlain hplain
  have hgear : t'.gear = t.gear := by rw [ht'.gear_eq, ht.gear_eq]
  have hvariant : s.variant t' = s₀.variant t' := variant_congr h.gear h.lead t'
  have hlook : (s.variant t').look s.gear ≠ (s.variant t).look s.gear := by
    intro hlook
    have hg' : g.look s.gear = (s.variant t').look s.gear := by
      rw [hcarved, hvariant]
      rfl
    exact (List.nodup_cons.mp (nodup_looks_besides h.distinct _)).1
      (List.mem_map.mpr ⟨g, hg, hg'.trans hlook⟩)
  rw [hcarved, ← hvariant, hleadPlain.counts_variant_iff hgear, h.surrendered_eq ht']
  intro hle
  rcases hunmixed t' t ht' ht hselected' hselected (lt_of_le_of_ne hle hnew') with hwhole | hsame
  · exact hnew hwhole
  · exact hlook ((hleadPlain.look_variant_eq_iff hgear).mpr hsame.symm)

/-- An application keeps the models outside the lead within the entitlement, where selections share
it. -/
theorem othersCount_equip_le (h : Served s₀ sheet s) (hplain : s₀.LeadPlain)
    (hper : 1 < sheet.offer.modelsPer)
    (hshared : s₀.size < sheet.offer.modelsPer ∨ Unmixed s₀ sheet) (ht : sheet.Admits t)
    (hle : s.othersCount ≤ s₀.size / sheet.offer.modelsPer) :
    (s.perform (equip t)).1.othersCount ≤ s₀.size / sheet.offer.modelsPer := by
  have hoffer := ht.1.offer_eq
  rw [← hoffer] at hper hshared hle ⊢
  rcases equip_cases s hper with hsame | ⟨hsize, hselected, hcarve⟩
  · rw [hsame]
    exact hle
  rw [hcarve]
  change (s.perform (carve t)).1.othersCount ≤ _
  rw [h.size] at hsize
  have hunmixed := hshared.resolve_left (Nat.not_lt.mpr hsize)
  by_cases hnew : t.selected.bag = s₀.surrendered sheet
  · rw [← h.surrendered_eq ht, ← (h.leadPlain hplain).equippedLike_lead_iff] at hnew
    rw [perform_carve, if_pos hnew]
    exact hle
  · rw [← h.size] at hle ⊢
    exact othersCount_carve_le (Offer.perModel_eq_false hper)
      (counts_of_unmixed h hplain hunmixed ht hselected hnew) hle

/-- Applications in turn keep the models outside the lead within the entitlement, where selections
share it. -/
theorem othersCount_run_le (hplain : s₀.LeadPlain) (hper : 1 < sheet.offer.modelsPer)
    (hshared : s₀.size < sheet.offer.modelsPer ∨ Unmixed s₀ sheet) {selections : List Sheet}
    (hadmits : ∀ t ∈ selections, sheet.Admits t) (h : Served s₀ sheet s)
    (hle : s.othersCount ≤ s₀.size / sheet.offer.modelsPer) :
    (s.run (selections.map .equip)).othersCount ≤ s₀.size / sheet.offer.modelsPer := by
  induction selections generalizing s with
  | nil => exact hle
  | cons t rest ih =>
    obtain ⟨ht, hrest⟩ := List.forall_mem_cons.mp hadmits
    have hper' : 1 < t.offer.modelsPer := by rwa [ht.1.offer_eq]
    exact ih hrest (served_equip h hplain ht hper')
      (othersCount_equip_le h hplain hper hshared ht hle)

/-! ## The share is exceeded -/

/-- A selection that is applied to a squad where no group carries it and no model is counted against
the option. -/
structure Vacant (s : Squad) (t : Sheet) : Prop where
  check : t.checkPicks = .ok ()
  per : 1 < t.offer.modelsPer
  enough : t.offer.modelsPer ≤ s.size
  picked : t.selected ≠ []
  other : t.selected.bag ≠ s.surrendered t
  absent : s.existing? (s.variant t) = none
  uncounted : s.carvedBy t none = 0
  room : s.size / t.offer.modelsPer ≤ s.lead.count

/-- It is carried by the whole share. -/
theorem Vacant.equip_eq (h : s.Vacant t) (hplain : s.LeadPlain) :
    (s.perform (equip t)).1 = (s.regroup none (s.variant t)
      (s.lead.count - s.size / t.offer.modelsPer) (s.size / t.offer.modelsPer)).refresh := by
  have hroom := h.room
  have hlike : ¬ (s.variant t).equippedLike s.lead s.gear = true :=
    fun hlike => h.other ((hplain.equippedLike_lead_iff t).mp hlike)
  have hshare : 0 < s.size / t.offer.modelsPer :=
    Nat.div_pos h.enough (Nat.lt_of_succ_lt h.per)
  have hcurrent : s.currentCount none = 0 := rfl
  have htarget : s.target t none 0 = .ok (s.size / t.offer.modelsPer) := by
    rw [target, Offer.perModel_eq_false h.per, if_neg Bool.false_ne_true, h.uncounted]
    exact if_neg (Nat.not_le.mpr hshare)
  have hcarve : s.perform (carve t) = (s.regroup none (s.variant t)
      (s.lead.count - s.size / t.offer.modelsPer) (s.size / t.offer.modelsPer), .ok ()) := by
    rw [perform_carve, if_neg hlike, h.absent]
    dsimp only
    rw [hcurrent, htarget]
    dsimp only
    have hlead : ¬ (s.size / t.offer.modelsPer - 0 > 0 ∧ s.lead.count = 0) := by omega
    rw [if_neg hlead, Nat.sub_zero, Nat.min_eq_left hroom, Nat.zero_sub, Nat.add_zero,
      Nat.zero_add, Nat.sub_zero]
  rw [perform_equip_apart h.check h.picked h.enough (.inl h.per), hcarve]

/-- A selection applied where it is vacant adds its full entitlement to the models outside the
lead. -/
theorem Vacant.othersCount_eq (h : s.Vacant t) (hplain : s.LeadPlain) :
    (s.perform (equip t)).1.othersCount = s.size / t.offer.modelsPer + s.othersCount := by
  have hcount := othersCount_regroup s (s.variant t)
    (s.lead.count - s.size / t.offer.modelsPer) (s.size / t.offer.modelsPer)
  rw [h.absent] at hcount
  rw [h.equip_eq hplain]
  exact hcount

/-- A selection that is a part only of what is given up for it is vacant in a squad of one group. -/
theorem vacant_start (hothers : s₀.others = []) (hper : 1 < sheet.offer.modelsPer)
    (hsize : sheet.offer.modelsPer ≤ s₀.size) (ht : sheet.Admits t) (hselected : t.selected ≠ [])
    (hpart : t.selected.bag < s₀.surrendered sheet) : s₀.Vacant t where
  check := ht.2
  per := by rwa [ht.1.offer_eq]
  enough := by rwa [ht.1.offer_eq]
  picked := hselected
  other := by
    rw [(served_start hothers).surrendered_eq ht]
    exact hpart.ne
  absent := by
    rw [existing?, hothers]
    rfl
  uncounted := by
    rw [carvedBy_eq, besides, hothers]
    rfl
  room := by
    rw [size_eq, othersCount_eq_zero hothers]
    exact Nat.div_le_self _ _

/-- After a selection that gains nothing, another one finds no model counted against the option. -/
theorem vacant_next (h : Served s₀ sheet s) (hplain : s₀.LeadPlain)
    (hper : 1 < sheet.offer.modelsPer) (hsize : sheet.offer.modelsPer ≤ s₀.size) {a b : Sheet}
    (ha : sheet.Admits a) (hb : sheet.Admits b) (hbselected : b.selected ≠ [])
    (hpart : a.selected.bag < s₀.surrendered sheet)
    (hnew : b.selected.bag ≠ s₀.surrendered sheet) (hother : b.selected.bag ≠ a.selected.bag)
    (hcarved : ∀ g ∈ s.others, ∃ n, g = { s.variant a with count := n })
    (hcount : s.othersCount = s₀.size / sheet.offer.modelsPer) : s.Vacant b := by
  have hplain' := h.leadPlain hplain
  have hgear : a.gear = b.gear := by rw [ha.gear_eq, hb.gear_eq]
  exact {
    check := hb.2
    per := by rwa [hb.1.offer_eq]
    enough := by rwa [hb.1.offer_eq, h.size]
    picked := hbselected
    other := by rwa [h.surrendered_eq hb]
    absent := by
      refine existing?_eq_none_iff.mpr fun g hg hlook => ?_
      obtain ⟨n, rfl⟩ := hcarved g hg
      exact hother ((hplain'.look_variant_eq_iff hgear).mp hlook).symm
    uncounted := by
      have hnone : s.others.filter (s.counts b) = [] := by
        refine List.filter_eq_nil_iff.mpr fun g hg hcounts => ?_
        obtain ⟨n, rfl⟩ := hcarved g hg
        rw [hplain'.counts_variant_iff hgear, h.surrendered_eq ha] at hcounts
        exact hcounts hpart.le
      rw [carvedBy_eq, besides, hnone]
      rfl
    room := by
      -- two shares are no more than the whole squad, as a share is half of it at most
      have hhalf : s₀.size / sheet.offer.modelsPer ≤ s₀.size / 2 :=
        Nat.div_le_div_left hper (by omega)
      have hsum := size_eq s
      rw [h.size] at hsum
      rw [hb.1.offer_eq, h.size]
      omega }

/-- A selection that gains nothing and then another one are each carried by the whole share. -/
theorem othersCount_run_mixed (hplain : s₀.LeadPlain) (hothers : s₀.others = [])
    (hper : 1 < sheet.offer.modelsPer) (hsize : sheet.offer.modelsPer ≤ s₀.size) {a b : Sheet}
    (ha : sheet.Admits a) (hb : sheet.Admits b) (haselected : a.selected ≠ [])
    (hbselected : b.selected ≠ []) (hpart : a.selected.bag < s₀.surrendered sheet)
    (hnew : b.selected.bag ≠ s₀.surrendered sheet) (hother : b.selected.bag ≠ a.selected.bag) :
    (s₀.run [.equip a, .equip b]).othersCount =
      s₀.size / sheet.offer.modelsPer + s₀.size / sheet.offer.modelsPer := by
  have hfirst := vacant_start hothers hper hsize ha haselected hpart
  have hserved := served_equip (served_start hothers) hplain ha hfirst.per
  have hcarved : ∀ g ∈ (s₀.perform (equip a)).1.others, ∃ n,
      g = { s₀.variant a with count := n } := by
    intro g hg
    rw [hfirst.equip_eq hplain] at hg
    have hg' := List.mem_of_mem_filter hg
    rw [hothers] at hg'
    exact ⟨_, List.mem_singleton.mp hg'⟩
  have hcount : (s₀.perform (equip a)).1.othersCount = s₀.size / sheet.offer.modelsPer := by
    rw [hfirst.othersCount_eq hplain, othersCount_eq_zero hothers, ha.1.offer_eq, Nat.add_zero]
  change ((s₀.perform (equip a)).1.perform (equip b)).1.othersCount = _
  rw [← variant_congr hserved.gear hserved.lead a] at hcarved
  have hsecond := vacant_next hserved hplain hper hsize ha hb hbselected hpart hnew hother
    hcarved hcount
  rw [hsecond.othersCount_eq (hserved.leadPlain hplain), hcount, hb.1.offer_eq, hserved.size]

/-! ## The law -/

/-- A mustered squad is one plain group. -/
theorem leadPlain_of_muster {x : Codex} {role : Role} {unit : String}
    (h : muster x role unit = .ok s₀) : s₀.LeadPlain ∧ s₀.others = [] := by
  obtain ⟨t, -, htemplate⟩ := exists_of_muster h
  obtain ⟨gear, -, rfl⟩ := exists_of_ofTemplate htemplate
  exact ⟨⟨rfl, rfl⟩, rfl⟩

/-- A resize leaves one plain group one plain group. -/
theorem leadPlain_of_resize {size : Nat} (hplain : s₀.LeadPlain) (hothers : s₀.others = [])
    (h : s₀.perform (resize size) = (s, .ok ())) : s.LeadPlain ∧ s.others = [] := by
  obtain ⟨-, -, rfl⟩ := perform_resize_eq_ok_iff.mp h
  exact ⟨hplain, hothers⟩

/-- An option of a new squad in any size keeps to its share in all histories if and only if the
squad is too small for it or its selections do not mix. -/
theorem othersCount_run_le_share_iff {x : Codex} {role : Role} {unit : String} {size : Nat}
    (h : muster x role unit = .ok s₀) (hsize : s₀.perform (resize size) = (s, .ok ()))
    (hper : 1 < sheet.offer.modelsPer) :
    (∀ selections : List Sheet, (∀ t ∈ selections, sheet.Admits t) →
        (s.run (selections.map .equip)).othersCount ≤ s.size / sheet.offer.modelsPer) ↔
      s.size < sheet.offer.modelsPer ∨ s.Unmixed sheet := by
  obtain ⟨hplain₀, hothers₀⟩ := leadPlain_of_muster h
  obtain ⟨hplain, hothers⟩ := leadPlain_of_resize hplain₀ hothers₀ hsize
  constructor
  · intro hkept
    by_cases henough : s.size < sheet.offer.modelsPer
    · exact .inl henough
    refine .inr fun a b ha hb haselected hbselected hpart => ?_
    by_contra hmixed
    obtain ⟨hnew, hother⟩ := not_or.mp hmixed
    have henough' := Nat.le_of_not_lt henough
    have hshare : 0 < s.size / sheet.offer.modelsPer := Nat.div_pos henough' (by omega)
    have hle := hkept [a, b] (by simp [ha, hb])
    have heq := othersCount_run_mixed hplain hothers hper henough' ha hb haselected hbselected
      hpart hnew hother
    change (s.run [.equip a, .equip b]).othersCount ≤ _ at hle
    omega
  · intro hshared selections hadmits
    refine othersCount_run_le hplain hper hshared hadmits (served_start hothers) ?_
    rw [othersCount_eq_zero hothers]
    exact Nat.zero_le _

/-- Guards with an axe as base gear keep to the share of the option. -/
theorem guards_keep_share :
    muster (Guards.codex ["Axe"]) .troops "Guards" =
        .ok (Guards.squad ["Axe"] [Guards.axe] 1 13) ∧
      (Guards.squad ["Axe"] [Guards.axe] 1 13).perform (resize 4) =
        (Guards.squad ["Axe"] [Guards.axe] 4 52, .ok ()) ∧
      ∀ selections : List Sheet, (∀ t ∈ selections, (Guards.sheet []).Admits t) →
        ((Guards.squad ["Axe"] [Guards.axe] 4 52).run (selections.map .equip)).othersCount ≤
          (Guards.squad ["Axe"] [Guards.axe] 4 52).size / 2 := by
  have hmuster : muster (Guards.codex ["Axe"]) .troops "Guards" =
      .ok (Guards.squad ["Axe"] [Guards.axe] 1 13) := by with_unfolding_all rfl
  have hresize : (Guards.squad ["Axe"] [Guards.axe] 1 13).perform (resize 4) =
      (Guards.squad ["Axe"] [Guards.axe] 4 52, .ok ()) := by with_unfolding_all rfl
  have hunmixed : (Guards.squad ["Axe"] [Guards.axe] 4 52).Unmixed (Guards.sheet []) :=
    unmixed_of_card_le_one (by decide)
  exact ⟨hmuster, hresize, (othersCount_run_le_share_iff hmuster hresize (by decide)).mpr
    (.inr hunmixed)⟩

/-- Guards with both weapons as base gear are set apart twice: four of four, where the option is for
two. -/
theorem guards_exceed_share :
    muster (Guards.codex ["Axe", "Bow"]) .troops "Guards" =
        .ok (Guards.squad ["Axe", "Bow"] [Guards.axe, Guards.bow] 1 18) ∧
      (Guards.squad ["Axe", "Bow"] [Guards.axe, Guards.bow] 1 18).perform (resize 4) =
        (Guards.squad ["Axe", "Bow"] [Guards.axe, Guards.bow] 4 72, .ok ()) ∧
      (Guards.squad ["Axe", "Bow"] [Guards.axe, Guards.bow] 4 72).freshSheets =
        .ok [Guards.sheet []] ∧
      (Guards.sheet []).Admits (Guards.sheet [⟨0, 1⟩]) ∧
      (Guards.sheet []).Admits (Guards.sheet [⟨1, 1⟩]) ∧
      (Guards.squad ["Axe", "Bow"] [Guards.axe, Guards.bow] 4 72).size /
          (Guards.sheet []).offer.modelsPer = 2 ∧
      ((Guards.squad ["Axe", "Bow"] [Guards.axe, Guards.bow] 4 72).run
        [.equip (Guards.sheet [⟨0, 1⟩]), .equip (Guards.sheet [⟨1, 1⟩])]).othersCount = 4 := by
  refine ⟨?_, ?_, ?_, ?_, ?_, ?_, ?_⟩
  · with_unfolding_all rfl
  · with_unfolding_all rfl
  · with_unfolding_all rfl
  · exact ⟨.mark (.pick (.index 0) .refuse) .unmarked rfl, rfl⟩
  · exact ⟨.mark (.pick (.index 1) .refuse) .unmarked rfl, rfl⟩
  · rfl
  · with_unfolding_all rfl

end Squad

end Muster
