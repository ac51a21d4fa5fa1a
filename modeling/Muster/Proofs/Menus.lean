import Muster.Proofs.Edits
import Muster.Proofs.Exchange

/-!
# Menus

The options of a squad are read once, against the base gear of that moment, and kept until the squad
is reset. What is shown of them is not kept: it is made of the offers, the picks and the base gear of
the moment when it is shown, and the offers are those of the clauses, whenever they were read. So the
menu is always the one that options read anew would make.

Picking changes nothing but picks. An edit that lists and picks, and is then given up, is therefore
where it was before, and finds the menu that it has found the first time.
-/

namespace Muster

/-- Where one entry is replaced by another that looks the same, the list looks the same. -/
theorem map_set_of_eq {f : α → β} {l : List α} {i : Nat} {a b : α} (hat : l[i]? = some a)
    (h : f b = f a) : (l.set i b).map f = l.map f := by
  have hmap : (l.map f)[i]? = some (f a) := by rw [List.getElem?_map, hat, Option.map_some]
  obtain ⟨hi, hget⟩ := List.getElem?_eq_some_iff.mp hmap
  rw [List.map_set, h, ← hget, List.set_getElem_self]

/-- The offers that the clauses of a unit make, or the first clause that cannot be read. -/
def Codex.offers (x : Codex) (u : UnitTemplate) : Except SquadError (List Offer) :=
  (u.options.flatMap Offer.clauses).mapM fun clause =>
    (Offer.read x.arsenal clause).mapError (.offer u.name clause)

/-- What is shown of a sheet comes from the offer and the picks. -/
theorem Sheet.listing_eq {t t' : Sheet} (h : t.offer = t'.offer) (index : Nat) (b : Bearer) :
    t.listing index b = { t' with picks := t.picks }.listing index b := by
  obtain ⟨source, offer, header, picks⟩ := t
  subst h
  rfl

namespace Squad

variable {x : Codex} {u : UnitTemplate} {s s' : Squad} {sheets fresh : List Sheet}

/-- What listing the options shows, or why they cannot be read. -/
def menu (s : Squad) : Except SquadError (List Listing) :=
  (s.perform ensureSheets).2.map fun _ => (s.perform ensureSheets).1.listings

/-- What every clause, read anew, shows to the squad as it stands, with the picks that are there. -/
def freshMenu (s : Squad) : Except SquadError (List Listing) :=
  s.freshSheets.map fun sheets =>
    sheets.zipIdx.map fun (sheet, index) =>
      { sheet with picks := s.picksOf index }.listing index s.bearer

/-! ## Offers that are kept -/

/-- The offers are those of the clauses, whatever the squad carries. -/
theorem map_offer_freshSheets (s : Squad) :
    s.freshSheets.map (List.map Sheet.offer) = s.codex.offers s.template := by
  rw [freshSheets, map_mapM, Codex.offers, clauses]
  congr 1
  funext clause
  rw [Sheet.read]
  cases Offer.read s.codex.arsenal clause <;> rfl

/-- The sheets that are kept hold the offers of the clauses, one by one. -/
def HoldsOffers (x : Codex) (u : UnitTemplate) (s : Squad) : Prop :=
  ∀ sheets, s.sheets = some sheets → x.offers u = .ok (sheets.map Sheet.offer)

/-- A squad that has read no sheets holds no offers but those of the template. -/
theorem HoldsOffers.of_none (h : s.sheets = none) : HoldsOffers x u s := by
  intro sheets hsheets
  rw [h] at hsheets
  cases hsheets

/-- Whether a squad holds the offers of a template depends on its sheets. -/
theorem HoldsOffers.of_same (h : HoldsOffers x u s) (hsame : s'.sheets = s.sheets) :
    HoldsOffers x u s' := by
  intro sheets hsheets
  exact h sheets (hsame ▸ hsheets)

/-- Equipping keeps the sheets. -/
theorem sheets_of_equipped {t : Sheet} (h : Equipped s t s') : s'.sheets = s.sheets := by
  cases h with
  | unpicked => rfl
  | apart _ _ hcarve =>
    have hframe := reequipped_carve s t
    rw [hcarve] at hframe
    exact hframe.sheets_eq
  | whole => exact (reequipped_equipAll s t).sheets_eq

/-- Every step keeps the offers that have been read. -/
theorem HoldsOffers.step (hstanding : Standing x u s) (h : HoldsOffers x u s)
    (hstep : Step s s') : HoldsOffers x u s' := by
  cases hstep with
  | read hfresh =>
    intro sheets hsheets
    cases hsheets
    have hoffers := map_offer_freshSheets s
    rw [hfresh, hstanding.codex, hstanding.template] at hoffers
    exact hoffers.symm
  | mark c hat hanswer =>
    intro sheets hsheets
    cases hsheets
    rw [map_set_of_eq hat (Sheet.offer_answer hanswer)]
    cases hkept : s.sheets with
    | none =>
      rw [sheetList, hkept] at hat
      cases hat
    | some kept =>
      rw [sheetList, hkept]
      exact h kept hkept
  | clearPicks =>
    intro sheets hsheets
    obtain ⟨kept, hkept, rfl⟩ := Option.map_eq_some_iff.mp hsheets
    rw [List.map_map]
    exact h kept hkept
  | equipped _ hequipped => exact h.of_same (sheets_of_equipped hequipped)
  | resize | resizeModels | rename => exact h.of_same rfl
  | reset hreset =>
    obtain ⟨gear, -, rfl⟩ := exists_of_ofTemplate hreset
    exact .of_none rfl

/-! ## The menu -/

/-- Sheets with the same offers show the same, with the picks that are there. -/
theorem listings_eq (hsheets : s.sheets = some sheets)
    (hoffers : fresh.map Sheet.offer = sheets.map Sheet.offer) :
    s.listings = fresh.zipIdx.map fun (sheet, index) =>
      { sheet with picks := s.picksOf index }.listing index s.bearer := by
  have hlist : s.sheetList = sheets := by rw [sheetList, hsheets, Option.getD_some]
  refine List.ext_getElem? fun index => ?_
  have hat := congrArg (fun offers => offers[index]?) hoffers
  simp only [List.getElem?_map] at hat
  simp only [listings, hlist, List.getElem?_map, List.getElem?_zipIdx, Nat.zero_add]
  cases hkept : sheets[index]? with
  | none =>
    rw [hkept] at hat
    rw [Option.map_eq_none_iff.mp hat]
    rfl
  | some sheet =>
    rw [hkept] at hat
    obtain ⟨sheet', hfresh, hoffer⟩ := Option.map_eq_some_iff.mp hat
    have hpicks : s.picksOf index = sheet.picks := by rw [picksOf, hlist, hkept]; rfl
    rw [hfresh]
    change some (sheet.listing index s.bearer) =
      some ({ sheet' with picks := s.picksOf index }.listing index s.bearer)
    rw [hpicks, ← Sheet.listing_eq hoffer.symm]

/-- A reachable squad holds the offers of its template. -/
theorem Reachable.holdsOffers (h : Reachable x s) : HoldsOffers s.codex s.template s := by
  obtain ⟨role, unit, s₀, calls, hmuster, rfl⟩ := h
  obtain ⟨u, -, htemplate⟩ := exists_of_muster hmuster
  have hstanding : Standing x u s₀ := standing_ofTemplate htemplate
  have hstart : HoldsOffers x u s₀ := by
    obtain ⟨gear, -, rfl⟩ := exists_of_ofTemplate htemplate
    exact .of_none rfl
  have hnow := hstanding.run calls
  rw [hnow.codex, hnow.template]
  exact hstanding.keep (fun _ _ => HoldsOffers.step) hstart calls

/-- Whatever has been done to a squad, and whenever its options were read, the menu shows every
clause of its template as if it were read now, with the present picks on it. -/
theorem menu_eq_freshMenu (h : Reachable x s) : s.menu = s.freshMenu := by
  rw [menu, freshMenu, perform_ensureSheets]
  cases hsheets : s.sheets with
  | some sheets =>
    -- the sheets may have been read against other gear, which their offers do not depend on
    have hoffers := map_offer_freshSheets s
    rw [h.holdsOffers sheets hsheets] at hoffers
    obtain ⟨fresh, hfresh, hsame⟩ := exists_of_map_eq_ok hoffers
    rw [perform_readSheets_of_some hsheets, hfresh]
    exact congrArg Except.ok (listings_eq hsheets hsame)
  | none =>
    -- they are read now, and nothing is picked on them
    have hpicks := (untouched_readSheets s).picks
    rw [perform_readSheets, hsheets] at hpicks ⊢
    cases hfresh : s.freshSheets with
    | error e => rfl
    | ok fresh =>
      rw [hfresh] at hpicks
      refine congrArg Except.ok ((listings_eq rfl rfl).trans ?_)
      simp only [hpicks]
      rfl

/-- A guard who has read the option with an axe, and has taken the bow since: the bow is what the menu
says is given up. -/
theorem menu_eq_freshMenu_recruit :
    let s := { Guards.recruit 5 ["Axe"] "Axe/Bow" [Guards.axe, Guards.bow] [Guards.axe] 13 with
      gear := [Guards.bow], points := 15 }
    Reachable (Guards.drill 5 ["Axe"] "Axe/Bow") s ∧ s.menu = s.freshMenu ∧
      s.sheetList.map Sheet.header =
        ["The whole unit may exchange Axe for one of the following:"] ∧
      s.menu.map (List.map Listing.header) =
        .ok ["The whole unit may exchange Bow for one of the following:"] := by
  intro s
  have hreach : Reachable (Guards.drill 5 ["Axe"] "Axe/Bow") s :=
    reachable_recruit.run [.mark 0 (.pick (.index 1) .refuse), .equipPicked]
  exact ⟨hreach, menu_eq_freshMenu hreach, rfl, rfl⟩

/-! ## Picks that are dropped -/

/-- Where nothing is picked, there is nothing to drop. -/
theorem clearPicks_eq_self (h : ∀ index, s.picksOf index = []) : s.clearPicks = s := by
  have hunpicked : ∀ sheet ∈ s.sheetList, sheet.clear = sheet := by
    intro sheet hsheet
    obtain ⟨index, hat⟩ := List.mem_iff_getElem?.mp hsheet
    have hpicks := h index
    rw [picksOf, hat] at hpicks
    rw [Sheet.clear, ← show sheet.picks = [] from hpicks]
  rw [clearPicks]
  cases hsheets : s.sheets with
  | none => rw [Option.map_none, ← hsheets]
  | some sheets =>
    rw [sheetList, hsheets, Option.getD_some] at hunpicked
    rw [Option.map_some, List.map_congr_left hunpicked, List.map_id', ← hsheets]

end Squad

namespace Edit

variable {e : Edit} {c : Call} {s : Squad}

/-! ## Edits that are given up -/

/-- A call that only shows the options, or picks on one. -/
def Call.Browses (c : Call) : Prop := c = .list ∨ c.option? ≠ none

/-- The edit is one where picks can be made, of the squad `s` with any picks on its options. -/
structure Browsing (s : Squad) (e : Edit) : Prop where
  turn : e.stage ∈ Step.pick.stages
  read : ∃ sheets, e.squad.sheets = some sheets
  unpicked : e.squad.clearPicks = s.clearPicks

/-- While options are browsed the edit is past the viewing stage. -/
theorem Browsing.ne_viewing (h : Browsing s e) : e.stage ≠ .viewing := by
  intro hviewing
  have hturn := h.turn
  rw [hviewing] at hturn
  exact absurd hturn (by decide)

/-- A change of a sheet, made or refused, leaves the edit browsing. -/
theorem Browsing.editSheet (h : Browsing s e) (index : Nat) (m : Sheet.Call) :
    Browsing s (e.editSheet index m.answer).1 := by
  obtain ⟨sheets, hsheets⟩ := h.read
  rw [editSheet_of_read h.turn hsheets]
  cases hchanged : e.squad.changed index m.answer with
  | error err => exact h
  | ok sheet' =>
    obtain ⟨sheet, hat, hanswer⟩ := Squad.exists_of_changed_eq_ok hchanged
    refine ⟨show Stage.pending ∈ Step.pick.stages by decide, ⟨_, rfl⟩, ?_⟩
    rw [← h.unpicked, Squad.clearPicks, Squad.clearPicks, Option.map_some,
      map_set_of_eq hat (Sheet.clear_answer hanswer), Squad.sheetList, hsheets]
    rfl

/-- A call that browses leaves the edit browsing. -/
theorem Browsing.call (h : Browsing s e) (hc : c.Browses) : Browsing s (e.call c).1 := by
  rcases hc with rfl | hpick
  · obtain ⟨sheets, hsheets⟩ := h.read
    have hnext : Call.list.next e.stage = e.stage := if_neg h.ne_viewing
    rw [Edit.call, list_of_read (List.mem_cons_of_mem _ h.turn)
      (Squad.perform_readSheets_of_some hsheets), hnext]
    exact h
  · obtain ⟨index, hindex⟩ := Option.ne_none_iff_exists'.mp hpick
    obtain ⟨m, hm⟩ := Call.call_of_option? hindex
    rw [hm]
    exact h.editSheet index m

/-- Calls that browse leave the edit browsing. -/
theorem Browsing.run (h : Browsing s e) {calls : List Call}
    (hcalls : ∀ c ∈ calls, c.Browses) : Browsing s (e.run calls) := by
  induction calls generalizing e with
  | nil => exact h
  | cons c rest ih =>
    exact ih (h.call (hcalls c List.mem_cons_self)) fun c' hc' =>
      hcalls c' (List.mem_cons_of_mem c hc')

/-- Cancelling while options are browsed gives back the squad without picks and the viewing
stage. -/
theorem Browsing.cancel_eq (h : Browsing s e) :
    e.cancel = (⟨s.clearPicks, .viewing⟩, .ok ()) := by
  rw [cancel, inTurn, if_pos (show e.stage ∈ Step.cancel.stages from h.turn), h.unpicked]

/-- A new edit of a squad without picks lists its options, and picks on them in any way, until it is
given up: then nothing is picked anywhere, the edit is back to viewing a squad that reads as before,
and the options are listed as they were. -/
theorem cancel_run_list (e : Edit) (hstage : e.stage = .viewing)
    (hunpicked : ∀ index, e.squad.picksOf index = [])
    (hread : ∃ sheets, e.squad.freshSheets = .ok sheets) :
    ∃ menu listed, e.list = (listed, .ok menu) ∧
      ∀ calls : List Call, (∀ c ∈ calls, c.Browses) →
        ∃ left, (listed.run calls).cancel = (left, .ok ()) ∧ left.stage = .viewing ∧
          (∀ index, left.squad.picksOf index = []) ∧ left.squad.report = e.squad.report ∧
          left.squad.groups = e.squad.groups ∧ left.squad.gear = e.squad.gear ∧
          left.list = (listed, .ok menu) := by
  obtain ⟨sheets, hsheets⟩ := Squad.exists_readSheets_of_fresh hread
  obtain ⟨s, hs⟩ : ∃ s, s = { e.squad with sheets := some sheets } := ⟨_, rfl⟩
  have huntouched := Squad.untouched_readSheets e.squad
  rw [← hs] at hsheets
  rw [hsheets] at huntouched
  have hkept : s.perform Squad.readSheets = (s, .ok sheets) :=
    Squad.perform_readSheets_of_some (by rw [hs])
  have hnone (index : Nat) : s.picksOf index = [] := by rw [huntouched.picks, hunpicked]
  have hlist (e' : Edit) (hview : e'.stage = .viewing)
      (hread : e'.squad.perform Squad.readSheets = (s, .ok sheets)) :
      e'.list = (⟨s, .listed⟩, .ok s.listings) := by
    rw [list_of_read (by rw [hview]; decide) hread, hview]
    rfl
  refine ⟨_, _, hlist e hstage hsheets, fun calls hcalls => ?_⟩
  have hlisted : Browsing s ⟨s, .listed⟩ :=
    ⟨show Stage.listed ∈ Step.pick.stages by decide, ⟨sheets, by rw [hs]⟩, rfl⟩
  refine ⟨⟨s, .viewing⟩, ?_, rfl, hnone, ?_, huntouched.groups, huntouched.gear,
    hlist _ rfl hkept⟩
  · rw [(hlisted.run hcalls).cancel_eq, Squad.clearPicks_eq_self hnone]
  · rw [hs]
    rfl

/-- A guard picks the bow, names an option that there is not, lists again and picks more than the
option allows. -/
theorem cancel_run_list_recruit :
    let s := Guards.recruit 5 ["Axe"] "Axe/Bow" [Guards.axe, Guards.bow] [Guards.axe] 13
    let e := start { s with sheets := none }
    let calls := [.pick 0 (.index 1), .pick 3 (.index 0), .list, .pickList 0 [0, 1]]
    e.stage = .viewing ∧ (∀ index, e.squad.picksOf index = []) ∧
      e.squad.freshSheets =
        .ok [Guards.drillSheet "Axe/Bow" [Guards.axe, Guards.bow] [Guards.axe]] ∧
      (∀ c ∈ calls, c.Browses) ∧ (run ⟨s, .listed⟩ calls).squad.picksOf 0 = [⟨0, 1⟩, ⟨1, 1⟩] ∧
      ∃ menu left, e.list = (⟨s, .listed⟩, .ok menu) ∧
        (run ⟨s, .listed⟩ calls).cancel = (left, .ok ()) ∧
        (∀ index, left.squad.picksOf index = []) ∧ left.list = (⟨s, .listed⟩, .ok menu) := by
  intro s e calls
  have hunpicked (index : Nat) : e.squad.picksOf index = [] := rfl
  have hfresh : e.squad.freshSheets =
      .ok [Guards.drillSheet "Axe/Bow" [Guards.axe, Guards.bow] [Guards.axe]] := by
    with_unfolding_all rfl
  have hread : e.squad.perform Squad.readSheets =
      (s, .ok [Guards.drillSheet "Axe/Bow" [Guards.axe, Guards.bow] [Guards.axe]]) := by
    rw [Squad.perform_readSheets, hfresh]
    rfl
  have hcalls : ∀ c ∈ calls, c.Browses := by simp [calls, Call.Browses, Call.option?]
  obtain ⟨menu, listed, hlist, hleft⟩ := cancel_run_list e rfl hunpicked ⟨_, hfresh⟩
  obtain ⟨left, hcancel, -, hnone, -, -, -, hagain⟩ := hleft calls hcalls
  obtain rfl : ⟨s, .listed⟩ = listed :=
    congrArg Prod.fst ((list_of_read (by decide) hread).symm.trans hlist)
  exact ⟨rfl, hunpicked, hfresh, hcalls, rfl, menu, left, hlist, hcancel, hnone, hagain⟩

end Edit

end Muster
