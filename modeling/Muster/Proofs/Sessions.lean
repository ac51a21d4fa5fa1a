import Mathlib.Data.List.Induction
import Mathlib.Data.List.Nodup
import Muster.Proofs.Calls
import Muster.Service.Registry

/-!
# Open edits

Edits are opened, looked up, closed and dropped at readings of one clock, and every look-up counts
as a use. What the registry writes down for a session is shown to be what its history says: it is
open once and dated at its last use. From that the registry is never over its capacity, and an edit
that is opened takes the place of those that have been idle for too long and, if that is not enough,
of the one used least recently.
-/

namespace Muster.Registry

variable {r : Registry} {now : Nat} {id id' : String} {e : Edit} {t : Session}

/-! ## Look-up -/

/-- No session is found exactly where none has the id. -/
theorem find?_eq_none_iff : r.find? id = none ↔ id ∉ r.ids := by
  simp [find?, ids]

/-- The session that is found is one of those kept, and has the id. -/
theorem mem_of_find? (h : r.find? id = some t) : t ∈ r.sessions ∧ t.id = id :=
  ⟨List.mem_of_find?_eq_some h, by simpa using List.find?_some h⟩

/-- Where no id is open twice, look-up finds the session of the id. -/
theorem find?_eq_some_iff (h : r.ids.Nodup) :
    r.find? id = some t ↔ t ∈ r.sessions ∧ t.id = id := by
  refine ⟨mem_of_find?, fun ⟨hmem, hid⟩ => ?_⟩
  cases hfind : r.find? id with
  | none =>
    rw [find?_eq_none_iff] at hfind
    exact absurd (List.mem_map.mpr ⟨t, hmem, hid⟩) hfind
  | some t' =>
    obtain ⟨hmem', hid'⟩ := mem_of_find? hfind
    rw [List.inj_on_of_nodup_map h hmem' hmem (hid'.trans hid.symm)]

/-- Putting an edit back keeps the ids. -/
@[simp] theorem ids_put : (r.put now id e).ids = r.ids := by
  unfold put ids
  rw [List.map_map]
  refine List.map_congr_left fun t _ => ?_
  by_cases h : t.id = id <;> simp [h]

/-- A use is seen under its own id only. -/
theorem find?_put : (r.put now id e).find? id' =
    if id' = id then (r.find? id').map fun _ => ⟨id, e, now⟩ else r.find? id' := by
  have hsame : ((fun t => t.id == id') ∘ fun t : Session => if t.id == id then ⟨id, e, now⟩ else t) =
      fun t => t.id == id' := by
    funext t
    by_cases h : t.id = id <;> simp [h]
  unfold find? put
  rw [List.find?_map, hsame]
  cases hfind : r.sessions.find? fun t => t.id == id' with
  | none => simp
  | some t =>
    have hid : t.id = id' := by simpa using List.find?_some hfind
    by_cases h : id' = id <;> simp [hid, h]

/-- An id that is taken out is gone. -/
theorem not_mem_ids_erase : id ∉ (r.erase id).ids := by
  simp [ids, erase]

/-- Closing an edit is seen under its own id only. -/
theorem find?_erase_of_ne (h : id' ≠ id) : (r.erase id).find? id' = r.find? id' := by
  unfold find? erase
  rw [List.find?_filter]
  refine congrArg (r.sessions.find? ·) (funext fun t => ?_)
  by_cases ht : t.id = id' <;> simp [ht, h]

/-! ## Making room -/

/-- The place that is found in a list holds a session used no later than any other; `done` is what
has been looked at, of which the best so far is known. -/
theorem oldestFrom_spec (rest : List Session) (done : List Session) (best : Nat × Nat)
    (hbest : done[best.1]?.map Session.lastUsed = some best.2)
    (hleast : ∀ t ∈ done, best.2 ≤ t.lastUsed) :
    ∃ oldest, (done ++ rest)[oldestFrom done.length best rest]? = some oldest ∧
      ∀ t ∈ done ++ rest, oldest.lastUsed ≤ t.lastUsed := by
  induction rest generalizing done best with
  | nil =>
    obtain ⟨oldest, hat, htime⟩ := Option.map_eq_some_iff.mp hbest
    rw [List.append_nil]
    exact ⟨oldest, hat, htime ▸ hleast⟩
  | cons u rest ih =>
    have hlength : done.length + 1 = (done ++ [u]).length := by simp
    rw [oldestFrom, List.append_cons, hlength]
    split
    · next hless =>
      refine ih (done ++ [u]) (done.length, u.lastUsed) (by simp) fun t ht => ?_
      rcases List.mem_append.mp ht with hold | hnew
      · exact Nat.le_trans (Nat.le_of_lt hless) (hleast t hold)
      · obtain rfl := List.mem_singleton.mp hnew
        exact Nat.le_refl _
    · next hmore =>
      refine ih (done ++ [u]) best ?_ fun t ht => ?_
      · obtain ⟨oldest, hat, -⟩ := Option.map_eq_some_iff.mp hbest
        obtain ⟨hplace, -⟩ := List.getElem?_eq_some_iff.mp hat
        rwa [List.getElem?_append_left hplace]
      · rcases List.mem_append.mp ht with hold | hnew
        · exact hleast t hold
        · rw [List.mem_singleton.mp hnew]
          exact Nat.le_of_not_lt hmore

/-- The session that is taken out is one used no later than any other. -/
theorem exists_of_dropOldest {sessions : List Session} (h : sessions ≠ []) :
    ∃ before oldest after, sessions = before ++ oldest :: after ∧
      dropOldest sessions = before ++ after ∧ ∀ t ∈ sessions, oldest.lastUsed ≤ t.lastUsed := by
  cases sessions with
  | nil => exact absurd rfl h
  | cons u rest =>
    obtain ⟨oldest, hat, hleast⟩ : ∃ oldest,
        (u :: rest)[oldestFrom 1 (0, u.lastUsed) rest]? = some oldest ∧
          ∀ t ∈ u :: rest, oldest.lastUsed ≤ t.lastUsed :=
      oldestFrom_spec rest [u] (0, u.lastUsed) rfl (by simp)
    rw [dropOldest]
    generalize oldestFrom 1 (0, u.lastUsed) rest = i at hat
    obtain ⟨hi, rfl⟩ := List.getElem?_eq_some_iff.mp hat
    refine ⟨_, _, _, ?_, List.eraseIdx_eq_take_drop_succ _ i, hleast⟩
    rw [← List.drop_eq_getElem_cons hi, List.take_append_drop]

/-- Dropping the oldest session keeps the others in order. -/
theorem dropOldest_sublist (sessions : List Session) : (dropOldest sessions).Sublist sessions := by
  cases sessions with
  | nil => exact .refl _
  | cons u rest => exact List.eraseIdx_sublist _ _

/-- Dropping the oldest session leaves one less. -/
theorem length_dropOldest (sessions : List Session) :
    (dropOldest sessions).length = sessions.length - 1 := by
  by_cases h : sessions = []
  · subst h
    rfl
  · obtain ⟨before, oldest, after, hsplit, hdrop, -⟩ := exists_of_dropOldest h
    rw [hdrop, hsplit]
    simp

variable {capacity steps : Nat} {sessions : List Session}

/-- Where there is room no session is dropped for it. -/
theorem makeRoom_of_lt (h : sessions.length < capacity) :
    makeRoom capacity steps sessions = sessions := by
  cases steps with
  | zero => rfl
  | succ steps => rw [makeRoom, if_neg (Nat.not_le.mpr h)]

/-- Making room keeps the sessions that stay in order. -/
theorem makeRoom_sublist : (makeRoom capacity steps sessions).Sublist sessions := by
  induction steps generalizing sessions with
  | zero => exact .refl _
  | succ steps ih =>
    rw [makeRoom]
    split
    · exact ih.trans (dropOldest_sublist sessions)
    · exact .refl _

/-- Making room leaves room for one more. -/
theorem length_makeRoom_lt (hcapacity : 0 < capacity) (hsteps : sessions.length ≤ steps) :
    (makeRoom capacity steps sessions).length < capacity := by
  induction steps generalizing sessions with
  | zero =>
    rw [makeRoom]
    omega
  | succ steps ih =>
    rw [makeRoom]
    split
    · refine ih ?_
      rw [length_dropOldest]
      omega
    · omega

/-- In a full list the session that was used least recently makes room. -/
theorem makeRoom_of_full (hfull : sessions.length = capacity) (hcapacity : 0 < capacity) :
    makeRoom capacity sessions.length sessions = dropOldest sessions := by
  obtain ⟨steps, hsteps⟩ := Nat.exists_eq_succ_of_ne_zero (Nat.ne_of_gt (hfull ▸ hcapacity))
  rw [hsteps, makeRoom, if_pos (Nat.le_of_eq hfull.symm), makeRoom_of_lt]
  rw [length_dropOldest]
  omega

/-! ## Opening an edit -/

variable {s : Squad}

/-- What is left when the idle edits have been dropped. -/
theorem sessions_prune (r : Registry) (now : Nat) :
    (r.prune now).sessions =
      r.sessions.filter fun t => now - t.lastUsed < r.limits.idleTimeout := by
  unfold prune
  refine List.filter_congr fun t _ => ?_
  simp only [isIdle, ge_iff_le, ← Nat.not_le, decide_not]

/-- Dropping idle sessions keeps the others in order. -/
theorem sublist_prune (r : Registry) (now : Nat) : (r.prune now).sessions.Sublist r.sessions :=
  List.filter_sublist

/-- The sessions that stay are in the order they were in. -/
theorem sublist_staying (r : Registry) (now : Nat) : (r.staying now).Sublist r.sessions :=
  makeRoom_sublist.trans (sublist_prune r now)

/-- Of the sessions that stay there are fewer than the limit, which is one at least. -/
theorem length_staying_lt (r : Registry) (now : Nat) :
    (r.staying now).length < max r.limits.maxSessions 1 :=
  length_makeRoom_lt (by omega) (Nat.le_refl _)

/-- An edit that is open after another was opened is that one, or it was open before. -/
theorem mem_of_mem_insert (h : t ∈ (r.insert now id s).sessions) :
    t = ⟨id, .start s, now⟩ ∨ t ∈ r.sessions ∧ t.id ≠ id := by
  rcases List.mem_append.mp h with hold | hnew
  · obtain ⟨hstaying, hid⟩ := List.mem_filter.mp hold
    exact .inr ⟨(sublist_staying r now).subset hstaying, by simpa using hid⟩
  · exact .inl (List.mem_singleton.mp hnew)

/-- However many edits were open, there is room for all that are open afterwards. -/
theorem size_insert_le (r : Registry) (now : Nat) (id : String) (s : Squad) :
    (r.insert now id s).size ≤ max r.limits.maxSessions 1 := by
  have hroom := length_staying_lt r now
  have hfilter := List.length_filter_le (fun t => t.id != id) (r.staying now)
  simp only [size, insert, List.length_append, List.length_singleton]
  omega

/-- Under a new id nothing is replaced. -/
theorem sessions_insert (hnew : id ∉ r.ids) :
    (r.insert now id s).sessions = r.staying now ++ [⟨id, .start s, now⟩] := by
  refine congrArg (· ++ _) (List.filter_eq_self.mpr fun t ht => ?_)
  have hid : t.id ≠ id := fun h =>
    hnew (List.mem_map.mpr ⟨t, (sublist_staying r now).subset ht, h⟩)
  simpa using hid

/-! ## Calls -/

/-- A call on the registry. -/
inductive Call where
  | insert (id : String) (s : Squad)
  /-- an edit is looked up and something is done with it -/
  | use (id : String) (change : Edit → Edit)
  | erase (id : String)
  | expire

/-- The registry after a call at a time. -/
def call (r : Registry) (now : Nat) : Call → Registry
  | .insert id s => r.insert now id s
  | .use id change =>
    match r.find? id with
    | none => r
    | some t => r.put now id (change t.edit)
  | .erase id => r.erase id
  | .expire => (r.expire now).1

/-- The registry after a history of calls, each with its time. -/
def run (r : Registry) (history : List (Nat × Call)) : Registry :=
  history.foldl (fun r c => r.call c.1 c.2) r

/-- Whether a call opens the edit of an id or looks it up. -/
def Call.touches (id : String) : Call → Bool
  | insert id' _ | use id' _ => id' == id
  | erase _ | expire => false

/-- When the edit of an id was opened or looked up last. -/
def lastUse (history : List (Nat × Call)) (id : String) : Option Nat :=
  ((history.filter fun c => c.2.touches id).getLast?).map Prod.fst

variable {c : Call} {history : List (Nat × Call)} {n : Nat}

/-- A call leaves the limits as they are. -/
theorem limits_call (r : Registry) (now : Nat) (c : Call) : (r.call now c).limits = r.limits := by
  cases c with
  | use id change =>
    rw [call]
    split <;> rfl
  | insert | erase | expire => rfl

/-- The limits stay as they are whatever is called. -/
theorem limits_run (r : Registry) (history : List (Nat × Call)) :
    (r.run history).limits = r.limits := by
  induction history generalizing r with
  | nil => rfl
  | cons c rest ih => exact (ih _).trans (limits_call r c.1 c.2)

/-- No call opens an id twice. -/
theorem nodup_ids_call (h : r.ids.Nodup) (now : Nat) (c : Call) : (r.call now c).ids.Nodup := by
  cases c with
  | insert id s =>
    have hstaying := (List.filter_sublist (p := fun t => t.id != id)).trans (sublist_staying r now)
    rw [call, ids, insert, List.map_append, List.nodup_append]
    refine ⟨(hstaying.map Session.id).nodup h, List.nodup_singleton _, ?_⟩
    rintro id' hid' id'' hid'' rfl
    obtain ⟨t, ht, rfl⟩ := List.mem_map.mp hid'
    have hne := (List.mem_filter.mp ht).2
    rw [List.map_singleton, List.mem_singleton] at hid''
    simp [hid''] at hne
  | use id change =>
    rw [call]
    split
    · exact h
    · rwa [ids_put]
  | erase id => exact (List.filter_sublist.map Session.id).nodup h
  | expire => exact ((sublist_prune r now).map Session.id).nodup h

/-- An edit that is open after a call was touched by it, or it was open before. -/
theorem mem_of_mem_call (h : t ∈ (r.call now c).sessions) :
    if c.touches t.id then t.lastUsed = now else t ∈ r.sessions := by
  cases c with
  | insert id s =>
    rcases mem_of_mem_insert h with rfl | ⟨hold, hid⟩
    · simp [Call.touches]
    · simp [Call.touches, hid.symm, hold]
  | use id change =>
    rw [call] at h
    split at h
    · next hnone =>
      have hid : t.id ≠ id := fun hid =>
        find?_eq_none_iff.mp hnone (List.mem_map.mpr ⟨t, h, hid⟩)
      simp [Call.touches, hid.symm, h]
    · obtain ⟨t', ht', rfl⟩ := List.mem_map.mp h
      by_cases hid : t'.id = id
      · simp [Call.touches, hid]
      · simp [Call.touches, hid, Ne.symm hid, ht']
  | erase id => exact List.mem_of_mem_filter h
  | expire => exact List.mem_of_mem_filter h

/-- A call keeps the number of sessions within the limit. -/
theorem size_call_le (h : r.size ≤ max r.limits.maxSessions 1) (now : Nat) (c : Call) :
    (r.call now c).size ≤ max r.limits.maxSessions 1 := by
  cases c with
  | insert id s => exact size_insert_le r now id s
  | use id change =>
    rw [call]
    split
    · exact h
    · simpa [size, put] using h
  | erase id => exact Nat.le_trans (List.length_filter_le _ _) h
  | expire => exact Nat.le_trans (List.length_filter_le _ _) h

/-! ## What a history says -/

/-- The last use of an id is the last call of a history if it touches the id. -/
theorem lastUse_concat (history : List (Nat × Call)) (now : Nat) (c : Call) (id : String) :
    lastUse (history ++ [(now, c)]) id =
      if c.touches id then some now else lastUse history id := by
  unfold lastUse
  by_cases h : c.touches id <;> simp [h]

/-- The last use of an id is the time of a call that touches it. -/
theorem exists_of_lastUse (h : lastUse history id = some n) :
    ∃ c, (n, c) ∈ history ∧ c.touches id := by
  obtain ⟨⟨n, c⟩, hlast, rfl⟩ := Option.map_eq_some_iff.mp h
  obtain ⟨hmem, htouches⟩ := List.mem_filter.mp (List.mem_of_getLast? hlast)
  exact ⟨c, hmem, htouches⟩

/-- On a clock that is never read twice the same, no two ids have the same last use. -/
theorem eq_of_lastUse (hclock : (history.map Prod.fst).Nodup) (h : lastUse history id = some n)
    (h' : lastUse history id' = some n) : id = id' := by
  obtain ⟨c, hc, htouches⟩ := exists_of_lastUse h
  obtain ⟨c', hc', htouches'⟩ := exists_of_lastUse h'
  obtain rfl : c = c' := congrArg Prod.snd (List.inj_on_of_nodup_map hclock hc hc' rfl)
  cases c with
  | insert id'' | use id'' =>
    exact (beq_iff_eq.mp htouches).symm.trans (beq_iff_eq.mp htouches')
  | erase | expire => cases htouches

/-- What the registry holds is what the history of calls says. -/
structure Recorded (history : List (Nat × Call)) (r : Registry) : Prop where
  roomy : r.size ≤ max r.limits.maxSessions 1
  distinct : r.ids.Nodup
  dated : ∀ t ∈ r.sessions, lastUse history t.id = some t.lastUsed

/-- A call keeps the record of the history. -/
theorem Recorded.call (h : Recorded history r) (now : Nat) (c : Call) :
    Recorded (history ++ [(now, c)]) (r.call now c) where
  roomy := by
    rw [limits_call]
    exact size_call_le h.roomy now c
  distinct := nodup_ids_call h.distinct now c
  dated t ht := by
    have hcall := mem_of_mem_call ht
    rw [lastUse_concat]
    split
    · next htouches => rw [if_pos htouches] at hcall; rw [hcall]
    · next huntouched => rw [if_neg huntouched] at hcall; exact h.dated t hcall

/-- What a registry keeps is recorded in its history. -/
theorem recorded_run (limits : Limits) (history : List (Nat × Call)) :
    Recorded history ((empty limits).run history) := by
  induction history using List.reverseRecOn with
  | nil => exact ⟨Nat.zero_le _, List.nodup_nil, fun t ht => absurd ht List.not_mem_nil⟩
  | append_singleton history c ih =>
    rw [run, List.foldl_append]
    exact ih.call c.1 c.2

/-- A session that is used no later than the others that are open is used before them. -/
theorem Recorded.lastUsed_lt (h : Recorded history r) (hclock : (history.map Prod.fst).Nodup)
    {before after : List Session} {oldest : Session}
    (hopen : (before ++ oldest :: after).Sublist r.sessions)
    (hleast : ∀ t ∈ before ++ oldest :: after, oldest.lastUsed ≤ t.lastUsed) :
    ∀ t ∈ before ++ after, oldest.lastUsed < t.lastUsed := by
  intro t ht
  have hnodup := ((hopen.map Session.id).nodup h.distinct)
  rw [(List.perm_middle.map Session.id).nodup_iff, List.map_cons, List.nodup_cons] at hnodup
  have hmem : t ∈ before ++ oldest :: after :=
    List.perm_middle.mem_iff.mpr (List.mem_cons_of_mem _ ht)
  refine Nat.lt_of_le_of_ne (hleast t hmem) fun hsame => hnodup.1 ?_
  have hdated := h.dated t (hopen.subset hmem)
  rw [← hsame] at hdated
  have hid := eq_of_lastUse hclock (h.dated oldest (hopen.subset (by simp))) hdated
  exact List.mem_map.mpr ⟨t, ht, hid.symm⟩

/-- After every history of calls on a clock that goes on with each of them, no more edits are open
than there is room for, or one if there is room for none, and each is dated at its last use. An edit
that is opened under a new id first drops those whose last use is as long ago as an edit may go
unused; then, only if the registry is still full, the one that was used before all others; and it
leaves the rest as they are. -/
theorem insert_makes_room (limits : Limits) (history : List (Nat × Call))
    (hclock : (history.map Prod.fst).Pairwise (· < ·)) :
    let capacity := max limits.maxSessions 1
    let r := (empty limits).run history
    r.size ≤ capacity ∧ (∀ t ∈ r.sessions, lastUse history t.id = some t.lastUsed) ∧
      ∀ now id s, id ∉ r.ids →
        let kept := r.sessions.filter fun t => now - t.lastUsed < limits.idleTimeout
        if kept.length < capacity then
          (r.insert now id s).sessions = kept ++ [⟨id, .start s, now⟩]
        else
          ∃ before oldest after, kept = before ++ oldest :: after ∧
            (∀ t ∈ before ++ after, oldest.lastUsed < t.lastUsed) ∧
            (r.insert now id s).sessions = before ++ after ++ [⟨id, .start s, now⟩] := by
  intro capacity r
  have hrecorded : Recorded history r := recorded_run limits history
  have hlimits : r.limits = limits := limits_run _ history
  have hroom : r.size ≤ capacity := by
    have hroomy := hrecorded.roomy
    rwa [hlimits] at hroomy
  refine ⟨hroom, hrecorded.dated, ?_⟩
  intro now id s hnew kept
  have hkept : (r.prune now).sessions = kept := by rw [sessions_prune, hlimits]
  have hsub : kept.Sublist r.sessions := List.filter_sublist
  rw [sessions_insert hnew, staying, hkept, hlimits]
  split
  · next hspace => rw [makeRoom_of_lt hspace]
  · next hspace =>
    have hfull : kept.length = capacity :=
      Nat.le_antisymm (Nat.le_trans hsub.length_le hroom) (Nat.not_lt.mp hspace)
    have hpos : 0 < capacity := by omega
    have hsome : kept ≠ [] := by
      rintro hnone
      rw [hnone] at hfull
      exact Nat.ne_of_lt hpos hfull
    obtain ⟨before, oldest, after, hsplit, hdrop, hleast⟩ := exists_of_dropOldest hsome
    rw [makeRoom_of_full hfull hpos, hdrop]
    rw [hsplit] at hsub hleast
    exact ⟨before, oldest, after, hsplit,
      hrecorded.lastUsed_lt (hclock.imp Nat.ne_of_lt) hsub hleast, rfl⟩

/-- With room for two, guards whose edit was opened first but looked up again stay, and those that
were opened after them make room. -/
theorem insert_makes_room_guards :
    let s := Guards.squad ["Axe"] [Guards.axe] 1 13
    let history : List (Nat × Call) :=
      [(0, .insert "a" s), (1, .insert "b" s), (2, .use "a" fun e => e)]
    let r : Registry := ⟨⟨2, 100⟩, [⟨"a", .start s, 2⟩, ⟨"b", .start s, 1⟩]⟩
    (history.map Prod.fst).Pairwise (· < ·) ∧ (empty ⟨2, 100⟩).run history = r ∧ "c" ∉ r.ids ∧
      (r.insert 3 "c" s).ids = ["a", "c"] ∧
      ∃ before oldest after, r.sessions = before ++ oldest :: after ∧
        (∀ t ∈ before ++ after, oldest.lastUsed < t.lastUsed) ∧
        (r.insert 3 "c" s).sessions = before ++ after ++ [⟨"c", .start s, 3⟩] := by
  intro s history r
  have hclock : (history.map Prod.fst).Pairwise (· < ·) := by decide
  have hrun : (empty ⟨2, 100⟩).run history = r := by with_unfolding_all rfl
  have hnew : "c" ∉ r.ids := by simp [r, ids]
  have hkept : (r.sessions.filter fun t => 3 - t.lastUsed < 100) = r.sessions := by simp [r]
  obtain ⟨-, -, hinsert⟩ := insert_makes_room ⟨2, 100⟩ history hclock
  rw [hrun] at hinsert
  have hfull := hinsert 3 "c" s hnew
  dsimp only at hfull
  rw [hkept, if_neg (by simp [r])] at hfull
  exact ⟨hclock, hrun, hnew, rfl, hfull⟩

end Muster.Registry
