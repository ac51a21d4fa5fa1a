import Muster.Proofs.Requests

/-!
# Isolation

Edits share a desk: its codex, the room in its registry and the order in which they were used. It is
shown that nothing passes between them. What becomes of an edit that stays open, and every reply to
what is asked of it, is the same as if nothing had been asked of the desk but that.
-/

namespace Muster.Desk

variable {r : Request} {t : Task} {d d' : Desk} {id newId : String} {now : Nat} {c c' : Call}
  {calls alone : List Call} {read : Json.Reader} {broken : List String}

/-! ## Seen from an edit -/

/-- The edit that is open under an id. -/
def edit? (d : Desk) (id : String) : Option Edit := (d.registry.find? id).map Session.edit

/-- The replies to what is asked of an edit, where there are any. -/
def repliesTo (read : Json.Reader) (id : String) (d : Desk) : List Call → List (Option Reply)
  | [] => []
  | c :: rest =>
    let later := repliesTo read id (d.call read c).1 rest
    if c.request.addressee? = some id then (d.call read c).2 :: later else later

/-- An edit is open before and after every request. -/
def StaysOpen (read : Json.Reader) (id : String) (d : Desk) : List Call → Prop
  | [] => id ∈ d.registry.ids
  | c :: rest => id ∈ d.registry.ids ∧ StaysOpen read id (d.call read c).1 rest

/-- An edit that stays open is open at first. -/
theorem StaysOpen.mem (h : StaysOpen read id d calls) : id ∈ d.registry.ids := by
  cases calls with
  | nil => exact h
  | cons => exact h.1

/-- The edit under an id is the one that is put there. -/
theorem edit?_put {s : Session} (h : d.registry.find? id = some s) (now : Nat) (e : Edit) :
    ({ d with registry := d.registry.put now id e, broken } : Desk).edit? id = some e := by
  rw [edit?, Registry.find?_put, if_pos rfl, h]
  rfl

/-- Putting an edit under one id keeps the edit under another. -/
theorem edit?_put_of_ne {id' : String} {e : Edit} (h : id ≠ id') :
    ({ d with registry := d.registry.put now id' e, broken } : Desk).edit? id = d.edit? id := by
  rw [edit?, Registry.find?_put, if_neg h]
  rfl

/-- Under an id that is taken out there is no edit. -/
theorem edit?_erase : ({ d with registry := d.registry.erase id } : Desk).edit? id = none := by
  rw [edit?, Registry.find?_eq_none_iff.mpr Registry.not_mem_ids_erase]
  rfl

/-- Taking out one id keeps the edit under another. -/
theorem edit?_erase_of_ne {id' : String} (h : id ≠ id') :
    ({ d with registry := d.registry.erase id' } : Desk).edit? id = d.edit? id := by
  rw [edit?, Registry.find?_erase_of_ne h]
  rfl

/-- No id is open twice. -/
theorem nodup_ids_call (h : d.registry.ids.Nodup) (c : Call) :
    (d.call read c).1.registry.ids.Nodup := by
  rw [call_eq]
  rcases carryOut_cases d c.now c.newId (task read d.codex c.request) with
    hsame | ⟨c', broken, hcall⟩
  · rwa [hsame]
  · rw [hcall]
    exact Registry.nodup_ids_call h c.now c'

/-- Whatever is requested, no id is there twice. -/
theorem nodup_ids_run (h : d.registry.ids.Nodup) (calls : List Call) :
    (d.run read calls).registry.ids.Nodup := by
  induction calls generalizing d with
  | nil => exact h
  | cons c rest ih => exact ih (nodup_ids_call h c)

/-- Another edit that is opened leaves one that stays open as it was. -/
theorem edit?_insert {s : Squad} (hnodup : d.registry.ids.Nodup) (hnew : newId ≠ id)
    (hopen : id ∈ (d.registry.insert now newId s).ids) :
    ({ d with registry := d.registry.insert now newId s, broken } : Desk).edit? id =
      d.edit? id := by
  have hnodup' : (d.registry.insert now newId s).ids.Nodup :=
    Registry.nodup_ids_call hnodup now (.insert newId s)
  obtain ⟨t, ht, hid⟩ := List.mem_map.mp hopen
  rcases Registry.mem_of_mem_insert ht with rfl | ⟨hold, -⟩
  · exact absurd hid hnew
  · rw [edit?, edit?, (Registry.find?_eq_some_iff hnodup').mpr ⟨ht, hid⟩,
      (Registry.find?_eq_some_iff hnodup).mpr ⟨hold, hid⟩]

/-! ## Broken edits -/

/-- Whether an edit breaks depends on what is asked of it alone. -/
theorem mem_brokenBy_of_ne {id' : String} (h : id ≠ id') (result : Except ServiceError Json) :
    id ∈ d.brokenBy id' result ↔ id ∈ d.broken := by
  cases result with
  | ok v => exact .rfl
  | error err =>
    rw [brokenBy]
    split
    · simp [h]
    · exact .rfl

/-- Whether a result breaks an edit depends on the result and on whether it was broken. -/
theorem mem_brokenBy_congr (h : id ∈ d'.broken ↔ id ∈ d.broken)
    (result : Except ServiceError Json) :
    id ∈ d'.brokenBy id result ↔ id ∈ d.brokenBy id result := by
  cases result with
  | ok v => exact h
  | error err =>
    rw [brokenBy, brokenBy]
    split
    · simp
    · exact h

/-- Desks do the same with an edit that is broken on both or on neither. -/
theorem attempt_congr (h : id ∈ d'.broken ↔ id ∈ d.broken)
    (act : Edit → Edit × Except ServiceError Json) (e : Edit) :
    d'.attempt id act e = d.attempt id act e := by
  unfold attempt
  simp only [h]

/-! ## One request -/

/-- What is not asked of an edit does not change it, as long as it stays open. -/
theorem carryOut_elsewhere (hmeant : Meant r t) (hr : r.addressee? ≠ some id) (hnew : newId ≠ id)
    (hnodup : d.registry.ids.Nodup) (hopen : id ∈ (d.carryOut now newId t).1.registry.ids) :
    (d.carryOut now newId t).1.edit? id = d.edit? id ∧
      (id ∈ (d.carryOut now newId t).1.broken ↔ id ∈ d.broken) := by
  cases hmeant with
  | health | units | refuse => exact ⟨rfl, .rfl⟩
  -- the edit was not the one that made room, since it is still open
  | enter => exact ⟨edit?_insert hnodup hnew hopen, by simp [carryOut, hnew.symm]⟩
  | @close id' haddressee =>
    have hne : id ≠ id' := fun h => hr (h ▸ haddressee)
    rw [carryOut, closeUnit]
    split
    · exact ⟨rfl, .rfl⟩
    · exact ⟨edit?_erase_of_ne hne, .rfl⟩
  | @edit id' act haddressee =>
    have hne : id ≠ id' := fun h => hr (h ▸ haddressee)
    rw [carryOut, withEdit]
    split
    · exact ⟨rfl, .rfl⟩
    · exact ⟨edit?_put_of_ne hne, mem_brokenBy_of_ne hne _⟩

/-- What an act leaves of the edit that it works on and what it gives can be told from that edit. -/
theorem carryOut_edit (d : Desk) (now : Nat) (newId id : String)
    (act : Edit → Edit × Except ServiceError Json) :
    let outcome := d.carryOut now newId (.edit id act)
    (outcome.1.edit? id, outcome.1.broken, outcome.2) =
      match d.edit? id with
      | none => (none, d.broken, .error (.noSession id))
      | some e =>
        let (e', result) := d.attempt id act e
        (some e', d.brokenBy id result, result) := by
  cases h : d.registry.find? id with
  | none => simp [carryOut, withEdit, edit?, h]
  | some s =>
    have hopen : d.edit? id = some s.edit := by rw [edit?, h]; rfl
    rw [hopen]
    simp only [carryOut, withEdit, h]
    rw [edit?_put h]

/-- A request to close an edit takes it out, if it is there, and is refused if it is not. -/
theorem carryOut_close (d : Desk) (now : Nat) (newId id : String) :
    let outcome := d.carryOut now newId (.close id)
    (outcome.1.edit? id, outcome.1.broken, outcome.2) =
      match d.edit? id with
      | none => (none, d.broken, .error (.noSession id))
      | some _ => (none, d.broken, .ok (Payload.closed id)) := by
  cases h : d.registry.find? id with
  | none => simp [carryOut, closeUnit, edit?, h]
  | some s =>
    simp only [carryOut, closeUnit, h, edit?_erase]
    simp [edit?, h]

/-- Two desks of one codex where the same edit is open under an id, or none, and is broken on both
or on neither. -/
structure Agree (id : String) (d d' : Desk) : Prop where
  codex : d'.codex = d.codex
  edit : d'.edit? id = d.edit? id
  broken : id ∈ d'.broken ↔ id ∈ d.broken

/-- Outcomes that are told apart by nothing but other broken edits. -/
theorem same_outcome {edit : Option Edit} {broken broken' : List String}
    {result : Except ServiceError Json}
    {outcome outcome' : Option Edit × List String × Except ServiceError Json}
    (h : outcome = (edit, broken, result)) (h' : outcome' = (edit, broken', result))
    (hbroken : id ∈ broken' ↔ id ∈ broken) :
    outcome'.1 = outcome.1 ∧ (id ∈ outcome'.2.1 ↔ id ∈ outcome.2.1) ∧
      outcome'.2.2 = outcome.2.2 := by
  rw [h, h']
  exact ⟨rfl, hbroken, rfl⟩

/-- What becomes of an edit by what is asked of it, and the answer, depend on the edit alone. -/
theorem Agree.carryOut (h : Agree id d d') (hmeant : Meant r t) (hr : r.addressee? = some id)
    (now now' : Nat) (newId newId' : String) :
    (d'.carryOut now' newId' t).1.edit? id = (d.carryOut now newId t).1.edit? id ∧
      (id ∈ (d'.carryOut now' newId' t).1.broken ↔ id ∈ (d.carryOut now newId t).1.broken) ∧
      (d'.carryOut now' newId' t).2 = (d.carryOut now newId t).2 := by
  cases hmeant with
  | health hnone | units hnone | enter hnone =>
    rw [hnone] at hr
    cases hr
  | refuse => exact ⟨h.edit, h.broken, rfl⟩
  | @close id' haddressee =>
    obtain rfl : id' = id := Option.some.inj (haddressee.symm.trans hr)
    have hd := carryOut_close d now newId id'
    have hd' := carryOut_close d' now' newId' id'
    rw [h.edit] at hd'
    cases hopen : d.edit? id' with
    | none | some =>
      rw [hopen] at hd hd'
      exact same_outcome hd hd' h.broken
  | @edit id' act haddressee =>
    obtain rfl : id' = id := Option.some.inj (haddressee.symm.trans hr)
    have hd := carryOut_edit d now newId id' act
    have hd' := carryOut_edit d' now' newId' id' act
    rw [h.edit] at hd'
    cases hopen : d.edit? id' with
    | none =>
      rw [hopen] at hd hd'
      exact same_outcome hd hd' h.broken
    | some e =>
      simp only [hopen, attempt_congr h.broken] at hd hd'
      exact same_outcome hd hd' (mem_brokenBy_congr h.broken _)

/-- Desks that agree on an edit answer alike what is asked of it, and go on to agree. -/
theorem Agree.call (h : Agree id d d') (hrequest : c'.request = c.request)
    (hc : c.request.addressee? = some id) :
    Agree id (d.call read c).1 (d'.call read c').1 ∧ (d'.call read c').2 = (d.call read c).2 := by
  have htask : task read d'.codex c'.request = task read d.codex c.request := by
    rw [h.codex, hrequest]
  obtain ⟨hedit, hbroken, hresult⟩ := h.carryOut (meant_task read d.codex c.request) hc
    c.now c'.now c.newId c'.newId
  have hcall := call_eq read d' c'
  rw [htask] at hcall
  refine ⟨⟨by rw [codex_call, codex_call, h.codex], ?_, ?_⟩, ?_⟩
  · rw [hcall, call_eq]
    exact hedit
  · rw [hcall, call_eq]
    exact hbroken
  · rw [hcall, call_eq]
    exact congrArg (Reply.ofResult _) hresult

/-- What is asked of others leaves desks that agree on an edit to agree. -/
theorem Agree.call_elsewhere (h : Agree id d d') (hc : c.request.addressee? ≠ some id)
    (hnew : c.newId ≠ id) (hnodup : d.registry.ids.Nodup)
    (hopen : id ∈ (d.call read c).1.registry.ids) : Agree id (d.call read c).1 d' := by
  obtain ⟨hedit, hbroken⟩ :=
    carryOut_elsewhere (meant_task read d.codex c.request) hc hnew hnodup hopen
  exact {
    codex := by rw [codex_call, h.codex]
    edit := h.edit.trans hedit.symm
    broken := h.broken.trans hbroken.symm }

/-! ## Histories -/

/-- The requests that are addressed to an edit come with the replies and leave the edit that they
would have without the others. -/
theorem Agree.run (h : Agree id d d') (hnodup : d.registry.ids.Nodup)
    (hfresh : ∀ c ∈ calls, c.newId ≠ id) (hopen : d.StaysOpen read id calls)
    (halone : alone.map Call.request =
      (calls.map Call.request).filter fun r => r.addressee? = some id) :
    Agree id (d.run read calls) (d'.run read alone) ∧
      repliesTo read id d' alone = repliesTo read id d calls := by
  -- the desk `d'` goes on only where the request is addressed to the edit, and agrees all along
  induction calls generalizing d d' alone with
  | nil =>
    obtain rfl : alone = [] := List.map_eq_nil_iff.mp halone
    exact ⟨h, rfl⟩
  | cons c rest ih =>
    obtain ⟨hnew, hfresh⟩ := List.forall_mem_cons.mp hfresh
    have hrest : (d.call read c).1.registry.ids.Nodup := nodup_ids_call hnodup c
    rw [List.map_cons, List.filter_cons] at halone
    rw [repliesTo]
    split at halone
    · next hc =>
      have hc : c.request.addressee? = some id := by simpa using hc
      obtain ⟨c', alone, rfl, hrequest, halone⟩ := List.map_eq_cons_iff.mp halone
      obtain ⟨hagree, hreply⟩ := h.call hrequest hc
      obtain ⟨hlast, hreplies⟩ := ih hagree hrest hfresh hopen.2 halone
      have hc' : c'.request.addressee? = some id := by rw [hrequest, hc]
      refine ⟨hlast, ?_⟩
      rw [repliesTo, if_pos hc, if_pos hc', hreply, hreplies]
    · next hc =>
      have hc : c.request.addressee? ≠ some id := by simpa using hc
      have hagree := h.call_elsewhere hc hnew hnodup hopen.2.mem
      rw [if_neg hc]
      exact ih hagree hrest hfresh hopen.2 halone

/-- After every history of requests, take an edit that stays open in what is asked next, where no
other edit is opened under its id. Without the requests that are not addressed to it, whenever the
others are made, it ends up the same, broken or not, and every one of them has the same reply, or
has none either. -/
theorem run_isolated (read : Json.Reader) (x : Codex) (limits : Limits)
    (before after alone : List Call) (id : String) (hfresh : ∀ c ∈ after, c.newId ≠ id)
    (hopen : ((start x limits).run read before).StaysOpen read id after)
    (halone : alone.map Call.request =
      (after.map Call.request).filter fun r => r.addressee? = some id) :
    let d := (start x limits).run read before
    (d.run read alone).edit? id = (d.run read after).edit? id ∧
      (id ∈ (d.run read alone).broken ↔ id ∈ (d.run read after).broken) ∧
      d.repliesTo read id alone = d.repliesTo read id after := by
  intro d
  have hagree : Agree id d d := ⟨rfl, rfl, .rfl⟩
  have hstart : (start x limits).registry.ids.Nodup := List.nodup_nil
  obtain ⟨hlast, hreplies⟩ := hagree.run (nodup_ids_run hstart before) hfresh hopen halone
  exact ⟨hlast.edit, hlast.broken, hreplies⟩

/-- Between two requests to the edit that was opened first, one that is opened takes the place of
the other. -/
theorem run_isolated_guards :
    let s := Guards.squad ["Axe"] [Guards.axe] 1 13
    let before : List Call := [⟨0, "a", Guards.opening⟩, ⟨1, "b", Guards.opening⟩]
    let after : List Call :=
      [⟨2, "", Guards.listing "a"⟩, ⟨3, "c", Guards.opening⟩, ⟨4, "", Guards.picking "a"⟩]
    let alone : List Call := [⟨2, "", Guards.listing "a"⟩, ⟨3, "", Guards.picking "a"⟩]
    let e : Edit := ⟨{ s with sheets := some [Guards.sheet [⟨1, 1⟩]] }, .pending⟩
    let d := Guards.desk s.codex [⟨"a", .start s, 0⟩, ⟨"b", .start s, 1⟩]
    let read := Json.read?
    (start s.codex ⟨2, 100⟩).run read before = d ∧
      d.run read after = Guards.desk s.codex [⟨"a", e, 4⟩, ⟨"c", .start s, 3⟩] ∧
      d.StaysOpen read "a" after ∧ (d.run read alone).edit? "a" = some e ∧
      d.repliesTo read "a" alone = d.repliesTo read "a" after := by
  intro s before after alone e d read
  let listed : Edit := ⟨{ s with sheets := some [Guards.sheet []] }, .listed⟩
  let d₁ := Guards.desk s.codex [⟨"a", .start s, 0⟩]
  let d₂ := Guards.desk s.codex [⟨"a", listed, 2⟩, ⟨"b", .start s, 1⟩]
  let d₃ := Guards.desk s.codex [⟨"a", listed, 2⟩, ⟨"c", .start s, 3⟩]
  let d₄ := Guards.desk s.codex [⟨"a", e, 4⟩, ⟨"c", .start s, 3⟩]
  have hfirst : ((start s.codex ⟨2, 100⟩).call read ⟨0, "a", Guards.opening⟩).1 = d₁ := by
    with_unfolding_all rfl
  have hsecond : (d₁.call read ⟨1, "b", Guards.opening⟩).1 = d := by with_unfolding_all rfl
  have hlisted : (d.call read ⟨2, "", Guards.listing "a"⟩).1 = d₂ := by with_unfolding_all rfl
  have hthird : (d₂.call read ⟨3, "c", Guards.opening⟩).1 = d₃ := by with_unfolding_all rfl
  have hpicked : (d₃.call read ⟨4, "", Guards.picking "a"⟩).1 = d₄ := by with_unfolding_all rfl
  have hbefore : (start s.codex ⟨2, 100⟩).run read before = d := by
    rw [← hsecond, ← hfirst]
    rfl
  have hafter : d.run read after = d₄ := by
    rw [← hpicked, ← hthird, ← hlisted]
    rfl
  have hopen : d.StaysOpen read "a" after := by
    refine ⟨List.mem_cons_self, ?_⟩
    rw [hlisted]
    refine ⟨List.mem_cons_self, ?_⟩
    rw [hthird]
    refine ⟨List.mem_cons_self, ?_⟩
    rw [hpicked]
    exact List.mem_cons_self
  have hlisting : (Guards.listing "a").addressee? = some "a" := by with_unfolding_all rfl
  have hpicking : (Guards.picking "a").addressee? = some "a" := by with_unfolding_all rfl
  have hopening : Guards.opening.addressee? = none := by with_unfolding_all rfl
  have halone : alone.map Call.request =
      (after.map Call.request).filter fun r => r.addressee? = some "a" := by
    simp [alone, after, hlisting, hpicking, hopening]
  have hisolated := run_isolated read s.codex ⟨2, 100⟩ before after alone "a" (by simp [after])
    (by rwa [hbefore]) halone
  rw [hbefore] at hisolated
  obtain ⟨hedit, -, hreplies⟩ := hisolated
  refine ⟨hbefore, hafter, hopen, ?_, hreplies⟩
  rw [hedit, hafter]
  rfl

end Muster.Desk
