import Muster.Proofs.Edits
import Muster.Proofs.Sessions
import Muster.Service.Desk

/-!
# Requests

A request is turned away before it comes to an edit, or it is one act on the edit that its path
names. An act can be several steps in a row. It is shown that the steps do not come apart: an act
that fails leaves the edit as it was, and none stops between applying picks and going back to
viewing. So a request that is refused changes no open edit, and no edit is left in the applied
stage, whatever has been asked of the desk before. All this holds of bodies read in any way.
-/

namespace Muster

/-- The id in a path that leads to an edit. -/
def Desk.idIn? : List String → Option String
  | "api" :: "units" :: id :: _ => some id
  | _ => none

/-- The id of the edit that a request is addressed to. -/
def Request.addressee? (r : Request) : Option String :=
  Desk.idIn? (Desk.steps (Desk.resource r.path))

namespace Edit

variable {e e' : Edit} {c : Call}

/-! ## Steps in a row -/

/-- An edit is left as it was, but for options without picks that have been read. -/
def Kept (e e' : Edit) : Prop := e'.stage = e.stage ∧ Squad.Untouched e.squad e'.squad

/-- An edit that is the same is kept. -/
theorem Kept.refl (e : Edit) : Kept e e := ⟨rfl, .of_eq rfl⟩

/-- Only applying picks leads to the applied stage. -/
theorem Call.next_ne_applied (hc : c ≠ .apply) {stage : Stage} (h : stage ≠ .applied) :
    c.next stage ≠ .applied := by
  cases c with
  | apply => exact absurd rfl hc
  | list =>
    rw [Call.next]
    split
    · exact Stage.noConfusion
    · exact h
  | pick | pickList | finish | cancel | reset => exact Stage.noConfusion
  | resize | resizeModels | rename => exact h

/-- No call but applying leads to the applied stage. -/
theorem stage_call_ne_applied (hc : c ≠ .apply) (h : e.stage ≠ .applied) :
    (e.call c).1.stage ≠ .applied := by
  rcases hcall : e.call c with ⟨e', err | _⟩
  · rwa [(call_failed hcall).1]
  · rw [(call_ok hcall).2.2]
    exact Call.next_ne_applied hc h

/-- A pick that succeeds leaves the edit pending, with its sheets read. -/
theorem exists_sheets_of_pick (hc : c.step? = some .pick) (h : e.call c = (e', .ok ())) :
    e'.stage = .pending ∧ ∃ sheets, e'.squad.sheets = some sheets := by
  obtain ⟨-, hok, hstage⟩ := call_ok h
  cases c with
  | pick | pickList => exact ⟨hstage, Squad.exists_sheets_of_editSheet hok⟩
  | list | apply | finish | cancel | resize | resizeModels | reset | rename => cases hc

/-- Applying that succeeds leads to the applied stage. -/
theorem stage_of_apply {points : Nat} (h : e.apply = (e', .ok points)) : e'.stage = .applied := by
  have hcall : e.call .apply = (e', .ok ()) := by rw [call, h]; rfl
  exact (call_ok hcall).2.2

/-- After picks were applied the edit can go back to viewing. -/
theorem finish_of_applied (h : e.stage = .applied) :
    e.finish = ({ e with stage := .viewing }, .ok ()) := by
  rw [finish, inTurn, h, if_pos (by simp [Step.stages])]

end Edit

namespace Guards

/-- A desk with room for two. -/
def desk (x : Codex) (sessions : List Session) : Desk := ⟨x, ⟨⟨2, 100⟩, sessions⟩, []⟩

/-- The request to open an edit of guards. -/
def opening : Request := ⟨"POST", "/api/units", "[\"Troops\", \"Guards\"]"⟩

/-- The request to show the options. -/
def listing (id : String) : Request := ⟨"GET", "/api/units/" ++ id ++ "/options", ""⟩

/-- The request to pick a bow. -/
def picking (id : String) : Request := ⟨"POST", "/api/units/" ++ id ++ "/select", "[0, 1]"⟩

/-- The request to apply what is picked. -/
def applying (id : String) : Request := ⟨"POST", "/api/units/" ++ id ++ "/apply", ""⟩

/-- A guard that may exchange the axe for a bow. -/
def axeman : Squad := recruit 5 ["Axe"] "Axe/Bow" [axe, bow] [axe] 13

/-- The guard, with the bow picked. -/
def chooser : Squad :=
  { axeman with sheets := some [{ drillSheet "Axe/Bow" [axe, bow] [axe] with picks := [⟨1, 1⟩] }] }

/-- The guard, with the bow taken. -/
def bowman : Squad := { axeman with gear := [bow], points := 15 }

end Guards

namespace Desk

open Edit (Kept)

variable {x : Codex} {r : Request} {t : Task} {e e' : Edit} {err : ServiceError}
  {read : Json.Reader}

/-! ## Acts -/

/-- What becomes of an edit in one go: it fails and is left as it was, or all is done and it is not
left in the applied stage. -/
inductive Tidy (e : Edit) : Edit × Except ServiceError Json → Prop where
  | failed {e' : Edit} {err : ServiceError} : Kept e e' → Tidy e (e', .error err)
  | done {e' : Edit} {v : Json} : (e.stage ≠ .applied → e'.stage ≠ .applied) → Tidy e (e', .ok v)

/-- Work that is tidy and fails has kept the edit. -/
theorem Tidy.kept (h : Tidy e (e', .error err)) : Kept e e' := by
  cases h
  assumption

/-- Tidy work does not leave an edit in the applied stage. -/
theorem Tidy.settled {outcome : Edit × Except ServiceError Json} (h : Tidy e outcome)
    (hstage : e.stage ≠ .applied) : outcome.1.stage ≠ .applied := by
  cases h with
  | failed hkept => rwa [hkept.1]
  | done hdone => exact hdone hstage

/-- A single call is tidy, unless it applies picks. -/
theorem tidy_shown {c : Edit.Call} (hc : c ≠ .apply) (form : Edit → α → Json)
    {p : Edit × Except EditError α} (hp : e.call c = p.map id (Except.map fun _ => ())) :
    Tidy e (shown form p) := by
  rcases p with ⟨e', err | v⟩
  · exact .failed (Edit.call_failed hp)
  · refine .done fun hstage => ?_
    have hnext := Edit.stage_call_ne_applied hc hstage
    rwa [hp] at hnext

/-- Showing an edit is tidy. -/
theorem tidy_showEdit (id : String) (e : Edit) : Tidy e (showEdit id e) := .done fun h => h

/-- Listing the options is tidy. -/
theorem tidy_listOptions (id : String) (e : Edit) : Tidy e (listOptions id e) :=
  tidy_shown (c := .list) Edit.Call.noConfusion _ rfl

/-- Resetting a unit is tidy. -/
theorem tidy_resetUnit (id : String) (e : Edit) : Tidy e (resetUnit id e) := by
  refine tidy_shown (c := .reset) Edit.Call.noConfusion _ ?_
  rw [Edit.call]
  rcases e.reset with ⟨e', err | _⟩ <;> rfl

/-- Changing the size is tidy. -/
theorem tidy_changeSize (id : String) (order : SizeOrder) (e : Edit) :
    Tidy e (changeSize id order e) := by
  unfold changeSize
  split
  · next counts _ => exact tidy_shown (c := .resizeModels counts) Edit.Call.noConfusion _ rfl
  · next size _ _ => exact tidy_shown (c := .resize size) Edit.Call.noConfusion _ rfl
  · exact .failed (.refl e)

/-- An order to pick asks for nothing, or for one call that picks. -/
theorem makePicks_cases (order : PickOrder) (item : Option Gear) (e : Edit) :
    (∃ err, makePicks order item e = (e, .error err)) ∨
      ∃ c : Edit.Call, c.step? = some .pick ∧
        makePicks order item e = ((e.call c).1, (e.call c).2.mapError .edit) := by
  unfold makePicks
  dsimp only
  split
  · next indices _ => exact .inr ⟨.pickList order.option indices, rfl, rfl⟩
  · split
    · exact .inl ⟨_, rfl⟩
    · next c _ => exact .inr ⟨.pick order.option c, rfl, rfl⟩

/-- The options can be listed whenever the picks are made, so that all of it fails or none. -/
theorem tidy_pickAndList (id : String) (order : PickOrder) (item : Option Gear) (e : Edit) :
    Tidy e (pickAndList id order item e) := by
  rcases makePicks_cases order item e with ⟨err, hmake⟩ | ⟨c, hc, hmake⟩
  · rw [pickAndList, hmake]
    exact .failed (.refl e)
  · rcases hcall : e.call c with ⟨e', err | _⟩
    all_goals
      rw [hcall] at hmake
      rw [pickAndList, hmake]
    · exact .failed (Edit.call_failed hcall)
    · obtain ⟨hstage, sheets, hsheets⟩ := Edit.exists_sheets_of_pick hc hcall
      have hturn : e'.stage ∈ Step.list.stages := by rw [hstage]; decide
      have hnext : Edit.Call.list.next e'.stage = e'.stage := by rw [hstage]; rfl
      have hlist : listOptions id e' = (e', .ok (Payload.options id e' e'.squad.listings)) := by
        rw [listOptions, Edit.list_of_read hturn
          (Squad.perform_readSheets_of_some hsheets), hnext]
        rfl
      change Tidy e (listOptions id e')
      rw [hlist]
      exact .done fun _ => by simp [hstage]

/-- Going back to viewing does not fail once the picks are applied. -/
theorem tidy_applyPicks (id : String) (e : Edit) : Tidy e (applyPicks id e) := by
  rw [applyPicks]
  rcases happly : e.apply with ⟨e', err | points⟩
  · have hcall : e.call .apply = (e', .error err) := by rw [Edit.call, happly]; rfl
    exact .failed (Edit.call_failed hcall)
  · dsimp only
    rw [Edit.finish_of_applied (Edit.stage_of_apply happly)]
    exact .done fun _ => Stage.noConfusion

/-- What is asked of a broken edit leaves it as it was, and anything else is done. -/
theorem Tidy.attempt {id : String} {act : Edit → Edit × Except ServiceError Json}
    (h : Tidy e (act e)) (d : Desk) : Tidy e (d.attempt id act e) := by
  unfold Desk.attempt
  split
  · exact .failed (.refl e)
  · exact h

/-! ## Tasks -/

/-- A task as a request can ask for: it works on the edit that the request is addressed to, if on
any, and in a tidy way. -/
inductive Meant (r : Request) : Task → Prop where
  | health : r.addressee? = none → Meant r .health
  | units : r.addressee? = none → Meant r .units
  | enter {s : Squad} : r.addressee? = none → Meant r (.enter s)
  | edit {id : String} {act : Edit → Edit × Except ServiceError Json} :
      r.addressee? = some id → (∀ e, Tidy e (act e)) → Meant r (.edit id act)
  | close {id : String} : r.addressee? = some id → Meant r (.close id)
  | refuse (err : ServiceError) : Meant r (.refuse err)

/-- Opening a unit is meant by a request to no edit. -/
theorem meant_openUnit (x : Codex) (body : String) (h : r.addressee? = none) :
    Meant r (openUnit read x body) := by
  unfold openUnit
  split
  · exact .refuse _
  · split
    · exact .refuse _
    · split
      · exact .refuse _
      · exact .enter h

/-- Picking is meant by a request to the edit it picks on. -/
theorem meant_pickOptions (x : Codex) {id : String} (body : String)
    (h : r.addressee? = some id) : Meant r (pickOptions read x id body) := by
  unfold pickOptions
  split
  · exact .refuse _
  · split
    · exact .refuse _
    · exact .edit h (tidy_pickAndList id _ _)

/-- Resizing is meant by a request to the edit it resizes. -/
theorem meant_resizeUnit {id : String} (body : String) (h : r.addressee? = some id) :
    Meant r (resizeUnit read id body) := by
  unfold resizeUnit
  split
  · exact .refuse _
  · exact .edit h (tidy_changeSize id _)

/-- The task that a request is read as is meant by it. -/
theorem meant_task (read : Json.Reader) (x : Codex) (r : Request) : Meant r (task read x r) := by
  have haddressee {path : List String} (h : steps (resource r.path) = path) :
      r.addressee? = idIn? path := congrArg idIn? h
  unfold task
  dsimp only
  split
  next h => exact .health (haddressee h)
  next h => exact .units (haddressee h)
  next h => exact meant_openUnit x r.body (haddressee h)
  next id _ h => exact .edit (haddressee h) (tidy_showEdit id)
  next h => exact .close (haddressee h)
  next id _ h => exact .edit (haddressee h) (tidy_listOptions id)
  next h => exact meant_pickOptions x r.body (haddressee h)
  next id _ h => exact .edit (haddressee h) (tidy_applyPicks id)
  next h => exact meant_resizeUnit r.body (haddressee h)
  next id _ h => exact .edit (haddressee h) (tidy_resetUnit id)
  · exact .refuse _

/-! ## Calls -/

/-- A request, with the time and the new id that it comes with. -/
structure Call where
  now : Nat
  newId : String
  request : Request

/-- The desk after a request, and the reply if it does not abort. -/
def call (read : Json.Reader) (d : Desk) (c : Call) : Desk × Option Reply :=
  d.handle read c.now c.newId c.request

/-- The desk after a history of requests. -/
def run (read : Json.Reader) (d : Desk) (calls : List Call) : Desk :=
  calls.foldl (fun d c => (d.call read c).1) d

variable {d d' : Desk} {c : Call} {now : Nat} {newId : String}

/-- The desk is left as the task of the request leaves it, and the reply gives the result. -/
theorem call_eq (read : Json.Reader) (d : Desk) (c : Call) :
    d.call read c =
      ((d.carryOut c.now c.newId (task read d.codex c.request)).1,
        Reply.ofResult (task read d.codex c.request).status
          (d.carryOut c.now c.newId (task read d.codex c.request)).2) := rfl

/-- A task comes to at most one call on the registry. -/
theorem carryOut_cases (d : Desk) (now : Nat) (newId : String) (t : Task) :
    (d.carryOut now newId t).1 = d ∨
      ∃ c broken, (d.carryOut now newId t).1 =
        { d with registry := d.registry.call now c, broken } := by
  cases t with
  | health | units | refuse => exact .inl rfl
  | enter s => exact .inr ⟨.insert newId s, _, rfl⟩
  | edit id act =>
    rw [carryOut, withEdit]
    cases hfind : d.registry.find? id with
    | none => exact .inl rfl
    | some s =>
      refine .inr ⟨.use id fun e => (d.attempt id act e).1,
        d.brokenBy id (d.attempt id act s.edit).2, ?_⟩
      rw [Registry.call, hfind]
  | close id =>
    rw [carryOut, closeUnit]
    split
    · exact .inl rfl
    · exact .inr ⟨.erase id, d.broken, rfl⟩

/-- A request leaves the codex as it was. -/
theorem codex_call (d : Desk) (c : Call) : (d.call read c).1.codex = d.codex := by
  rw [call_eq]
  rcases carryOut_cases d c.now c.newId (task read d.codex c.request) with h | ⟨c', broken, h⟩ <;>
    rw [h]

/-! ## Requests that are refused -/

/-- The same edits are open, each as it was but for options without picks that have been read, and
the same ones are broken. -/
structure Alike (d d' : Desk) : Prop where
  ids : d'.registry.ids = d.registry.ids
  edits : ∀ id s, d.registry.find? id = some s →
    ∃ s', d'.registry.find? id = some s' ∧ Kept s.edit s'.edit
  broken : d'.broken = d.broken

/-- A desk is alike to itself. -/
theorem Alike.refl (d : Desk) : Alike d d := ⟨rfl, fun _ s h => ⟨s, h, .refl s.edit⟩, rfl⟩

/-- A task that is refused without an abort leaves the desk alike. -/
theorem carryOut_failed (hmeant : Meant r t) (hrefused : err.aborts = false)
    (h : d.carryOut now newId t = (d', .error err)) : Alike d d' := by
  cases hmeant with
  | health | units | enter => cases h
  | refuse =>
    cases h
    exact .refl d
  | close =>
    rw [carryOut, closeUnit] at h
    split at h <;> cases h
    exact .refl d
  | @edit id act _ htidy =>
    rw [carryOut, withEdit] at h
    split at h
    · cases h
      exact .refl d
    · next s hs =>
      rcases hact : d.attempt id act s.edit with ⟨e, err' | v⟩
      all_goals
        rw [hact] at h
        cases h
      have hkept : Kept s.edit e := (hact ▸ (htidy s.edit).attempt d).kept
      have hbroken : d.brokenBy id (.error err) = d.broken := by rw [brokenBy, hrefused]; rfl
      refine ⟨Registry.ids_put, fun id' s' hs' => ?_, hbroken⟩
      rw [Registry.find?_put, hs']
      split
      · next hid =>
        subst hid
        rw [hs] at hs'
        cases hs'
        exact ⟨_, rfl, hkept⟩
      · exact ⟨s', rfl, .refl s'.edit⟩

/-- After every history of requests, one that is answered neither with success nor with a new edit
leaves the same edits open, each with its stage, its picks, and the name, gear, groups and points of
its squad as they were, and none of them broken by it. -/
theorem run_refused (read : Json.Reader) (x : Codex) (limits : Limits) (calls : List Call)
    (c : Call) :
    let d := (start x limits).run read calls
    ∀ reply, (d.call read c).2 = some reply → reply.status.code ≠ 200 → reply.status.code ≠ 201 →
      Alike d (d.call read c).1 := by
  intro d reply hreply hok hcreated
  rw [call_eq] at hreply ⊢
  rcases hout : d.carryOut c.now c.newId (task read d.codex c.request) with ⟨d', err | v⟩
  all_goals rw [hout] at hreply
  · have hrefused : err.aborts = false := by
      dsimp only [Reply.ofResult] at hreply
      split at hreply
      · cases hreply
      · next h => exact Bool.not_eq_true _ ▸ h
    exact carryOut_failed (meant_task read d.codex c.request) hrefused hout
  · obtain rfl := Option.some.inj hreply
    cases ht : task read d.codex c.request with
    | enter =>
      rw [ht] at hcreated
      exact absurd rfl hcreated
    | health | units | edit | close | refuse =>
      rw [ht] at hok
      exact absurd rfl hok

/-- A single guard cannot have the bow that was picked for every second one: the request to apply
it is refused, and the pick stays. -/
theorem run_refused_guards :
    let calls : List Call :=
      [⟨0, "a", Guards.opening⟩, ⟨1, "", Guards.listing "a"⟩, ⟨2, "", Guards.picking "a"⟩]
    let s := Guards.squad ["Axe"] [Guards.axe] 1 13
    let e : Edit := ⟨{ s with sheets := some [Guards.sheet [⟨1, 1⟩]] }, .pending⟩
    let d := Guards.desk s.codex [⟨"a", e, 2⟩]
    let outcome := d.call Json.read? ⟨3, "", Guards.applying "a"⟩
    (start s.codex ⟨2, 100⟩).run Json.read? calls = d ∧
      outcome.2.map (·.status.code) = some 422 ∧ Alike d outcome.1 := by
  intro calls s e d outcome
  let d₁ := Guards.desk s.codex [⟨"a", .start s, 0⟩]
  let d₂ := Guards.desk s.codex [⟨"a", ⟨{ s with sheets := some [Guards.sheet []] }, .listed⟩, 1⟩]
  have hopened : ((start s.codex ⟨2, 100⟩).call Json.read? ⟨0, "a", Guards.opening⟩).1 = d₁ := by
    with_unfolding_all rfl
  have hlisted : (d₁.call Json.read? ⟨1, "", Guards.listing "a"⟩).1 = d₂ := by
    with_unfolding_all rfl
  have hpicked : (d₂.call Json.read? ⟨2, "", Guards.picking "a"⟩).1 = d := by
    with_unfolding_all rfl
  have hrun : (start s.codex ⟨2, 100⟩).run Json.read? calls = d := by
    rw [← hpicked, ← hlisted, ← hopened]
    rfl
  have hcode : (d.call Json.read? ⟨3, "", Guards.applying "a"⟩).2.map (·.status.code) =
      some 422 := by
    with_unfolding_all rfl
  obtain ⟨reply, hreply, hstatus⟩ := Option.map_eq_some_iff.mp hcode
  have hkept := run_refused Json.read? s.codex ⟨2, 100⟩ calls ⟨3, "", Guards.applying "a"⟩
  rw [hrun] at hkept
  exact ⟨hrun, hcode, hkept reply hreply (by rw [hstatus]; decide) (by rw [hstatus]; decide)⟩

/-! ## Edits between requests -/

/-- No open edit has picks applied that it has not finished with. -/
def Settled (d : Desk) : Prop := ∀ s ∈ d.registry.sessions, s.edit.stage ≠ .applied

/-- Carrying out a task leaves all open edits settled. -/
theorem Settled.carryOut (h : d.Settled) (hmeant : Meant r t) :
    (d.carryOut now newId t).1.Settled := by
  cases hmeant with
  | health | units | refuse => exact h
  | enter =>
    intro s hs
    rcases Registry.mem_of_mem_insert hs with rfl | ⟨hopen, -⟩
    · exact Stage.noConfusion
    · exact h s hopen
  | close =>
    rw [Desk.carryOut, closeUnit]
    split
    · exact h
    · exact fun s hs => h s (List.mem_of_mem_filter hs)
  | @edit id act _ htidy =>
    rw [Desk.carryOut, withEdit]
    split
    · exact h
    · next s hs =>
      intro s' hs'
      obtain ⟨s'', hopen, rfl⟩ := List.mem_map.mp hs'
      split
      · exact ((htidy s.edit).attempt d).settled (h s (Registry.mem_of_find? hs).1)
      · exact h s'' hopen

/-- A request leaves all open edits settled. -/
theorem Settled.call (h : d.Settled) (c : Call) : (d.call read c).1.Settled := by
  rw [call_eq]
  exact h.carryOut (meant_task read d.codex c.request)

/-- All open edits stay settled whatever is requested. -/
theorem Settled.run (h : d.Settled) (calls : List Call) : (d.run read calls).Settled := by
  induction calls generalizing d with
  | nil => exact h
  | cons c rest ih => exact ih (h.call c)

/-- Listing options is in turn but for the applied stage, so that it fails only over an option that
cannot be read. -/
theorem exists_of_list_eq_error {err : EditError} (hstage : e.stage ≠ .applied)
    (h : e.list = (e', .error err)) :
    ∃ squad clause err', err = .squad (.offer squad clause err') := by
  have hturn : e.stage ∈ Step.stages .list := by
    cases hs : e.stage <;> simp_all [Step.stages]
  rw [Edit.list, Edit.inTurn, if_pos hturn, Edit.work, Squad.perform_ensureSheets] at h
  rcases hread : e.squad.perform Squad.readSheets with ⟨s, err' | sheets⟩
  all_goals
    rw [hread] at h
    cases h
  obtain ⟨clause, err, rfl⟩ := Squad.readSheets_failed hread
  exact ⟨_, clause, err, rfl⟩

/-- After every history of requests no open edit is in the applied stage, and listing the options of
an open edit is always answered, and never with a conflict. -/
theorem run_settled (read : Json.Reader) (x : Codex) (limits : Limits) (calls : List Call) :
    let d := (start x limits).run read calls
    (∀ s ∈ d.registry.sessions, s.edit.stage ≠ .applied) ∧
      ∀ c id, id ∈ d.registry.ids → c.request.method = "GET" →
        steps (resource c.request.path) = ["api", "units", id, "options"] →
        ∃ reply, (d.call read c).2 = some reply ∧ reply.status.code ≠ 409 := by
  intro d
  have hstart : (start x limits).Settled := fun s hs => absurd hs List.not_mem_nil
  have hsettled : d.Settled := hstart.run calls
  refine ⟨hsettled, fun c id hopen hmethod hsteps => ?_⟩
  have htask : task read d.codex c.request = .edit id (listOptions id) := by
    rw [task, hmethod, hsteps]
    rfl
  obtain ⟨s, hs⟩ := Option.ne_none_iff_exists'.mp fun h => Registry.find?_eq_none_iff.mp h hopen
  have hstage := hsettled s (Registry.mem_of_find? hs).1
  rw [call_eq, htask, carryOut, withEdit, hs]
  dsimp only
  by_cases hbroken : id ∈ d.broken
  · have hrefused : d.attempt id (listOptions id) s.edit = (s.edit, .error .broken) :=
      if_pos hbroken
    rw [hrefused]
    exact ⟨_, rfl, by decide⟩
  · have hdone : d.attempt id (listOptions id) s.edit = listOptions id s.edit := if_neg hbroken
    rw [hdone]
    rcases hlist : s.edit.list with ⟨e', err | listings⟩
    all_goals rw [listOptions, hlist]
    · obtain ⟨squad, clause, err', rfl⟩ := exists_of_list_eq_error hstage hlist
      refine ⟨_, rfl, ?_⟩
      change 500 ≠ 409
      decide
    · refine ⟨_, rfl, ?_⟩
      change 200 ≠ 409
      decide

/-- A guard who has taken a bow for the axe can list the options again. -/
theorem run_settled_recruit :
    let calls : List Call :=
      [⟨0, "a", Guards.opening⟩, ⟨1, "", Guards.listing "a"⟩, ⟨2, "", Guards.picking "a"⟩,
        ⟨3, "", Guards.applying "a"⟩]
    let d := Guards.desk Guards.axeman.codex [⟨"a", ⟨Guards.bowman, .viewing⟩, 3⟩]
    let c : Call := ⟨4, "", Guards.listing "a"⟩
    (start Guards.axeman.codex ⟨2, 100⟩).run Json.read? calls = d ∧ "a" ∈ d.registry.ids ∧
      (∀ s ∈ d.registry.sessions, s.edit.stage ≠ .applied) ∧
      ∃ reply, (d.call Json.read? c).2 = some reply ∧ reply.status.code ≠ 409 := by
  let d₁ := Guards.desk Guards.axeman.codex
    [⟨"a", ⟨{ Guards.axeman with sheets := none }, .viewing⟩, 0⟩]
  let d₂ := Guards.desk Guards.axeman.codex [⟨"a", ⟨Guards.axeman, .listed⟩, 1⟩]
  let d₃ := Guards.desk Guards.axeman.codex [⟨"a", ⟨Guards.chooser, .pending⟩, 2⟩]
  intro calls d c
  have hopened : ((start Guards.axeman.codex ⟨2, 100⟩).call Json.read?
      ⟨0, "a", Guards.opening⟩).1 = d₁ := by with_unfolding_all rfl
  have hlisted : (d₁.call Json.read? ⟨1, "", Guards.listing "a"⟩).1 = d₂ := by
    with_unfolding_all rfl
  have hpicked : (d₂.call Json.read? ⟨2, "", Guards.picking "a"⟩).1 = d₃ := by
    with_unfolding_all rfl
  have happlied : (d₃.call Json.read? ⟨3, "", Guards.applying "a"⟩).1 = d := by
    with_unfolding_all rfl
  have hrun : (start Guards.axeman.codex ⟨2, 100⟩).run Json.read? calls = d := by
    rw [← happlied, ← hpicked, ← hlisted, ← hopened]
    rfl
  have hsettled := run_settled Json.read? Guards.axeman.codex ⟨2, 100⟩ calls
  rw [hrun] at hsettled
  have hopen : "a" ∈ d.registry.ids := List.mem_singleton_self _
  have hsteps : steps (resource (Guards.listing "a").path) = ["api", "units", "a", "options"] := by
    with_unfolding_all rfl
  exact ⟨hrun, hopen, hsettled.1, hsettled.2 c "a" hopen rfl hsteps⟩

end Desk

end Muster
