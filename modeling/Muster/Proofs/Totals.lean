import Mathlib.Data.List.Nodup
import Mathlib.Data.List.Perm.Basic
import Muster.Force

/-!
# Totals of a force

The points of a squad stop at the largest amount; the totals of a detachment and of a force do not.
They are running sums in a checked register, which gives up as soon as a sum has no room. Beside them
stand the sums that a register would keep that is not checked, as they wrap. Both are compared here
with the exact points of the squads, looked up role by role, after every history of a force. A total
comes back stopped at the largest amount exactly where nothing has to be stopped, but for sums that
happen to wrap to that amount.
-/

namespace Muster

namespace Amount

/-! ## Registers -/

/-- What a register keeps of a number if it is not checked. -/
def wrap (n : Nat) : Nat := n % (cap + 1)

/-- A number that has room is kept as it is. -/
theorem wrap_of_le {n : Nat} (h : n ≤ cap) : wrap n = n := Nat.mod_eq_of_lt (Nat.lt_succ_of_le h)

/-- The second part of a sum may wrap before the sum does. -/
theorem wrap_add_wrap (a b : Nat) : wrap (a + wrap b) = wrap (a + b) := Nat.add_mod_mod ..

/-- The first part of a sum may wrap before the sum does. -/
theorem wrap_wrap_add (a b : Nat) : wrap (wrap a + b) = wrap (a + b) := Nat.mod_add_mod ..

/-- A sum of registers wraps as the exact sum does. -/
theorem wrap_sum_map_wrap (f : α → Nat) (xs : List α) :
    wrap (sum (xs.map fun x => wrap (f x))) = wrap (sum (xs.map f)) := by
  induction xs with
  | nil => rfl
  | cons x rest ih =>
    rw [List.map_cons, List.map_cons, sum, sum, wrap_wrap_add, ← wrap_add_wrap, ih, wrap_add_wrap]

/-- Past the largest amount, a register holds it only by chance. -/
theorem wrap_eq_clamp_iff (n : Nat) : wrap n = clamp n ↔ n ≤ cap ∨ wrap n = cap := by
  by_cases h : n ≤ cap
  · simp only [wrap_of_le h, clamp_of_le h, h, true_or]
  · have hstop : clamp n = cap := Nat.min_eq_right (Nat.le_of_not_le h)
    simp only [hstop, h, false_or]

/-- A checked register holds the stopped number exactly where the number has room. -/
theorem checked_eq_some_clamp_iff (n : Nat) : checked n = some (clamp n) ↔ n ≤ cap := by
  rw [checked_eq_some_iff]
  exact ⟨And.left, fun h => ⟨h, (clamp_of_le h).symm⟩⟩

/-- What is in a checked register has room in another. -/
theorem checked_bind_checked (n : Nat) : (checked n).bind checked = checked n := by
  unfold checked
  split
  · next h => exact if_pos h
  · rfl

end Amount

/-! ## Tables with one row a key -/

namespace Table

variable {κ ν : Type}

/-- No key has two rows. -/
def Single (t : Table κ ν) : Prop := t.keys.Nodup

/-- An empty table has no key twice. -/
theorem single_empty : (empty : Table κ ν).Single := List.nodup_nil

/-- A row that is put in its place is one of the rows. -/
theorem place_perm [Ord κ] (k : κ) (v : ν) (rows : List (κ × ν)) :
    (place k v rows).Perm ((k, v) :: rows) := by
  induction rows with
  | nil => exact .refl _
  | cons row rest ih =>
    unfold place
    split
    · exact .refl _
    · exact (ih.cons row).trans (.swap (k, v) row rest)

variable [DecidableEq κ]

/-- A table without a key twice stays so when a row is put in. -/
theorem Single.insert [Ord κ] {t : Table κ ν} (h : t.Single) (k : κ) (v : ν) :
    (t.insert k v).Single := by
  have hkeys : (t.insert k v).keys.Perm
      (k :: (t.rows.filter fun row => row.1 ≠ k).map Prod.fst) := (place_perm k v _).map Prod.fst
  refine hkeys.nodup_iff.mpr (List.nodup_cons.mpr ⟨?_, ?_⟩)
  · simp
  · exact h.sublist (List.filter_sublist.map Prod.fst)

/-- A table without a key twice finds every one of its rows. -/
theorem Single.direct {t : Table κ ν} (h : t.Single) : t.Direct := by
  obtain ⟨rows⟩ := t
  induction rows with
  | nil => exact fun row hrow => absurd hrow List.not_mem_nil
  | cons head rest ih =>
    obtain ⟨hhead, hrest⟩ := List.nodup_cons.mp h
    intro row hrow
    rcases List.mem_cons.mp hrow with rfl | hrow
    · simp [get?]
    · have hne : head.1 ≠ row.1 := fun heq => hhead (heq ▸ List.mem_map_of_mem hrow)
      have hfound := ih hrest row hrow
      simpa [get?, hne] using hfound

/-- Nothing is found at a key that a table does not have. -/
theorem get?_eq_none {t : Table κ ν} {k : κ} (h : k ∉ t.keys) : t.get? k = none := by
  cases hget : t.get? k with
  | none => rfl
  | some v => exact absurd (List.mem_map_of_mem (mem_of_get? hget)) h

/-- Looking up every key once, in any order, finds what the table lists. -/
theorem Single.flatMap_perm {t : Table κ (List α)} (h : t.Single) {order : List κ}
    (horder : order.Nodup) (hall : ∀ k, k ∈ order) :
    (order.flatMap fun k => (t.get? k).getD []).Perm t.values.flatten := by
  -- the keys that are not in the table contribute nothing
  have hpresent : order.flatMap (fun k => (t.get? k).getD []) =
      (order.filter (· ∈ t.keys)).flatMap fun k => (t.get? k).getD [] := by
    rw [List.flatMap_def, List.flatMap_def]
    clear horder hall
    induction order with
    | nil => rfl
    | cons k rest ih =>
      by_cases hk : k ∈ t.keys
      · simp [hk, ih]
      · simp [hk, ih, get?_eq_none hk]
  have hkeys : (order.filter (· ∈ t.keys)).Perm t.keys :=
    (List.perm_ext_iff_of_nodup (horder.filter _) h).mpr fun k => by simp [hall k]
  have hrows : t.keys.flatMap (fun k => (t.get? k).getD []) = t.values.flatten := by
    rw [keys, values, List.flatMap_map, ← List.flatMap_def]
    refine List.flatMap_congr fun row hrow => ?_
    rw [h.direct row hrow]
    rfl
  rw [hpresent, ← hrows]
  exact hkeys.flatMap_right _

end Table

/-- No role is listed twice. -/
theorem Role.nodup_all : Role.all.Nodup := by decide

/-- Every role is listed. -/
theorem Role.mem_all (r : Role) : r ∈ Role.all := by cases r <;> decide

/-! ## Detachments -/

namespace Detachment

open Amount (cap clamp wrap checked total?)

/-- The exact points of all squads, as they are looked up by role. -/
def worth (d : Detachment) : Nat :=
  Amount.sum ((Role.all.flatMap d.filed).map Squad.points)

/-- The points of all squads as they wrap where the sum is not checked. -/
def wrapped (d : Detachment) : Nat := wrap (Amount.sum (d.all.map Squad.points))

/-- What can be done to a detachment. -/
inductive Act where
  | add (s : Squad)
  | remove (role : Role) (index : Nat)
  /-- any change to the squad in a place -/
  | edit (role : Role) (index : Nat) (change : Squad → Squad)
  | rename (name : String)

/-- Does it; a place without a squad is left as it is. -/
def act (d : Detachment) : Act → Detachment
  | .add s => d.add s
  | .remove role index => (d.remove role index).1
  | .edit role index change =>
    match (d.filed role)[index]? with
    | none => d
    | some s => d.replace role index (change s)
  | .rename name => d.rename name

variable {d : Detachment}

/-- Whatever is done to a detachment, each role is listed once. -/
theorem single_act (h : d.squads.Single) (a : Act) : (d.act a).squads.Single := by
  cases a with
  | add s => exact h.insert ..
  | remove role index =>
    dsimp only [act, remove]
    split
    · exact h
    · exact h.insert ..
  | edit role index change =>
    dsimp only [act, replace]
    split
    · exact h
    · split
      · exact h
      · exact h.insert ..
  | rename name => exact h

/-- Listing the squads and looking them up comes to the same points. -/
theorem sum_points_all (h : d.squads.Single) :
    Amount.sum (d.all.map Squad.points) = d.worth :=
  Amount.sum_eq_of_perm
    ((h.flatMap_perm Role.nodup_all Role.mem_all).symm.map Squad.points)

/-- An unchecked total wraps as the exact points do. -/
theorem wrapped_eq_wrap_worth (h : d.squads.Single) : d.wrapped = wrap d.worth := by
  rw [wrapped, sum_points_all h]

/-- A checked total is there exactly where the exact points have room. -/
theorem points?_eq_checked_worth (h : d.squads.Single) : d.points? = checked d.worth := by
  have hsum : d.points? = checked (Amount.sum (d.all.map Squad.points)) :=
    Amount.total?_eq_checked_sum fun s _ => rfl
  rw [hsum, sum_points_all h]

end Detachment

/-! ## Forces -/

namespace Force

open Amount (cap clamp wrap checked total?)

/-- The exact points of all squads of all detachments. -/
def worth (f : Force) : Nat := Amount.sum (f.detachments.map Detachment.worth)

/-- The points of all detachments as they wrap where no sum is checked. -/
def wrapped (f : Force) : Nat := wrap (Amount.sum (f.detachments.map Detachment.wrapped))

/-- What can be done to a force. -/
inductive Act where
  | addDetachment (kind : String)
  | removeDetachment (index : Nat)
  | change (index : Nat) (a : Detachment.Act)
  | rename (name : String)

/-- Does it, unless that aborts; a place without a detachment is left as it is. -/
def act (f : Force) : Act → Option Force
  | .addDetachment kind => (f.addDetachment kind).map Prod.fst
  | .removeDetachment index => some (f.removeDetachment index).1
  | .change index a => some (f.modifyDetachment index (Detachment.act · a))
  | .rename name => some (f.rename name)

/-- The force after a history, if nothing in it aborts. -/
def run (f : Force) (acts : List Act) : Option Force := acts.foldlM act f

variable {f f' : Force}

/-- The name and the force that a new detachment comes with, where there is room for its number. -/
theorem addDetachment_eq_some_iff {kind name : String} :
    f.addDetachment kind = some (f', name) ↔
      (f.numbering.get? kind).getD 0 + 1 ≤ cap ∧
        name = kind ++ " " ++ toString ((f.numbering.get? kind).getD 0 + 1) ∧
        f' = { f with
          detachments := f.detachments ++ [.empty kind name]
          numbering := f.numbering.insert kind ((f.numbering.get? kind).getD 0 + 1) } := by
  rw [addDetachment, Option.map_eq_some_iff]
  constructor
  · rintro ⟨number, hnumber, h⟩
    obtain ⟨hroom, rfl⟩ := Amount.checked_eq_some_iff.mp hnumber
    obtain ⟨rfl, rfl⟩ := Prod.mk.inj h
    exact ⟨hroom, rfl, rfl⟩
  · rintro ⟨hroom, rfl, rfl⟩
    exact ⟨_, Amount.checked_of_le hroom, rfl⟩

/-- Every detachment lists each role once. -/
def Filed (f : Force) : Prop := ∀ d ∈ f.detachments, d.squads.Single

/-- Whatever is done to a force, its detachments list each role once. -/
theorem filed_act (h : f.Filed) {a : Act} (hact : f.act a = some f') : f'.Filed := by
  intro d hd
  cases a with
  | addDetachment kind =>
    obtain ⟨⟨f'', name⟩, hadd, rfl⟩ := Option.map_eq_some_iff.mp hact
    obtain ⟨-, -, rfl⟩ := addDetachment_eq_some_iff.mp hadd
    rcases List.mem_append.mp hd with hold | hnew
    · exact h d hold
    · obtain rfl := List.mem_singleton.mp hnew
      exact Table.single_empty
  | removeDetachment index =>
    cases hact
    exact h d (List.mem_of_mem_eraseIdx hd)
  | change index a =>
    cases hact
    obtain ⟨i, hi, rfl⟩ := List.mem_iff_getElem.mp hd
    have hlength : i < f.detachments.length := by
      simpa only [modifyDetachment, List.length_modify] using hi
    have hold := h _ (List.getElem_mem hlength)
    simp only [modifyDetachment, List.getElem_modify]
    split
    · exact Detachment.single_act hold a
    · exact hold
  | rename name =>
    cases hact
    exact h d hd

/-- After every history, the detachments of a force list each role once. -/
theorem filed_run (h : f.Filed) {acts : List Act} (hrun : f.run acts = some f') : f'.Filed := by
  induction acts generalizing f with
  | nil =>
    cases hrun
    exact h
  | cons a rest ih =>
    rw [run, List.foldlM_cons] at hrun
    obtain ⟨next, hact, hrest⟩ := Option.bind_eq_some_iff.mp hrun
    exact ih (filed_act h hact) hrest

/-- The unchecked totals of the detachments add up to the exact points as they wrap. -/
theorem wrapped_eq_wrap_worth (h : f.Filed) : f.wrapped = wrap f.worth := by
  have hparts : f.detachments.map Detachment.wrapped =
      f.detachments.map fun d => wrap d.worth :=
    List.map_congr_left fun d hd => Detachment.wrapped_eq_wrap_worth (h d hd)
  rw [wrapped, hparts, Amount.wrap_sum_map_wrap, worth]

/-- The checked total of a force is there exactly where the exact points have room. -/
theorem points?_eq_checked_worth (h : f.Filed) : f.points? = checked f.worth := by
  refine Amount.total?_eq_checked_sum fun d hd => ?_
  rw [Detachment.points?_eq_checked_worth (h d hd), Amount.checked_bind_checked]

/-- After every history, a total of a force or of one of its detachments comes back stopped at the
largest amount from a checked register exactly where the exact points have room, and from an
unchecked one where they have room or happen to wrap to the largest amount. -/
theorem totals_run_stop_iff {name faction : String} {acts : List Act}
    (hrun : (empty name faction).run acts = some f) :
    (f.points? = some (clamp f.worth) ↔ f.worth ≤ cap) ∧
      (f.wrapped = clamp f.worth ↔ f.worth ≤ cap ∨ wrap f.worth = cap) ∧
      ∀ d ∈ f.detachments,
        (d.points? = some (clamp d.worth) ↔ d.worth ≤ cap) ∧
          (d.wrapped = clamp d.worth ↔ d.worth ≤ cap ∨ wrap d.worth = cap) := by
  have hfiled : f.Filed := filed_run (fun d hd => absurd hd List.not_mem_nil) hrun
  refine ⟨?_, ?_, fun d hd => ⟨?_, ?_⟩⟩
  · rw [points?_eq_checked_worth hfiled]
    exact Amount.checked_eq_some_clamp_iff f.worth
  · rw [wrapped_eq_wrap_worth hfiled]
    exact Amount.wrap_eq_clamp_iff f.worth
  · rw [Detachment.points?_eq_checked_worth (hfiled d hd)]
    exact Amount.checked_eq_some_clamp_iff d.worth
  · rw [Detachment.wrapped_eq_wrap_worth (hfiled d hd)]
    exact Amount.wrap_eq_clamp_iff d.worth

end Force

/-! ## A force of titans -/

namespace Titans

/-- One titan at three milliards of points, without gear. -/
def template : UnitTemplate :=
  ⟨"Titan", 3000000000, 1, 1, [], [], [], Amount.one_le_cap, Amount.one_le_cap⟩

/-- A codex with no other unit. -/
def codex : Codex := (Codex.ofArsenal "Watch" .empty).addUnit .lordOfWar template

/-- One titan as it is mustered. -/
def titan : Squad :=
  ⟨codex, template, .lordOfWar, "Titan", [], .plain "Titan" 1 3000000000, [], none, 3000000000⟩

/-- What makes a force of two patrols, with two titans in one and a third in the other. -/
def mustering : List Force.Act :=
  [.addDetachment "Patrol", .addDetachment "Patrol", .change 0 (.add titan),
    .change 1 (.add titan), .change 0 (.add titan)]

/-- That force. -/
def host : Force where
  name := "Host"
  faction := "Watch"
  detachments :=
    [((Detachment.empty "Patrol" "Patrol 1").add titan).add titan,
      (Detachment.empty "Patrol" "Patrol 2").add titan]
  numbering := (Table.empty.insert "Patrol" 1).insert "Patrol" 2

/-- Nothing aborts while the force is made. -/
theorem run_mustering : (Force.empty "Host" "Watch").run mustering = some host := by
  with_unfolding_all rfl

/-- The points of its titans by patrols. -/
theorem worth_detachments :
    host.detachments.map Detachment.worth = [6000000000, 3000000000] := by
  with_unfolding_all rfl

end Titans

/-- Two titans have no room in a total: neither their patrol nor the force has one, only the other
patrol has. -/
theorem Force.totals_run_stop_titans :
    (empty "Host" "Watch").run Titans.mustering = some Titans.host ∧
      Titans.host.worth = 9000000000 ∧
      (Titans.host.points? = some (Amount.clamp 9000000000) ↔ 9000000000 ≤ Amount.cap) ∧
      ∀ d ∈ Titans.host.detachments,
        (d.points? = some (Amount.clamp d.worth) ↔ d.worth ≤ Amount.cap) := by
  have hworth : Titans.host.worth = 9000000000 := congrArg Amount.sum Titans.worth_detachments
  obtain ⟨hforce, -, hparts⟩ := totals_run_stop_iff Titans.run_mustering
  rw [hworth] at hforce
  exact ⟨Titans.run_mustering, hworth, hforce, fun d hd => (hparts d hd).1⟩

/-- Two titans do not stop at the largest amount: a checked register gives up on their patrol, an
unchecked one gives less than half of it. -/
theorem Force.totals_titans :
    Squad.muster Titans.codex .lordOfWar "Titan" = .ok Titans.titan ∧
      (empty "Host" "Watch").run Titans.mustering = some Titans.host ∧
      Titans.host.detachments.map Detachment.worth = [6000000000, 3000000000] ∧
      Titans.host.detachments.map Detachment.points? = [none, some 3000000000] ∧
      Titans.host.detachments.map Detachment.wrapped = [1705032704, 3000000000] ∧
      (Titans.host.worth = 9000000000 ∧ Titans.host.points? = none ∧
        Titans.host.wrapped = 410065408 ∧ Amount.clamp Titans.host.worth = 4294967295) := by
  have hmuster : Squad.muster Titans.codex .lordOfWar "Titan" = .ok Titans.titan := by
    with_unfolding_all rfl
  have hchecked : Titans.host.detachments.map Detachment.points? = [none, some 3000000000] := by
    with_unfolding_all rfl
  have hwrapped : Titans.host.detachments.map Detachment.wrapped = [1705032704, 3000000000] := by
    with_unfolding_all rfl
  have hforce : Titans.host.worth = 9000000000 := congrArg Amount.sum Titans.worth_detachments
  refine ⟨hmuster, Titans.run_mustering, Titans.worth_detachments, hchecked, hwrapped, hforce,
    by with_unfolding_all rfl, ?_, ?_⟩
  · rw [Force.wrapped, hwrapped]
    rfl
  · rw [hforce]
    rfl

end Muster
