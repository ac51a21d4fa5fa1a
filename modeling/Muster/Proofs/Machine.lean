import Muster.Proofs.Bags
import Muster.Proofs.Points

/-!
# A machine that can abort

Differences of natural numbers stop at zero, dividing by zero gives zero and looking past the end of
a list gives nothing. A machine does none of this: it aborts. Here gear, groups and options are put
on such a machine, with every piece taken out of a loadout by its place, every member of a bundle
counted by its number and every net cost as a signed difference. Whatever they are applied to, the
machine does not abort and comes to what the definitions say.
-/

namespace Muster

/-- Why a machine aborts. -/
inductive Abort where
  | underflow
  /-- a sum that is larger than a register holds -/
  | overflow
  | divisionByZero
  | outOfRange
deriving DecidableEq, Repr

/-- What comes of a computation on a machine that can abort. -/
abbrev Machine := Except Abort

namespace Machine

/-! ## Registers -/

/-- The difference of two registers. -/
def sub (a b : Nat) : Machine Nat := if b ≤ a then pure (a - b) else throw .underflow

/-- The sum of two registers. -/
def add (a b : Nat) : Machine Nat := (Amount.checked (a + b)).elim (throw .overflow) pure

/-- The quotient of two registers. -/
def div (a b : Nat) : Machine Nat := if b = 0 then throw .divisionByZero else pure (a / b)

/-- A running sum in a register. -/
def sum (ns : List Nat) : Machine Nat := ns.foldlM add 0

/-- A signed register of 64 bits holds numbers that are smaller than this one. -/
def signedBound : Int := 9223372036854775808

/-- The difference of two registers, in a signed register. -/
def net (a b : Nat) : Machine Int :=
  let difference := (a : Int) - (b : Int)
  if -signedBound ≤ difference ∧ difference < signedBound then pure difference
  else throw .underflow

/-- A number that is no larger is taken off without a fault. -/
theorem sub_of_le {a b : Nat} (h : b ≤ a) : sub a b = pure (a - b) := if_pos h

/-- A sum that has room in a register is reached without a fault. -/
theorem add_of_le {a b : Nat} (h : a + b ≤ Amount.cap) : add a b = pure (a + b) := by
  rw [add, Amount.checked_of_le h, Option.elim_some]

/-- A sum that has no room in a register overflows. -/
theorem add_of_lt {a b : Nat} (h : Amount.cap < a + b) : add a b = throw .overflow := by
  rw [add, Amount.checked_of_lt h, Option.elim_none]

/-- A division by one or more is no fault. -/
theorem div_of_pos {b : Nat} (h : 0 < b) (a : Nat) : div a b = pure (a / b) :=
  if_neg (Nat.ne_of_gt h)

/-- A running total that has room in a register is reached without a fault. -/
theorem foldlM_add_of_le {ns : List Nat} {held : Nat} (h : held + Amount.sum ns ≤ Amount.cap) :
    ns.foldlM add held = pure (held + Amount.sum ns) := by
  induction ns generalizing held with
  | nil => rfl
  | cons n rest ih =>
    rw [Amount.sum, ← Nat.add_assoc] at h ⊢
    rw [List.foldlM_cons, add_of_le (Nat.le_trans (Nat.le_add_right _ _) h), pure_bind, ih h]

/-- A running total that has no room in a register overflows on the way. -/
theorem foldlM_add_of_lt {ns : List Nat} {held : Nat} (hheld : held ≤ Amount.cap)
    (h : Amount.cap < held + Amount.sum ns) : ns.foldlM add held = throw .overflow := by
  induction ns generalizing held with
  | nil => exact absurd hheld (Nat.not_le.mpr h)
  | cons n rest ih =>
    rw [Amount.sum, ← Nat.add_assoc] at h
    rw [List.foldlM_cons]
    by_cases hroom : held + n ≤ Amount.cap
    · rw [add_of_le hroom, pure_bind, ih hroom h]
    · rw [add_of_lt (Nat.not_le.mp hroom)]
      rfl

/-- A total that has room in a register is reached without a fault. -/
theorem sum_of_le {ns : List Nat} (h : Amount.sum ns ≤ Amount.cap) :
    sum ns = pure (Amount.sum ns) := by
  rw [sum, foldlM_add_of_le (by rwa [Nat.zero_add]), Nat.zero_add]

/-- A total that has no room in a register overflows. -/
theorem sum_of_lt {ns : List Nat} (h : Amount.cap < Amount.sum ns) : sum ns = throw .overflow :=
  foldlM_add_of_lt (Nat.zero_le _) (by rwa [Nat.zero_add])

/-- Two amounts are not too far apart for a signed register. -/
theorem net_of_le {a b : Nat} (ha : a ≤ Amount.cap) (hb : b ≤ Amount.cap) :
    net a b = pure ((a : Int) - (b : Int)) := by
  have hbound : -signedBound ≤ (a : Int) - (b : Int) ∧ (a : Int) - (b : Int) < signedBound := by
    simp only [Amount.cap, signedBound] at *
    omega
  exact if_pos hbound

/-! ## Lists -/

/-- What is in a place of a list. -/
def get (l : List α) (i : Nat) : Machine α := (l[i]?).elim (throw .outOfRange) pure

/-- What is in the places from a given one on. -/
def dropFrom (l : List α) (i : Nat) : Machine (List α) :=
  if i ≤ l.length then pure (l.drop i) else throw .outOfRange

/-- The list without what is in a place. -/
def remove (l : List α) (i : Nat) : Machine (List α) :=
  if i < l.length then pure (l.eraseIdx i) else throw .outOfRange

/-- The list with what is in a place changed. -/
def modify (l : List α) (i : Nat) (f : α → α) : Machine (List α) :=
  if i < l.length then pure (l.modify i f) else throw .outOfRange

/-- The first place where a test succeeds. -/
def position (p : α → Machine Bool) : List α → Machine (Option Nat)
  | [] => pure none
  | a :: rest => do
    if ← p a then pure (some 0) else (·.map (· + 1)) <$> position p rest

/-- What a test keeps of a list. -/
def filter (p : α → Machine Bool) : List α → Machine (List α)
  | [] => pure []
  | a :: rest => do
    if ← p a then (a :: ·) <$> filter p rest else filter p rest

/-- A place that a list has is read without a fault. -/
theorem get_of_getElem? {l : List α} {i : Nat} {a : α} (h : l[i]? = some a) : get l i = pure a := by
  rw [get, h]
  rfl

/-- A place that a list has is taken out without a fault. -/
theorem remove_of_lt {l : List α} {i : Nat} (h : i < l.length) : remove l i = pure (l.eraseIdx i) :=
  if_pos h

/-- A place that a list has is changed without a fault. -/
theorem modify_of_lt {l : List α} {i : Nat} (h : i < l.length) (f : α → α) :
    modify l i f = pure (l.modify i f) := if_pos h

/-- A test that never aborts finds the place that it finds by itself. -/
theorem position_pure (p : α → Bool) (l : List α) :
    position (fun a => pure (p a)) l = pure (l.findIdx? p) := by
  induction l with
  | nil => rfl
  | cons a rest ih =>
    rw [position, pure_bind, ih, List.findIdx?_cons]
    cases p a <;> rfl

/-- A filter with a test that never faults is the filter of a list. -/
theorem filter_pure (p : α → Bool) (l : List α) :
    filter (fun a => pure (p a)) l = pure (l.filter p) := by
  induction l with
  | nil => rfl
  | cons a rest ih =>
    rw [filter, pure_bind, ih, List.filter_cons]
    cases p a <;> rfl

/-! ## Loadouts -/

/-- The loadout without the first piece that counts as the same gear, if there is one. -/
def take? (l : Loadout) (g : Gear) : Machine (Option Loadout) :=
  match l.findIdx? fun held => held.same g with
  | none => pure none
  | some i => some <$> remove l i

/-- The place of a piece that has been found is in the loadout. -/
theorem take?_eq (l : Loadout) (g : Gear) :
    take? l g = pure (if l.carries g then some (l.drop g) else none) := by
  rw [take?, Loadout.drop, List.eraseP_eq_eraseIdx]
  cases hplace : l.findIdx? fun held => held.same g with
  | none =>
    have hnone : ¬ l.carries g = true := by
      simpa [Loadout.carries] using List.findIdx?_eq_none_iff.mp hplace
    rw [if_neg hnone]
  | some i =>
    obtain ⟨hi, hsame, -⟩ := List.findIdx?_eq_some_iff_getElem.mp hplace
    have hcarries : l.carries g = true := List.any_eq_true.mpr ⟨l[i], List.getElem_mem hi, hsame⟩
    rw [if_pos hcarries]
    dsimp only
    rw [remove_of_lt hi]
    rfl

/-- Takes out a piece if it is there. -/
def drop (l : Loadout) (g : Gear) : Machine Loadout := (·.getD l) <$> take? l g

/-- Dropping a piece never faults. -/
theorem drop_eq (l : Loadout) (g : Gear) : drop l g = pure (l.drop g) := by
  rw [drop, take?_eq, map_pure]
  by_cases hcarries : l.carries g = true
  · rw [if_pos hcarries]
    rfl
  · rw [if_neg hcarries, Loadout.drop_of_not_carries (Bool.not_eq_true _ ▸ hcarries)]
    rfl

/-- Takes out each of `gone` in turn. -/
def dropAll (l gone : Loadout) : Machine Loadout := gone.foldlM drop l

/-- Dropping pieces in turn never faults. -/
theorem dropAll_eq (l gone : Loadout) : dropAll l gone = pure (l.dropAll gone) := by
  have hdrop : drop = fun l g => pure (l.drop g) := funext₂ drop_eq
  rw [dropAll, hdrop, List.foldlM_pure, Loadout.dropAll]

/-- Whether every piece of the first loadout has its match in the second, struck out one after the
other. -/
def matched : Loadout → Loadout → Machine Bool
  | [], _ => pure true
  | g :: rest, other => do
    match ← take? other g with
    | none => pure false
    | some other => matched rest other

/-- Matching one loadout against another never faults, and says whether nothing is left. -/
theorem matched_eq (l m : Loadout) : matched l m = pure (l.minus m).isEmpty := by
  induction l generalizing m with
  | nil => rfl
  | cons g rest ih =>
    rw [matched, take?_eq, pure_bind, Loadout.minus]
    by_cases hcarries : m.carries g = true
    · rw [if_pos hcarries, if_pos hcarries]
      exact ih _
    · rw [if_neg hcarries, if_neg hcarries]
      rfl

/-- What is left of the first loadout once every match in the second is struck out. -/
def minus : Loadout → Loadout → Machine Loadout
  | [], _ => pure []
  | g :: rest, other => do
    match ← take? other g with
    | none => (g :: ·) <$> minus rest other
    | some other => minus rest other

/-- Taking one loadout from another never faults. -/
theorem minus_eq (l m : Loadout) : minus l m = pure (l.minus m) := by
  induction l generalizing m with
  | nil => rfl
  | cons g rest ih =>
    rw [minus, take?_eq, pure_bind, Loadout.minus]
    by_cases hcarries : m.carries g = true
    · rw [if_pos hcarries, if_pos hcarries]
      exact ih _
    · rw [if_neg hcarries, if_neg hcarries]
      dsimp only
      rw [ih, map_pure]

/-! ## Groups -/

/-- What one model of a group carries. -/
def loadout (g : Group) (base : Loadout) : Machine Loadout :=
  (· ++ g.gear) <$> dropAll base g.exchanged

/-- The points of one model. -/
def pointsEach (g : Group) (base : Loadout) : Machine Nat := do
  let carried ← loadout g base
  pure (Amount.add g.basePoints carried.cost)

/-- The points of all models of a group. -/
def points (g : Group) (base : Loadout) : Machine Nat := Amount.mul g.count <$> pointsEach g base

/-- Whether two groups are of one type and carry the same gear in the end. -/
def equippedLike (g h : Group) (base : Loadout) : Machine Bool := do
  if g.kind = h.kind then
    let first ← loadout g base
    let second ← loadout h base
    if first.length = second.length then matched first second else pure false
  else pure false

/-- The gear of the first group that the second has not. -/
def gainedOver (g h : Group) (base : Loadout) : Machine Loadout := do
  let theirs ← loadout h base
  let own ← loadout g base
  minus own theirs

/-- What a group carries is found without a fault. -/
theorem loadout_eq (g : Group) (base : Loadout) : loadout g base = pure (g.loadout base) := by
  rw [loadout, dropAll_eq, map_pure, Group.loadout]

/-- The points of a model are found without a fault. -/
theorem pointsEach_eq (g : Group) (base : Loadout) :
    pointsEach g base = pure (g.pointsEach base) := by
  rw [pointsEach, loadout_eq, pure_bind, Group.pointsEach]

/-- The points of a group are found without a fault. -/
theorem points_eq (g : Group) (base : Loadout) : points g base = pure (g.points base) := by
  rw [points, pointsEach_eq, map_pure, Group.points]

/-- Comparing the equipment of groups never faults. -/
theorem equippedLike_eq (g h : Group) (base : Loadout) :
    equippedLike g h base = pure (g.equippedLike h base) := by
  simp only [equippedLike, loadout_eq, matched_eq, pure_bind, Group.equippedLike, Loadout.agrees]
  by_cases hkind : g.kind = h.kind
  · rw [if_pos hkind, beq_iff_eq.mpr hkind, Bool.true_and]
    by_cases hlength : (g.loadout base).length = (h.loadout base).length
    · rw [if_pos hlength, beq_iff_eq.mpr hlength, Bool.true_and]
    · rw [if_neg hlength, beq_false_of_ne hlength, Bool.false_and]
  · rw [if_neg hkind, beq_false_of_ne hkind, Bool.false_and]

/-- What a group gains over another is found without a fault. -/
theorem gainedOver_eq (g h : Group) (base : Loadout) :
    gainedOver g h base = pure (g.gainedOver h base) := by
  rw [gainedOver, loadout_eq, loadout_eq, pure_bind, pure_bind, minus_eq, Group.gainedOver]

/-! ## Labels -/

/-- The labels of the members one after the other, each with what stands behind it: that depends on
its number and on the number of the last one. -/
def joinLabels (last : Nat) (members : List (Item × Nat)) (label : String) : String :=
  members.foldl (fun label (i, number) =>
    label ++ i.label ++
      (if number + 1 = last then " & " else if number < last then ", " else "")) label

/-- The label of a bundle; its last member is the one before the number of members. -/
def bundleLabel (b : Bundle) : Machine String := do
  let last ← sub b.members.length 1
  let label := joinLabels last b.members.zipIdx ""
  pure (if b.quantity > 1 then toString b.quantity ++ " x (" ++ label ++ ")" else label)

/-- Joining labels by their numbers puts the marks where joining them by the list does. -/
theorem joinLabels_eq (i : Item) (rest : List Item) (number : Nat) (label : String) :
    joinLabels (number + rest.length) ((i :: rest).zipIdx number) label =
      label ++ i.label ++ Bundle.labelTail rest := by
  induction rest generalizing i number label with
  | nil => simp [joinLabels, Bundle.labelTail]
  | cons j rest ih =>
    have hlast : number + (j :: rest).length = number + 1 + rest.length := by
      rw [List.length_cons]
      omega
    rw [List.zipIdx_cons, joinLabels, List.foldl_cons, ← joinLabels, hlast, ih]
    dsimp only
    -- an ampersand stands before the last label only
    cases rest with
    | nil => simp [Bundle.labelTail, String.append_assoc]
    | cons k rest =>
      have hbefore : number < number + 1 + (k :: rest).length := by omega
      have hnotlast : number + 1 ≠ number + 1 + (k :: rest).length := by simp
      have htail : Bundle.labelTail (j :: k :: rest) =
          ", " ++ j.label ++ Bundle.labelTail (k :: rest) := rfl
      rw [if_neg hnotlast, if_pos hbefore, htail]
      simp only [String.append_assoc]

/-- The label of a bundle is made without a fault: a bundle has members. -/
theorem bundleLabel_eq (b : Bundle) : bundleLabel b = pure b.label := by
  have hmembers : 1 ≤ b.members.length := Nat.le_add_left 1 (b.second :: b.more).length
  have hlast : b.members.length - 1 = 0 + (b.second :: b.more).length := (Nat.zero_add _).symm
  rw [bundleLabel, sub_of_le hmembers, pure_bind, hlast, Bundle.members, joinLabels_eq,
    String.empty_append, Bundle.label, Bundle.memberLabel]

/-- The label of a piece of gear. -/
def label : Gear → Machine String
  | .item i => pure i.label
  | .bundle b => bundleLabel b

/-- The label of a piece is made without a fault. -/
theorem label_eq (g : Gear) : label g = pure g.label := by
  cases g with
  | item i => rfl
  | bundle b => exact bundleLabel_eq b

/-- The labels of a loadout, piece by piece. -/
def labels (l : Loadout) : Machine (List String) := l.mapM label

/-- The labels of a loadout are made without a fault. -/
theorem labels_eq (l : Loadout) : labels l = pure l.labels := by
  have hlabel : label = fun g => pure g.label := funext label_eq
  rw [labels, hlabel, List.mapM_pure, Loadout.labels]

/-- The label with its price. -/
def priced (g : Gear) : Machine String := do
  let label ← label g
  match g with
  | .item i => pure (if i.cost = 0 then label else label ++ " (" ++ toString i.cost ++ "pts)")
  | .bundle b => pure (label ++ " (" ++ toString b.cost ++ "pts)")

/-- A label with its price is made without a fault. -/
theorem priced_eq (g : Gear) : priced g = pure g.priced := by
  rw [priced, label_eq, pure_bind]
  cases g <;> rfl

/-! ## Listings -/

/-- The sentence that makes an offer. -/
def header (o : Offer) (b : Bearer) : Machine String :=
  let subject := o.subject b.scope
  match o.menu with
  | .choice _ =>
    match o.exchanged? b with
    | some g => do
      pure (subject ++ " exchange " ++ (← label g) ++ " for " ++ o.amount ++ " of the following:")
    | none => pure (subject ++ " take " ++ o.amount ++ " of the following:")
  | .single g => do
    let offered ← priced g
    pure (if o.picksAllowed > 1 then
      subject ++ " take up to " ++ toString o.picksAllowed ++ " x " ++ offered
    else subject ++ " take " ++ offered)

/-- The cost of a piece beyond that of the one given up, in an exchange. -/
def netOver (exchanged : Option Gear) (g : Gear) : Machine (Option Int) :=
  match exchanged with
  | some x => some <$> net g.cost x.cost
  | none => pure none

/-- One choice with its number. -/
def line (exchanged : Option Gear) (choice : Gear × Nat) : Machine Line := do
  let label ← label choice.1
  let net ← netOver exchanged choice.1
  pure ⟨Offer.letterAt choice.2, label, choice.1.cost, net⟩

/-- The choices of an offer with their numbers. -/
def lines (o : Offer) (b : Bearer) : Machine (List Line) :=
  o.gear.zipIdx.mapM (line (o.exchanged? b))

/-- The header of an offer with its choices under it. -/
def text (o : Offer) (b : Bearer) : Machine String := do
  let header ← header o b
  if o.hasChoice then
    pure ((← lines o b).foldl (fun text l => text ++ "\n    " ++ l.text) header)
  else pure header

/-- A sheet as it is shown. -/
def listing (t : Sheet) (index : Nat) (b : Bearer) : Machine Listing := do
  let exchange ← match t.offer.exchanged? b with
    | some g => some <$> label g
    | none => pure none
  let header ← header t.offer b
  let choices ← lines t.offer b
  let selected ← labels t.selected
  let text ← text t.offer b
  pure ⟨index, header, t.offer.picksAllowed, t.offer.modelsPer, t.offer.perModel, exchange, choices,
    selected, text⟩

/-- The heading of an option is made without a fault. -/
theorem header_eq (o : Offer) (b : Bearer) : header o b = pure (o.header b) := by
  unfold header Offer.header
  cases o.menu with
  | single g =>
    dsimp only
    rw [priced_eq, pure_bind]
  | choice gs =>
    dsimp only
    cases o.exchanged? b with
    | none => rfl
    | some g =>
      dsimp only
      rw [label_eq, pure_bind]

/-- No piece costs more than the largest amount. -/
theorem cost_le_cap (g : Gear) : g.cost ≤ Amount.cap := by
  rw [Gear.cost_eq_clamp]
  exact Amount.clamp_le_cap _

/-- What a choice costs over the piece it replaces is found without a fault, below zero too. -/
theorem netOver_eq (exchanged : Option Gear) (g : Gear) :
    netOver exchanged g = pure (exchanged.map fun x => (g.cost : Int) - (x.cost : Int)) := by
  cases exchanged with
  | none => rfl
  | some x => rw [netOver, net_of_le (cost_le_cap g) (cost_le_cap x), map_pure, Option.map_some]

/-- A line of an option is made without a fault. -/
theorem line_eq (exchanged : Option Gear) (g : Gear) (number : Nat) :
    line exchanged (g, number) = pure ⟨Offer.letterAt number, g.label, g.cost,
      exchanged.map fun x => (g.cost : Int) - (x.cost : Int)⟩ := by
  rw [line, label_eq, pure_bind, netOver_eq, pure_bind]

/-- The lines of an option are made without a fault, from any number on. -/
theorem mapM_line (exchanged : Option Gear) (gs : List Gear) (number : Nat) :
    (gs.zipIdx number).mapM (line exchanged) = pure (Offer.linesFrom exchanged number gs) := by
  induction gs generalizing number with
  | nil => rfl
  | cons g rest ih =>
    rw [List.zipIdx_cons, List.mapM_cons, line_eq, pure_bind, ih, pure_bind, Offer.linesFrom]

/-- All lines of an option are made without a fault. -/
theorem lines_eq (o : Offer) (b : Bearer) : lines o b = pure (o.lines b) := mapM_line _ _ _

/-- An option is shown without a fault. -/
theorem text_eq (o : Offer) (b : Bearer) : text o b = pure (o.text b) := by
  rw [text, header_eq, pure_bind, lines_eq, Offer.text]
  cases o.hasChoice <;> rfl

/-- Showing a sheet aborts for no offer, no picks and no bearer. -/
theorem listing_eq (t : Sheet) (index : Nat) (b : Bearer) :
    listing t index b = pure (t.listing index b) := by
  unfold listing Sheet.listing
  rw [header_eq, lines_eq, labels_eq, text_eq]
  cases t.offer.exchanged? b with
  | none => rfl
  | some g =>
    dsimp only
    rw [label_eq]
    rfl

end Machine

end Muster
