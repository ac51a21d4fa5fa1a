/-!
# Amounts

Points, prices and quantities are natural numbers that stop at a largest amount: an operation whose
exact result is larger gives the largest amount. `total_eq_clamp_sum` says that it makes no
difference whether a total stops along the way or once at the end.

Counts, sizes and the totals of a force do not stop. They are kept in registers of 32 bits that are
checked: where a number has no room there is no result, and the program aborts.
-/

namespace Muster.Amount

/-- The largest amount. -/
def cap : Nat := 4294967295

/-- The exact result `n`, stopped at the largest amount. -/
def clamp (n : Nat) : Nat := min n cap

/-- Addition that stops at the largest amount. -/
def add (a b : Nat) : Nat := clamp (a + b)

/-- Multiplication that stops at the largest amount. -/
def mul (a b : Nat) : Nat := clamp (a * b)

/-- A running total that stops at the largest amount. -/
def total (amounts : List Nat) : Nat := amounts.foldl add 0

/-- The exact total. -/
def sum : List Nat → Nat
  | [] => 0
  | a :: rest => a + sum rest

/-- What a checked register holds: a number that has no room is none. -/
def checked (n : Nat) : Option Nat := if n ≤ cap then some n else none

/-- A running total in a checked register, of numbers that come from checked registers too. -/
def total? (number : α → Option Nat) (xs : List α) : Option Nat :=
  xs.foldlM (fun held x => (number x).bind fun n => checked (held + n)) 0

/-- A stopped number is never above the largest amount. -/
theorem clamp_le_cap (n : Nat) : clamp n ≤ cap := Nat.min_le_right n cap

/-- There is room for a single one. -/
theorem one_le_cap : 1 ≤ cap := by decide

/-- A number that is no larger than the largest amount is not stopped. -/
theorem clamp_of_le {n : Nat} (h : n ≤ cap) : clamp n = n := Nat.min_eq_left h

/-- A checked register holds every number it has room for. -/
theorem checked_of_le {n : Nat} (h : n ≤ cap) : checked n = some n := if_pos h

/-- A checked register holds nothing of a number past its largest. -/
theorem checked_of_lt {n : Nat} (h : cap < n) : checked n = none := if_neg (Nat.not_le.mpr h)

/-- What a checked register holds is the number itself, and it had room for it. -/
theorem checked_eq_some_iff {m n : Nat} : checked m = some n ↔ m ≤ cap ∧ m = n := by
  unfold checked
  split
  · next h => simp only [h, Option.some.injEq, true_and]
  · next h => simp only [h, reduceCtorEq, false_and]

/-- The first part of a sum need not be stopped before the sum is. -/
theorem clamp_clamp_add (a b : Nat) : clamp (clamp a + b) = clamp (a + b) := by
  simp only [clamp, cap]; omega

/-- The second part of a sum need not be stopped before the sum is. -/
theorem clamp_add_clamp (a b : Nat) : clamp (a + clamp b) = clamp (a + b) := by
  simp only [clamp, cap]; omega

/-- A factor need not be stopped before a product is. -/
theorem clamp_mul_clamp (a b : Nat) : clamp (a * clamp b) = clamp (a * b) := by
  by_cases hb : b ≤ cap
  · rw [clamp_of_le hb]
  · have hstop : clamp b = cap := Nat.min_eq_right (Nat.le_of_not_le hb)
    rw [hstop]
    cases a with
    | zero => rw [Nat.zero_mul, Nat.zero_mul]
    | succ a =>
      have hcap : cap ≤ (a + 1) * cap := Nat.le_mul_of_pos_left cap (Nat.succ_pos a)
      have hprod : (a + 1) * cap ≤ (a + 1) * b := Nat.mul_le_mul_left _ (Nat.le_of_not_le hb)
      rw [clamp, clamp, Nat.min_eq_right hcap, Nat.min_eq_right (Nat.le_trans hcap hprod)]

/-- The exact total of two lists is the sum of their totals. -/
@[simp] theorem sum_append (xs ys : List Nat) : sum (xs ++ ys) = sum xs + sum ys := by
  induction xs with
  | nil => exact (Nat.zero_add _).symm
  | cons a rest ih => rw [List.cons_append, sum, sum, ih, Nat.add_assoc]

/-- The order of the parts makes no difference. -/
theorem sum_eq_of_perm {xs ys : List Nat} (h : xs.Perm ys) : sum xs = sum ys := by
  induction h with
  | nil => rfl
  | cons x _ ih => rw [sum, sum, ih]
  | swap x y l => simp only [sum]; omega
  | trans _ _ ih ih' => exact ih.trans ih'

/-- A running total that starts stopped is the exact total stopped once, wherever it starts. -/
theorem foldl_add_eq_clamp (amounts : List Nat) (start : Nat) :
    amounts.foldl add (clamp start) = clamp (start + sum amounts) := by
  induction amounts generalizing start with
  | nil => rfl
  | cons a rest ih =>
    rw [List.foldl_cons, add, clamp_clamp_add, ih, sum, Nat.add_assoc]

/-- Stopping along the way is stopping once at the end. -/
theorem total_eq_clamp_sum (amounts : List Nat) : total amounts = clamp (sum amounts) := by
  have h := foldl_add_eq_clamp amounts 0
  rw [Nat.zero_add] at h
  exact h

/-- Parts of a total need not be stopped before the total is. -/
theorem clamp_sum_map_clamp (f : α → Nat) (xs : List α) :
    clamp (sum (xs.map fun x => clamp (f x))) = clamp (sum (xs.map f)) := by
  induction xs with
  | nil => rfl
  | cons x rest ih =>
    rw [List.map_cons, List.map_cons, sum, sum, clamp_clamp_add, ← clamp_add_clamp, ih,
      clamp_add_clamp]

/-- A total of stopped parts is the exact total stopped once. -/
theorem total_map_clamp (f : α → Nat) (xs : List α) :
    total (xs.map fun x => clamp (f x)) = clamp (sum (xs.map f)) := by
  rw [total_eq_clamp_sum, clamp_sum_map_clamp]

/-- A number that has no room by itself has none on top of another. -/
theorem bind_checked_add {number? : Option Nat} {n : Nat} (h : number?.bind checked = checked n)
    (held : Nat) : (number?.bind fun a => checked (held + a)) = checked (held + n) := by
  cases number? with
  | none =>
    by_cases hn : n ≤ cap
    · rw [checked_of_le hn] at h
      cases h
    · exact (checked_of_lt (Nat.lt_of_lt_of_le (Nat.not_le.mp hn) (Nat.le_add_left ..))).symm
  | some a =>
    simp only [Option.bind_some, checked] at h ⊢
    grind

/-- A running total in a checked register is the exact total if that has room. -/
theorem foldlM_checked {number : α → Option Nat} {worth : α → Nat} {xs : List α}
    (h : ∀ x ∈ xs, (number x).bind checked = checked (worth x)) {held : Nat} (hheld : held ≤ cap) :
    xs.foldlM (fun held x => (number x).bind fun a => checked (held + a)) held =
      checked (held + sum (xs.map worth)) := by
  induction xs generalizing held with
  | nil => exact (checked_of_le hheld).symm
  | cons x rest ih =>
    rw [List.foldlM_cons, bind_checked_add (h x List.mem_cons_self), List.map_cons, sum,
      ← Nat.add_assoc]
    by_cases hfits : held + worth x ≤ cap
    · rw [checked_of_le hfits]
      exact ih (fun y hy => h y (List.mem_cons_of_mem x hy)) hfits
    · have hfirst : cap < held + worth x := Nat.not_le.mp hfits
      rw [checked_of_lt hfirst, checked_of_lt (Nat.lt_of_lt_of_le hfirst (Nat.le_add_right ..))]
      rfl

/-- A checked total is the exact total if that has room, whatever has room along the way. -/
theorem total?_eq_checked_sum {number : α → Option Nat} {worth : α → Nat} {xs : List α}
    (h : ∀ x ∈ xs, (number x).bind checked = checked (worth x)) :
    total? number xs = checked (sum (xs.map worth)) := by
  have hrun := foldlM_checked h (Nat.zero_le cap)
  rw [Nat.zero_add] at hrun
  exact hrun

end Muster.Amount
