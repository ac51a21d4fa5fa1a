/-!
# Tables

Finite maps listed in ascending order of their keys. A key that is inserted again takes the new
value. `get?_insert` is the law of look-up.
-/

namespace Muster

/-- Rows of keys and values; `insert` keeps one row a key and the keys ascending. -/
structure Table (κ ν : Type) where
  rows : List (κ × ν)
deriving Repr, DecidableEq

namespace Table

variable {κ ν : Type}

/-- A table without rows. -/
def empty : Table κ ν := ⟨[]⟩

/-- The keys in ascending order. -/
def keys (t : Table κ ν) : List κ := t.rows.map Prod.fst

/-- The values in the order of their keys. -/
def values (t : Table κ ν) : List ν := t.rows.map Prod.snd

/-- The number of rows. -/
def size (t : Table κ ν) : Nat := t.rows.length

/-- The value under a key. -/
def get? [DecidableEq κ] (t : Table κ ν) (k : κ) : Option ν :=
  (t.rows.find? fun row => row.1 = k).map Prod.snd

/-- Puts a row before the first row with a larger key. -/
def place [Ord κ] (k : κ) (v : ν) : List (κ × ν) → List (κ × ν)
  | [] => [(k, v)]
  | row :: rest =>
    if (compare k row.1).isLT then (k, v) :: row :: rest else row :: place k v rest

/-- Puts a value under a key, in place of one already there. -/
def insert [DecidableEq κ] [Ord κ] (t : Table κ ν) (k : κ) (v : ν) : Table κ ν :=
  ⟨place k v (t.rows.filter fun row => row.1 ≠ k)⟩

/-- Later rows take the place of earlier ones with the same key. -/
def ofList [DecidableEq κ] [Ord κ] (rows : List (κ × ν)) : Table κ ν :=
  rows.foldl (fun t row => t.insert row.1 row.2) empty

section Lemmas

variable [DecidableEq κ] [Ord κ]

omit [DecidableEq κ] in
/-- Placing a row adds it and keeps the others. -/
theorem mem_place {k : κ} {v : ν} {row : κ × ν} {rows : List (κ × ν)} :
    row ∈ place k v rows ↔ row = (k, v) ∨ row ∈ rows := by
  induction rows with
  | nil => simp [place]
  | cons head rest ih =>
    unfold place
    split
    · simp
    · simp only [List.mem_cons, ih]
      constructor <;> rintro (h | h | h) <;> simp [h]

/-- A row placed under a new key is found. -/
theorem find?_place_self {k : κ} {v : ν} {rows : List (κ × ν)} (h : ∀ row ∈ rows, row.1 ≠ k) :
    (place k v rows).find? (fun row => row.1 = k) = some (k, v) := by
  induction rows with
  | nil => simp [place]
  | cons head rest ih =>
    have hhead : head.1 ≠ k := h head (by simp)
    unfold place
    split
    · simp
    · rw [List.find?_cons_of_neg (by simpa using hhead)]
      exact ih fun row hrow => h row (by simp [hrow])

/-- Placing a row leaves the other keys as they were. -/
theorem find?_place_of_ne {k k' : κ} {v : ν} {rows : List (κ × ν)} (h : k ≠ k') :
    (place k v rows).find? (fun row => row.1 = k') = rows.find? (fun row => row.1 = k') := by
  induction rows with
  | nil => simp [place, h]
  | cons head rest ih =>
    unfold place
    split
    · rw [List.find?_cons_of_neg (by simpa using h)]
    · by_cases hhead : head.1 = k'
      · simp [hhead]
      · rw [List.find?_cons_of_neg (by simpa using hhead),
          List.find?_cons_of_neg (by simpa using hhead), ih]

omit [Ord κ] in
/-- Striking out a key leaves the other keys as they were. -/
theorem find?_filter_of_ne {k k' : κ} {rows : List (κ × ν)} (h : k ≠ k') :
    (rows.filter fun row => row.1 ≠ k).find? (fun row => row.1 = k') =
      rows.find? (fun row => row.1 = k') := by
  induction rows with
  | nil => rfl
  | cons head rest ih =>
    by_cases hk : head.1 = k <;> by_cases hk' : head.1 = k' <;> simp_all

/-- Look-up finds the value inserted last under the key. -/
theorem get?_insert (t : Table κ ν) (k k' : κ) (v : ν) :
    (t.insert k v).get? k' = if k = k' then some v else t.get? k' := by
  unfold get? insert
  split
  · next h =>
    subst h
    rw [find?_place_self (by simp)]
    rfl
  · next h => rw [find?_place_of_ne h, find?_filter_of_ne h]

omit [Ord κ] in
/-- Every row is what look-up gives for its key. -/
def Direct (t : Table κ ν) : Prop := ∀ row ∈ t.rows, t.get? row.1 = some row.2

/-- A table stays without repeated keys when a row is put in. -/
theorem Direct.insert {t : Table κ ν} (h : t.Direct) (k : κ) (v : ν) : (t.insert k v).Direct := by
  intro row hrow
  rw [get?_insert]
  rcases mem_place.mp hrow with rfl | hold
  · exact if_pos rfl
  · obtain ⟨hmem, hother⟩ := List.mem_filter.mp hold
    have hkey : k ≠ row.1 := fun hk => of_decide_eq_true hother hk.symm
    rw [if_neg hkey]
    exact h row hmem

omit [Ord κ] in
/-- What a table finds at a key is one of its rows. -/
theorem mem_of_get? {t : Table κ ν} {k : κ} {v : ν} (h : t.get? k = some v) : (k, v) ∈ t.rows := by
  obtain ⟨row, hfound, rfl⟩ := Option.map_eq_some_iff.mp h
  have hkey : row.1 = k := by simpa using List.find?_some hfound
  rw [← hkey]
  exact List.mem_of_find?_eq_some hfound

end Lemmas

end Table

end Muster
