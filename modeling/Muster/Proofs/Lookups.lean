import Mathlib.Data.List.Induction
import Muster.Proofs.Writing

/-!
# Looking up names

An arsenal keeps two tables, of entries under their names and of names under their spelling keys,
and every row that is entered writes to both. Looking up a name is shown to search the rows
themselves, the last one first: for a row of exactly this name, or else for a row whose name is
spelled alike. So whatever has been entered, the second table leads to nothing that the first has
not.
-/

namespace Muster

/-! ## Words of a trimmed text -/

namespace Text

/-- Splitting a text at its blanks gives one part or more. -/
theorem splitBlanks_ne_nil (cs : List Char) : splitBlanks cs ≠ [] := by
  cases cs with
  | nil => exact List.cons_ne_nil _ _
  | cons c rest =>
    rw [splitBlanks]
    cases splitBlanks rest with
    | nil => exact List.cons_ne_nil _ _
    | cons word words =>
      dsimp only
      split <;> exact List.cons_ne_nil _ _

/-- A blank at the front splits off an empty part. -/
theorem splitBlanks_blank {c : Char} (hc : isBlank c = true) (rest : List Char) :
    splitBlanks (c :: rest) = [] :: splitBlanks rest := by
  rw [splitBlanks]
  cases hrest : splitBlanks rest with
  | nil => exact absurd hrest (splitBlanks_ne_nil rest)
  | cons word words => exact if_pos hc

/-- A blank cuts a text in two. -/
theorem splitBlanks_append_blank (cs : List Char) {c : Char} (hc : isBlank c = true)
    (rest : List Char) : splitBlanks (cs ++ c :: rest) = splitBlanks cs ++ splitBlanks rest := by
  induction cs with
  | nil => exact splitBlanks_blank hc rest
  | cons d cs ih =>
    rw [List.cons_append, splitBlanks, ih, splitBlanks]
    cases hcs : splitBlanks cs with
    | nil => exact absurd hcs (splitBlanks_ne_nil cs)
    | cons word words =>
      dsimp only [List.cons_append]
      split <;> rfl

/-- A blank parts the words before it from those behind. -/
theorem words_append_blank (cs : List Char) {c : Char} (hc : isBlank c = true) (rest : List Char) :
    words (cs ++ c :: rest) = words cs ++ words rest := by
  rw [words, splitBlanks_append_blank cs hc, List.filter_append, words, words]

/-- Blanks at the end add no word. -/
theorem words_append_blanks (cs : List Char) {blanks : List Char}
    (hblanks : ∀ c ∈ blanks, isBlank c = true) : words (cs ++ blanks) = words cs := by
  induction blanks generalizing cs with
  | nil => rw [List.append_nil]
  | cons c blanks ih =>
    obtain ⟨hc, hblanks⟩ := List.forall_mem_cons.mp hblanks
    have hnone : words blanks = [] := ih [] hblanks
    rw [words_append_blank cs hc, hnone, List.append_nil]

/-- Blanks at the front add no word. -/
theorem words_trimStart (cs : List Char) : words (trimStart cs) = words cs := by
  induction cs with
  | nil => rfl
  | cons c cs ih =>
    rw [trimStart, List.dropWhile_cons]
    split
    · next hc => exact ih.trans (words_append_blank [] hc cs).symm
    · rfl

/-- Blanks at the ends of a text belong to no word. -/
theorem words_trim (cs : List Char) : words (trim cs) = words cs := by
  obtain ⟨blanks, hcs, hblanks⟩ := trimEnd_append (trimStart cs)
  have htrim := words_append_blanks (trim cs) hblanks
  rw [trim, ← hcs, words_trimStart] at htrim
  exact htrim.symm

end Text

/-- A row as it is filed. -/
def Entry.filed (row : Entry) : Entry := { row with name := Text.trimmed row.name }

namespace Arsenal

/-- Blanks around a name make no difference to the key of its spelling. -/
theorem spellingKey_trimmed (name : String) :
    spellingKey (Text.trimmed name) = spellingKey name := by
  rw [spellingKey, Text.trimmed, String.toList_ofList, Text.words_trim, ← spellingKey]

/-! ## Rows that are entered -/

/-- The arsenal that rows make when they are entered one after the other. -/
def ofRows (rows : List Entry) : Arsenal :=
  rows.foldl (fun a row => a.insert row.name row.cost row.category) .empty

/-- The last of the rows that are as asked for. -/
def lastRow? (rows : List Entry) (p : Entry → Bool) : Option Entry := rows.reverse.find? p

variable {rows : List Entry} {row : Entry} {p q : Entry → Bool}

/-- An arsenal of one row more is the arsenal with that row put in. -/
theorem ofRows_append_singleton (rows : List Entry) (row : Entry) :
    ofRows (rows ++ [row]) = (ofRows rows).insert row.name row.cost row.category :=
  List.foldl_append

/-- The last row of a kind is the one at the end, if it is of the kind. -/
theorem lastRow?_append_singleton (rows : List Entry) (row : Entry) (p : Entry → Bool) :
    lastRow? (rows ++ [row]) p = if p row then some row else lastRow? rows p := by
  rw [lastRow?, List.reverse_append, List.reverse_singleton, List.singleton_append, List.find?_cons,
    ← lastRow?]
  cases p row <;> rfl

/-- The last row of a kind is a row of the kind. -/
theorem mem_of_lastRow? (h : lastRow? rows p = some row) : row ∈ rows ∧ p row = true :=
  ⟨List.mem_reverse.mp (List.mem_of_find?_eq_some h), List.find?_some h⟩

/-- There is a last row of a kind exactly where there is a row of it. -/
theorem isSome_lastRow?_iff : (lastRow? rows p).isSome = true ↔ ∃ row ∈ rows, p row = true := by
  rw [lastRow?, List.find?_isSome]
  simp only [List.mem_reverse]

/-- What holds of the last row of one kind, and of this kind only, finds the same row. -/
theorem lastRow?_eq_of_imp (h : lastRow? rows p = some row) (hrow : q row = true)
    (himp : ∀ row, q row = true → p row = true) : lastRow? rows q = some row := by
  obtain ⟨-, later, earlier, hrows, hlater⟩ := List.find?_eq_some_iff_append.mp h
  refine List.find?_eq_some_iff_append.mpr ⟨hrow, later, earlier, hrows, fun k hk => ?_⟩
  have hother := hlater k hk
  rw [Bool.not_eq_true', ← Bool.not_eq_true] at hother ⊢
  exact fun hq => hother (himp k hq)

/-- An arsenal of rows is a built one. -/
theorem built_ofRows (rows : List Entry) : (ofRows rows).Built := by
  induction rows using List.reverseRecOn with
  | nil => exact .empty
  | append_singleton rows row ih =>
    rw [ofRows_append_singleton]
    exact .insert _ _ _ ih

/-- Every arsenal that is made comes of the rows entered. -/
theorem Built.exists_rows {a : Arsenal} (h : a.Built) : ∃ rows, a = ofRows rows := by
  induction h with
  | empty => exact ⟨[], rfl⟩
  | insert name cost category _ ih =>
    obtain ⟨rows, rfl⟩ := ih
    exact ⟨rows ++ [⟨name, cost, category⟩],
      (ofRows_append_singleton rows ⟨name, cost, category⟩).symm⟩

/-- A table that holds the last row under each key does so when one row more is filed in it. -/
theorem get?_insert_of_lastRow? {β : Type} {t : Table String β} {key : Entry → String}
    {value : Entry → β} {name : String}
    (h : t.get? name = (lastRow? rows fun row => key row = name).map value) (row : Entry) :
    (t.insert (key row) (value row)).get? name =
      (lastRow? (rows ++ [row]) fun row => key row = name).map value := by
  rw [Table.get?_insert, h, lastRow?_append_singleton]
  by_cases hname : key row = name
  · rw [if_pos hname, if_pos (decide_eq_true hname), Option.map_some]
  · rw [if_neg hname, if_neg (by simpa using hname)]

/-- Entries are filed under their trimmed names, the last one of a name. -/
theorem get?_entries_ofRows (rows : List Entry) (name : String) :
    (ofRows rows).entries.get? name =
      (lastRow? rows fun row => Text.trimmed row.name = name).map Entry.filed := by
  induction rows using List.reverseRecOn with
  | nil => rfl
  | append_singleton rows row ih =>
    rw [ofRows_append_singleton]
    exact get?_insert_of_lastRow? ih row

/-- A spelling key leads to the name that was entered last under it. -/
theorem get?_spellings_ofRows (rows : List Entry) (key : String) :
    (ofRows rows).spellings.get? key =
      (lastRow? rows fun row => spellingKey row.name = key).map
        fun row => Text.trimmed row.name := by
  induction rows using List.reverseRecOn with
  | nil => rfl
  | append_singleton rows row ih =>
    rw [ofRows_append_singleton, insert, spellingKey_trimmed]
    exact get?_insert_of_lastRow? ih row

/-- Where a spelling key leads to, the row that was entered last under the key is filed: a later row
of its name would have had the same key. -/
theorem bind_get?_spellings_ofRows (rows : List Entry) (key : String) :
    ((ofRows rows).spellings.get? key).bind (ofRows rows).entries.get? =
      (lastRow? rows fun row => spellingKey row.name = key).map Entry.filed := by
  rw [get?_spellings_ofRows]
  cases hlast : lastRow? rows fun row => spellingKey row.name = key with
  | none => rfl
  | some row =>
    have hkey : spellingKey row.name = key := of_decide_eq_true (mem_of_lastRow? hlast).2
    have hname :
        (lastRow? rows fun k => Text.trimmed k.name = Text.trimmed row.name) = some row := by
      refine lastRow?_eq_of_imp hlast (decide_eq_true rfl) fun k hk => decide_eq_true ?_
      rw [← hkey, ← spellingKey_trimmed, of_decide_eq_true hk, spellingKey_trimmed]
    rw [Option.map_some, Option.bind_some, get?_entries_ofRows, hname]

/-! ## The law -/

/-- Looking up a name searches the rows. -/
theorem lookup?_eq_or (rows : List Entry) (name : String) :
    (ofRows rows).lookup? name =
      ((lastRow? rows fun row => Text.trimmed row.name = name).or
        (lastRow? rows fun row => spellingKey row.name = spellingKey name)).map Entry.filed := by
  rw [lookup?, get?_entries_ofRows, bind_get?_spellings_ofRows]
  cases lastRow? rows fun row => Text.trimmed row.name = name <;> rfl

/-- What is found by its name stands in the listing. -/
theorem mem_listing_of_lookup? {a : Arsenal} {name : String} {e : Entry}
    (h : a.lookup? name = some e) : e ∈ a.listing := by
  have hfiled : ∃ key, a.entries.get? key = some e := by
    rw [lookup?] at h
    split at h
    · next hexact =>
      cases h
      exact ⟨name, hexact⟩
    · obtain ⟨canonical, -, hget⟩ := Option.bind_eq_some_iff.mp h
      exact ⟨canonical, hget⟩
  obtain ⟨key, hkey⟩ := hfiled
  exact mem_listing.mpr (List.mem_map.mpr ⟨(key, e), Table.mem_of_get? hkey, rfl⟩)

/-- A name is found if and only if a row is spelled like it. -/
theorem isSome_lookup?_iff (rows : List Entry) (name : String) :
    ((ofRows rows).lookup? name).isSome = true ↔
      ∃ row ∈ rows, spellingKey row.name = spellingKey name := by
  rw [lookup?_eq_or, Option.isSome_map, Option.isSome_or, Bool.or_eq_true, isSome_lastRow?_iff,
    isSome_lastRow?_iff]
  simp only [decide_eq_true_eq]
  refine or_iff_right_of_imp ?_
  rintro ⟨row, hrow, rfl⟩
  exact ⟨row, hrow, (spellingKey_trimmed row.name).symm⟩

/-- What is found for a name is spelled like it. -/
theorem spellingKey_of_lookup? {name : String} {e : Entry}
    (h : (ofRows rows).lookup? name = some e) : spellingKey e.name = spellingKey name := by
  rw [lookup?_eq_or] at h
  obtain ⟨row, hlast, rfl⟩ := Option.map_eq_some_iff.mp h
  change spellingKey (Text.trimmed row.name) = spellingKey name
  rcases Option.or_eq_some_iff.mp hlast with hexact | ⟨-, hlike⟩
  · rw [of_decide_eq_true (mem_of_lastRow? hexact).2]
  · rw [spellingKey_trimmed, of_decide_eq_true (mem_of_lastRow? hlike).2]

/-- Whatever rows are entered one after the other, a name is found if and only if one of the rows is
spelled like it. It gives the last row of exactly this name, if there is one, and else the last row
that is spelled like it, as it is filed. Every spelling key leads to an entry, and looking up the
name of what has been found finds it again. -/
theorem ofRows_finds_last (rows : List Entry) (name : String) :
    (((ofRows rows).lookup? name).isSome = true ↔
        ∃ row ∈ rows, spellingKey row.name = spellingKey name) ∧
      (ofRows rows).lookup? name =
        ((lastRow? rows fun row => Text.trimmed row.name = name).or
          (lastRow? rows fun row => spellingKey row.name = spellingKey name)).map Entry.filed ∧
      (∀ key canonical, (ofRows rows).spellings.get? key = some canonical →
        ∃ e, (ofRows rows).entries.get? canonical = some e ∧ e.name = canonical ∧
          spellingKey canonical = key) ∧
      ∀ e, (ofRows rows).lookup? name = some e → (ofRows rows).lookup? e.name = some e := by
  refine ⟨isSome_lookup?_iff rows name, lookup?_eq_or rows name, fun key canonical hkey => ?_,
    fun e he => ?_⟩
  · have hbind := bind_get?_spellings_ofRows rows key
    rw [hkey, Option.bind_some] at hbind
    rw [get?_spellings_ofRows] at hkey
    obtain ⟨row, hlast, rfl⟩ := Option.map_eq_some_iff.mp hkey
    rw [hlast, Option.map_some] at hbind
    refine ⟨row.filed, hbind, rfl, ?_⟩
    rw [spellingKey_trimmed]
    exact of_decide_eq_true (mem_of_lastRow? hlast).2
  · exact ((built_ofRows rows).lookup?_eq (mem_listing_of_lookup? he)).1

/-- An axe that is entered again at another price, and once more in another spelling. -/
theorem ofRows_finds_last_axes :
    let rows : List Entry :=
      [⟨"Power axe", 3, .melee⟩, ⟨"Power axe ", 5, .melee⟩, ⟨" power  AXE", 4, .other⟩]
    (ofRows rows).lookup? "Power axe" = some ⟨"Power axe", 5, .melee⟩ ∧
      (ofRows rows).lookup? "POWER AXE" = some ⟨"power  AXE", 4, .other⟩ ∧
      (ofRows rows).lookup? "power  AXE" = some ⟨"power  AXE", 4, .other⟩ ∧
      (ofRows rows).lookup? "Power" = none := by
  intro rows
  obtain ⟨-, hexact, -⟩ := ofRows_finds_last rows "Power axe"
  obtain ⟨-, hlike, -, hagain⟩ := ofRows_finds_last rows "POWER AXE"
  obtain ⟨hfound, -⟩ := ofRows_finds_last rows "Power"
  have hfive : (ofRows rows).lookup? "Power axe" = some ⟨"Power axe", 5, .melee⟩ :=
    hexact.trans (by decide +kernel)
  have hfour : (ofRows rows).lookup? "POWER AXE" = some ⟨"power  AXE", 4, .other⟩ :=
    hlike.trans (by decide +kernel)
  have hnone : ¬ ∃ row ∈ rows, spellingKey row.name = spellingKey "Power" := by decide +kernel
  refine ⟨hfive, hfour, hagain _ hfour, ?_⟩
  rw [← Option.not_isSome_iff_eq_none]
  exact fun hsome => hnone (hfound.mp hsome)

end Arsenal

end Muster
