import Muster.Yaml.Scalar

/-!
# Tokens of documents

The part of YAML that catalogs are written in: block and flow collections, plain and quoted
scalars, comments, and the marks around a document. Tags, anchors, directives and block scalars are
refused.

A text is cut into tokens of which some stand for no character: the start and the end of a block
collection are told by columns, and a key is known as one by the colon behind it. A token that may
turn out to be a key is remembered until the colon comes, until a line or 1024 bytes have gone by,
or until it can no longer be one.
-/

namespace Muster.Yaml

/-- A token of a document. -/
inductive Token where
  | documentStart
  | documentEnd
  | blockList
  | blockMap
  | blockEnd
  /-- the dash before an element of a block list -/
  | dash
  | key
  | value
  | comma
  | openList
  | closeList
  | openMap
  | closeMap
  | scalar (plain : Bool) (text : String)
deriving DecidableEq, Repr

/-- A place where a key may have started. -/
structure Candidate where
  /-- the number of tokens before it -/
  index : Nat
  place : Place
  /-- nothing but a key may stand there -/
  required : Bool
deriving Repr

namespace Candidate

/-- The most bytes that a key may take up. -/
def maxBytes : Nat := 1024

/-- Whether a colon at `now` comes too late for the key. -/
def isStale (k : Candidate) (now : Place) : Bool :=
  k.place.line < now.line || k.place.offset + maxBytes < now.offset

/-- What is left of a candidate at `now`; a required key may not be lost. -/
def kept? (now : Place) : Option Candidate → Option (Option Candidate)
  | none => some none
  | some k => if k.isStale now then if k.required then none else some none else some (some k)

end Candidate

/-- How far a text has been cut. -/
structure Cut where
  place : Place
  /-- the columns of the open block collections, innermost first -/
  columns : List Nat
  /-- what may be a key in the innermost flow collection, or else in the block -/
  candidate : Option Candidate
  /-- the same for what is around the innermost flow collection, one for each that is open -/
  outer : List (Option Candidate)
  /-- whether a key may start here -/
  keyAllowed : Bool
  /-- the number of tokens -/
  size : Nat
  /-- the tokens, last first -/
  found : List Token
deriving Repr

namespace Cut

/-- Nothing has been cut. -/
def start : Cut := ⟨.start, [], none, [], true, 0, []⟩

/-- Whether a flow collection is open. -/
def inFlow (s : Cut) : Bool := !s.outer.isEmpty

/-- Goes on behind some characters. -/
def skip (s : Cut) (cs : List Char) : Cut := { s with place := cs.foldl Place.after s.place }

/-- Adds a token. -/
def add (s : Cut) (t : Token) : Cut := { s with size := s.size + 1, found := t :: s.found }

/-- Puts a token in front of those from `index` on. -/
def insert (s : Cut) (index : Nat) (t : Token) : Cut :=
  let later := s.size - index
  { s with size := s.size + 1, found := s.found.take later ++ t :: s.found.drop later }

/-- Whether the innermost block collection is in a column. -/
def isAt (s : Cut) (column : Nat) : Bool := s.columns.head? = some column

/-- Starts a block collection in a column right of all that are open, in front of the tokens from
`index` on; anywhere else, and in a flow collection, the one that is open goes on. -/
def openBlock (s : Cut) (column index : Nat) (t : Token) : Cut :=
  if s.inFlow || s.columns.head?.any fun inner => column ≤ inner then s
  else { s with columns := column :: s.columns }.insert index t

/-- Ends the block collections whose columns satisfy `ended`, from the innermost outwards. -/
def closeBlocks (s : Cut) (ended : Nat → Bool) : Cut :=
  if s.inFlow then s
  else
    let gone := s.columns.takeWhile ended
    { s with
      columns := s.columns.dropWhile ended
      size := s.size + gone.length
      found := gone.map (fun _ => Token.blockEnd) ++ s.found }

/-- Drops the candidates for which it is too late, and ends the block collections right of the
place. -/
def settle? (s : Cut) : Option Cut := do
  let candidate ← Candidate.kept? s.place s.candidate
  let outer ← s.outer.mapM (Candidate.kept? s.place)
  return { s with candidate, outer }.closeBlocks fun column => s.place.column < column

/-- Drops the candidate, which may not be required. -/
def forget? (s : Cut) : Option Cut :=
  if s.candidate.any Candidate.required then none else some { s with candidate := none }

/-- Remembers the next token as a candidate, if a key may start here. -/
def remember? (s : Cut) : Option Cut :=
  if s.keyAllowed then
    let required := !s.inFlow && s.isAt s.place.column
    s.forget?.map fun s => { s with candidate := some ⟨s.size, s.place, required⟩ }
  else some s

/-- The bracket that opens a flow collection, which may be a key itself. -/
def openFlow? (s : Cut) (t : Token) : Option Cut :=
  s.remember?.map fun s =>
    { s with candidate := none, outer := s.candidate :: s.outer, keyAllowed := true }.add t

/-- The bracket that closes a flow collection. -/
def closeFlow? (s : Cut) (t : Token) : Option Cut :=
  s.forget?.map fun s =>
    { s with candidate := s.outer.head?.join, outer := s.outer.tail, keyAllowed := false }.add t

/-- A token of a block collection that no candidate stands for. -/
def inBlock? (s : Cut) (collection : Token) : Option Cut :=
  if s.inFlow then some s
  else if s.keyAllowed then some (s.openBlock s.place.column s.size collection)
  else none

/-- A colon: the candidate was a key, or else the key is one of several lines or missing. -/
def colon? (s : Cut) : Option Cut :=
  match s.candidate with
  | some k =>
    let s := (s.insert k.index .key).openBlock k.place.column k.index .blockMap
    some ({ s with candidate := none, keyAllowed := false }.add .value)
  | none => (s.inBlock? .blockMap).map fun s => { s with keyAllowed := !s.inFlow }.add .value

/-- A mark around a document. -/
def documentMark? (s : Cut) (t : Token) : Option Cut :=
  (s.closeBlocks fun _ => true).forget?.map fun s => { s with keyAllowed := false }.add t

/-- A scalar that takes up `taken`; a key may follow it only in another line. -/
def scalar? (s : Cut) (t : Token) (keyAllowed : Bool) (taken : List Char) : Option Cut :=
  s.remember?.map fun s => ({ s with keyAllowed }.add t).skip taken

/-- The token that a single character makes. -/
def indicator? (flow : Bool) (c : Char) (rest : List Char) : Option Token :=
  if c = '[' then some .openList
  else if c = ']' then some .closeList
  else if c = '\x7b' then some .openMap
  else if c = '\x7d' then some .closeMap
  else if c = ',' then some .comma
  else if c = '-' && atGap rest then some .dash
  else if c = '?' && (flow || atGap rest) then some .key
  else if c = ':' && (flow || atGap rest) then some .value
  else none

/-- Takes the token of a single character. -/
def indicate? (s : Cut) (t : Token) : Option Cut :=
  match t with
  | .openList | .openMap => s.openFlow? t
  | .closeList | .closeMap => s.closeFlow? t
  | .comma => s.forget?.map fun s => { s with keyAllowed := true }.add t
  | .dash => ((s.inBlock? .blockList).bind forget?).map fun s => { s with keyAllowed := true }.add t
  | .key =>
    ((s.inBlock? .blockMap).bind forget?).map fun s => { s with keyAllowed := !s.inFlow }.add t
  | .value => s.colon?
  | _ => none

/-- The tokens, once the text has ended. -/
def finish? (s : Cut) : Option (List Token) := do
  let s ← s.settle?
  let s ← (s.closeBlocks fun _ => true).forget?
  return s.found.reverse

/-- What begins with `c`, which is no blank and begins no comment: the cut behind it, and the
characters of `rest` that are left. -/
def lexeme? (s : Cut) (c : Char) (rest : List Char) : Option (Cut × List Char) :=
  if s.place.column = 0 && startsMark (c :: rest) then
    let t := if c = '-' then Token.documentStart else .documentEnd
    (s.documentMark? t).map fun s => (s.skip [c, c, c], rest.drop 2)
  else
    match indicator? s.inFlow c rest with
    | some t => (s.indicate? t).map fun s => (s.skip [c], rest)
    | none =>
      if c = '\'' || c = '"' then
        (quoted? c rest).bind fun (text, taken) =>
          (s.scalar? (.scalar false text) false (c :: taken)).map fun s =>
            (s, rest.drop taken.length)
      else if beginsPlain s.inFlow c rest then
        let floor := match s.columns with
          | [] => 0
          | column :: _ => column + 1
        (plainFrom s.inFlow floor [c] .empty (s.place.after c) rest).bind fun p =>
          (s.scalar? (.scalar true (String.ofList p.text)) (p.broken) []).map fun s =>
            ({ s with place := p.place }, p.rest)
      else none

/-- A lexeme takes up no less than its first character. -/
theorem length_of_lexeme? {s s' : Cut} {c : Char} {rest left : List Char}
    (h : s.lexeme? c rest = some (s', left)) : left.length ≤ rest.length := by
  unfold lexeme? at h
  split at h
  · simp only [Option.map_eq_some_iff, Prod.mk.injEq] at h
    obtain ⟨_, _, _, rfl⟩ := h
    simp
  · split at h
    · simp only [Option.map_eq_some_iff, Prod.mk.injEq] at h
      obtain ⟨_, _, _, rfl⟩ := h
      simp
    · split at h
      · simp only [Option.bind_eq_some_iff, Option.map_eq_some_iff, Prod.mk.injEq] at h
        obtain ⟨_, _, _, _, _, rfl⟩ := h
        simp
      · split at h
        · simp only [Option.bind_eq_some_iff, Option.map_eq_some_iff, Prod.mk.injEq] at h
          obtain ⟨_, hplain, _, _, _, rfl⟩ := h
          exact length_of_plainFrom hplain
        · simp at h

end Cut

/-- The character that tells how a text is encoded. -/
def byteOrderMark : Char := Char.ofNat 0xfeff

/-- Cuts a text into tokens. A line may start with a byte order mark, which is skipped and takes up
its column. Tabs are no blanks where a key of a block may start, and a line break allows a key
wherever no flow collection is open. -/
def scanFrom (s : Cut) : List Char → Option (List Token)
  | [] => s.finish?
  | c :: rest =>
    if c = byteOrderMark && s.place.column = 0 then scanFrom (s.skip [c]) rest
    else if c = ' ' || c = '\t' && (s.inFlow || !s.keyAllowed) then scanFrom (s.skip [c]) rest
    else if isBreak c then
      scanFrom { s.skip [c] with keyAllowed := s.keyAllowed || !s.inFlow } rest
    else if c = '#' then
      scanFrom (s.skip (c :: rest.takeWhile (!isBreak ·))) (rest.dropWhile (!isBreak ·))
    else
      match s.settle? with
      | none => none
      | some s =>
        match _h : s.lexeme? c rest with
        | none => none
        | some (s, left) => scanFrom s left
termination_by cs => cs.length
decreasing_by
  · simp
  · simp
  · simp
  · have := (List.dropWhile_sublist (l := rest) (!isBreak ·)).length_le
    simp only [List.length_cons]
    omega
  · have := Cut.length_of_lexeme? _h
    simp only [List.length_cons]
    omega

/-- The tokens of a text, if all its characters may stand in a document. -/
def scan? (text : String) : Option (List Token) :=
  if text.toList.all isPrintable then scanFrom .start (unifyBreaks text.toList) else none

end Muster.Yaml
