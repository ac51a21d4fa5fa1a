import Muster.Text.Digit
import Muster.Yaml.Character

/-!
# Scalars

How quoted and plain scalars are read. A scalar may go on over several lines: blanks around a line
break are dropped, a single break is a blank, and of several breaks all but the first are kept. The
separators of lines and paragraphs are never turned into blanks.
-/

namespace Muster.Yaml

/-- What stands between two pieces of a scalar. -/
inductive Gap where
  /-- blanks within a line, last first -/
  | blanks (bs : List Char)
  /-- line breaks; `spliced` if a backslash has taken away the one before them -/
  | breaks (bs : List Char) (spliced : Bool)
deriving DecidableEq, Repr

namespace Gap

/-- Nothing in between. -/
def empty : Gap := blanks []

/-- A gap with a blank or break more. -/
def add (g : Gap) (c : Char) : Gap :=
  match g with
  | blanks bs => if isBreak c then breaks [c] false else blanks (c :: bs)
  | breaks bs spliced => if isBreak c then breaks (bs ++ [c]) spliced else breaks bs spliced

/-- Whether the gap goes on into another line. -/
def isBroken : Gap → Bool
  | blanks _ => false
  | breaks .. => true

/-- The characters of a scalar so far, last first, with the gap behind them. -/
def onto (text : List Char) : Gap → List Char
  | blanks bs => bs ++ text
  | breaks ['\n'] false => ' ' :: text
  | breaks ('\n' :: more) false => more.reverse ++ text
  | breaks bs _ => bs.reverse ++ text

end Gap

/-- The inside of a single-quoted scalar, in which a quote is written twice. -/
def singleInside : List Char → Option (List Char)
  | [] => none
  | '\'' :: '\'' :: rest => (singleInside rest).map fun cs => '\'' :: '\'' :: cs
  | '\'' :: _ => some []
  | c :: rest => (singleInside rest).map (c :: ·)

/-- The inside of a double-quoted scalar, in which a backslash protects a quote. -/
def doubleInside : List Char → Option (List Char)
  | [] => none
  | '"' :: _ => some []
  | '\\' :: c :: rest => (doubleInside rest).map fun cs => '\\' :: c :: cs
  | c :: rest => (doubleInside rest).map (c :: ·)

/-- A text with a line, other than its first, that begins with a mark of documents. -/
def holdsMark : List Char → Bool
  | [] => false
  | c :: rest => isBreak c && startsMark rest || holdsMark rest

/-- The text of a single-quoted scalar; `text` holds its characters so far, last first. -/
def singleText (text : List Char) (gap : Gap) : List Char → List Char
  | [] => (gap.onto text).reverse
  | '\'' :: '\'' :: rest => singleText ('\'' :: gap.onto text) .empty rest
  | c :: rest =>
    if isSpace c || isBreak c then singleText text (gap.add c) rest
    else singleText (c :: gap.onto text) .empty rest

/-- The character whose code the digits spell. -/
def codePoint? (digits : List Char) : Option Char :=
  match Text.numeral? 16 digits with
  | none => none
  | some n => if n < 0xd800 || (0xe000 ≤ n && n < 0x110000) then some (Char.ofNat n) else none

/-- The character that a backslash and one letter stand for. -/
def shortEscape? : Char → Option Char
  | '0' => some (Char.ofNat 0)
  | 'a' => some (Char.ofNat 7)
  | 'b' => some (Char.ofNat 8)
  | 't' | '\t' => some '\t'
  | 'n' => some '\n'
  | 'v' => some (Char.ofNat 11)
  | 'f' => some (Char.ofNat 12)
  | 'r' => some '\r'
  | 'e' => some (Char.ofNat 27)
  | ' ' => some ' '
  | '"' => some '"'
  | '/' => some '/'
  | '\\' => some '\\'
  | 'N' => some (Char.ofNat 0x85)
  | '_' => some (Char.ofNat 0xa0)
  | 'L' => some (Char.ofNat 0x2028)
  | 'P' => some (Char.ofNat 0x2029)
  | _ => none

/-- The text of a double-quoted scalar; `text` holds its characters so far, last first. -/
def doubleText (text : List Char) (gap : Gap) : List Char → Option (List Char)
  | [] => some (gap.onto text).reverse
  | '\\' :: 'x' :: a :: b :: rest =>
    match codePoint? [a, b] with
    | some c => doubleText (c :: gap.onto text) .empty rest
    | none => none
  | '\\' :: 'u' :: a :: b :: c :: d :: rest =>
    match codePoint? [a, b, c, d] with
    | some c => doubleText (c :: gap.onto text) .empty rest
    | none => none
  | '\\' :: 'U' :: a :: b :: c :: d :: e :: f :: g :: h :: rest =>
    match codePoint? [a, b, c, d, e, f, g, h] with
    | some c => doubleText (c :: gap.onto text) .empty rest
    | none => none
  | '\\' :: c :: rest =>
    if isBreak c then doubleText (gap.onto text) (.breaks [] true) rest
    else
      match shortEscape? c with
      | some c => doubleText (c :: gap.onto text) .empty rest
      | none => none
  | c :: rest =>
    if isSpace c || isBreak c then doubleText text (gap.add c) rest
    else doubleText (c :: gap.onto text) .empty rest

/-- The quoted scalar whose quote is `quote` and behind which `rest` stands: its text, and the
characters of `rest` that belong to it. -/
def quoted? (quote : Char) (rest : List Char) : Option (String × List Char) :=
  let inside := if quote = '"' then doubleInside rest else singleInside rest
  inside.bind fun inside =>
    let taken := inside ++ [quote]
    let text := if quote = '"' then doubleText [] .empty inside
      else some (singleText [] .empty inside)
    if holdsMark taken then none else text.map fun text => (String.ofList text, taken)

/-- A character that may begin a plain scalar before the text `rest`. -/
def beginsPlain (flow : Bool) (c : Char) (rest : List Char) : Bool :=
  if c = '-' then !atGap rest
  else if c = '?' || c = ':' then !flow && !atGap rest
  else !(isSpace c || isBreak c || isFlowMark c || "#&*!|>'\"%@".toList.contains c
    || c.toNat = 0x60)

/-- A plain scalar, the text behind it and the place where that starts; `broken` if there is a line
break between the two. -/
structure PlainScalar where
  text : List Char
  rest : List Char
  place : Place
  broken : Bool
deriving Repr

/-- A colon in a flow collection that a mark follows at once. -/
def isClash (c : Char) (rest : List Char) : Bool :=
  c = ':' && rest.head?.any fun d => isFlowMark d || d = '?'

/-- What ends a plain scalar wherever it stands: a colon before a gap, and in a flow collection its
marks. -/
def stopsPlain (flow : Bool) (c : Char) (rest : List Char) : Bool :=
  c = ':' && atGap rest || flow && isFlowMark c

/-- What ends a plain scalar behind a gap: a comment, a mark of documents, and in a block a line
that is indented less than `floor`. -/
def stopsAfterGap (flow : Bool) (floor column : Nat) (cs : List Char) : Bool :=
  cs.head? = some '#' || column = 0 && startsMark cs || !flow && column < floor

/-- The rest of a plain scalar whose characters so far are `text`, last first. No line in it may be
indented by tabs up to `floor`. -/
def plainFrom (flow : Bool) (floor : Nat) (text : List Char) (gap : Gap) (place : Place) :
    List Char → Option PlainScalar
  | [] => some ⟨text.reverse, [], place, gap.isBroken⟩
  | c :: rest =>
    if isSpace c || isBreak c then
      if c = '\t' && gap.isBroken && place.column < floor then none
      else plainFrom flow floor text (gap.add c) (place.after c) rest
    else if gap ≠ .empty && stopsAfterGap flow floor place.column (c :: rest) then
      some ⟨text.reverse, c :: rest, place, gap.isBroken⟩
    else if flow && isClash c rest then none
    else if stopsPlain flow c rest then some ⟨text.reverse, c :: rest, place, gap.isBroken⟩
    else plainFrom flow floor (c :: gap.onto text) .empty (place.after c) rest

/-- Reading a plain scalar adds nothing to the text behind it. -/
theorem length_of_plainFrom {flow : Bool} {floor : Nat} {text : List Char} {gap : Gap}
    {place : Place} {cs : List Char} {p : PlainScalar}
    (h : plainFrom flow floor text gap place cs = some p) : p.rest.length ≤ cs.length := by
  fun_induction plainFrom flow floor text gap place cs <;> grind

end Muster.Yaml
