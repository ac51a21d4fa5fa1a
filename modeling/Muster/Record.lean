import Muster.Json.Basic
import Muster.Text.Digit

/-!
# Records

How typed data is read out of a document, whatever its format. A format shows each of its values as
a scalar, a list or named fields, and says of a scalar what it can be read as; the readers below
need nothing else. A reader gives `none` where the value has another shape.
-/

namespace Muster

/-- The readings of a scalar. -/
structure Scalar where
  text : Option String := none
  natural : Option Nat := none
  flag : Option Bool := none
  /-- it stands for a value that is not there -/
  absent : Bool := false
  /-- it may stand for a list or a record without entries -/
  hollow : Bool := false

/-- What a document shows of one of its values. -/
inductive View (ν : Type) where
  | scalar (s : Scalar)
  | list (elements : List ν)
  /-- fields as written; a name that is no text is `none` -/
  | fields (members : List (Option String × ν))

/-- Documents whose values can be looked at. -/
class Viewed (ν : Type) where
  view : ν → View ν
  /-- whether a record may be written as the list of its values -/
  positional : Bool

namespace Record

variable {ν : Type} [Viewed ν]

/-- The readings of a value that is a scalar. -/
def scalar? (v : ν) : Option Scalar :=
  match Viewed.view v with
  | .scalar s => some s
  | _ => none

/-- A text. -/
def text? (v : ν) : Option String := (scalar? v).bind Scalar.text

/-- A natural number up to `limit`, with the proof that it is. -/
def bounded? (limit : Nat) (v : ν) : Option { n : Nat // n ≤ limit } :=
  ((scalar? v).bind Scalar.natural).bind fun n => if h : n ≤ limit then some ⟨n, h⟩ else none

/-- A natural number up to `limit`. -/
def natural? (limit : Nat) (v : ν) : Option Nat := (bounded? limit v).map Subtype.val

/-- A truth value. -/
def flag? (v : ν) : Option Bool := (scalar? v).bind Scalar.flag

/-- A text of one character. -/
def char? (v : ν) : Option Char :=
  match (text? v).map String.toList with
  | some [c] => some c
  | _ => none

/-- A value that may be missing. -/
def optional? (read : ν → Option α) (v : ν) : Option (Option α) :=
  match Viewed.view v with
  | .scalar s => if s.absent then some none else (read v).map some
  | _ => (read v).map some

/-- A list whose elements `read` all accepts. -/
def list? (read : ν → Option α) (v : ν) : Option (List α) :=
  match Viewed.view v with
  | .list elements => elements.mapM read
  | .scalar s => if s.hollow then some [] else none
  | .fields _ => none

/-- A list of exactly two. -/
def pair? (read : ν → Option α) (v : ν) : Option (α × α) :=
  match list? read v with
  | some [a, b] => some (a, b)
  | _ => none

/-- A field whose name is a text and whose value `read` accepts. -/
def field? (read : ν → Option α) : Option String × ν → Option (String × α)
  | (some name, v) => (read v).map fun a => (name, a)
  | (none, _) => none

/-- Names and values as written, repeated names included. -/
def entries? (read : ν → Option α) (v : ν) : Option (List (String × α)) :=
  match Viewed.view v with
  | .fields members => members.mapM (field? read)
  | .scalar s => if s.hollow then some [] else none
  | .list _ => none

/-- The value of a field under one of its names: `none` if it is given more than once. -/
def fieldOf? (members : List (String × ν)) (names : List String) : Option (Option ν) :=
  match members.filter fun m => names.contains m.1 with
  | [] => some none
  | [m] => some (some m.2)
  | _ => none

/-- The fields of a record, each under any of its names, `none` where it is not given. Some formats
let them be given as a list, in order; further fields are ignored in a record and refused in a
list. -/
def fields? (names : List (List String)) (v : ν) : Option (List (Option ν)) :=
  match Viewed.view v with
  | .fields members =>
    match members.mapM (field? some) with
    | none => none
    | some members => names.mapM (fieldOf? members)
  | .list elements =>
    if Viewed.positional ν ∧ elements.length ≤ names.length then
      some (elements.map some ++ List.replicate (names.length - elements.length) none)
    else none
  | .scalar s => if s.hollow then some (names.map fun _ => none) else none

/-- A field that must be given. -/
def required? (read : ν → Option α) : Option ν → Option α
  | none => none
  | some v => read v

/-- A field with a value for where it is not given. -/
def default? (value : α) (read : ν → Option α) : Option ν → Option α
  | none => some value
  | some v => read v

end Record

/-- A spelling that is digits only. -/
def Json.natural? (spelling : String) : Option Nat :=
  if spelling.toList.all Char.isDigit then
    some (Text.decimal spelling.toList)
  else none

/-- A JSON number is a natural number if it is written in digits only; `null` stands for no
value. -/
instance : Viewed Json where
  view
    | .null => .scalar { absent := true }
    | .bool b => .scalar { flag := some b }
    | .number spelling => .scalar { natural := Json.natural? spelling }
    | .string text => .scalar { text }
    | .array elements => .list elements
    | .object members => .fields members
  positional := true

end Muster
