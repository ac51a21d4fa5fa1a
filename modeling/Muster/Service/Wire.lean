import Muster.Service.Desk
import Muster.Text.Utf8

/-!
# Requests on the wire

A request as one read from a connection gives it: the method and the path are the first two words
of the first line, and the body is what stands between the first blank line and the next.
-/

namespace Muster

namespace Text

/-- What stands before the first occurrence of a mark. -/
def before (mark : List Char) : List Char → List Char
  | [] => []
  | c :: rest => if mark.isPrefixOf (c :: rest) then [] else c :: before mark rest

/-- What stands after the first occurrence of a mark, if there is one. -/
def after? (mark : List Char) : List Char → Option (List Char)
  | [] => none
  | c :: rest =>
    if mark.isPrefixOf (c :: rest) then some ((c :: rest).drop mark.length) else after? mark rest

end Text

namespace Request

/-- The most bytes that one read takes in. -/
def readSize : Nat := 16384

/-- The part of a text between the first two occurrences of a mark, or after its only one. -/
def section? (mark text : List Char) : Option (List Char) :=
  (Text.after? mark text).map (Text.before mark)

/-- The body of a request; blank lines may end in carriage returns, throughout. -/
def bodyOf (text : List Char) : List Char :=
  match section? ['\r', '\n', '\r', '\n'] text with
  | some body => body
  | none => (section? ['\n', '\n'] text).getD []

/-- The request that a text spells; a method or path that is missing is `GET` or `/`. -/
def ofText (text : List Char) : Request :=
  let (method, path) := match Text.words (text.takeWhile (· ≠ '\n')) with
    | [] => ("GET", "/")
    | [method] => (String.ofList method, "/")
    | method :: path :: _ => (String.ofList method, String.ofList path)
  ⟨method, path, String.ofList (bodyOf text)⟩

end Request

/-- The desk and the reply after one read from a connection; nothing read, nothing replied. -/
def Desk.answer (read : Json.Reader) (d : Desk) (now : Nat) (newId : String) (bytes : List Nat) :
    Desk × Option Reply :=
  match bytes with
  | [] => (d, none)
  | bytes => d.handle read now newId (Request.ofText (Text.readUtf8 bytes))

end Muster
