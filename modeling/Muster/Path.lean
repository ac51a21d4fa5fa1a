/-!
# Paths

The names on a path, when two paths are the same way, and the parts of a path that tell what a file
is: its last name and the extension of that.
-/

namespace Muster.Path

/-- The names of a path. Empty names, and single dots after the first name, say nothing. -/
def names (path : String) : List (List Char) :=
  match path.toList.splitOn '/' with
  | [] => []
  | first :: rest =>
    (if first = [] then [] else [first]) ++ rest.filter fun name => name ≠ [] ∧ name ≠ ['.']

/-- A path that starts at the root. -/
def isAbsolute (path : String) : Bool := path.toList.head? = some '/'

/-- Two spellings of one way. -/
def same (path other : String) : Bool :=
  isAbsolute path == isAbsolute other && names path == names other

/-- The name of the file that a path leads to, if it ends in one. -/
def fileName? (path : String) : Option (List Char) :=
  match (names path).getLast? with
  | none => none
  | some name => if name = ['.'] ∨ name = ['.', '.'] then none else some name

/-- What stands after the last dot of a name, unless that dot comes first. -/
def extensionOf? (name : List Char) : Option (List Char) :=
  let after := (name.reverse.takeWhile (· ≠ '.')).reverse
  if after.length + 1 < name.length then some after else none

/-- The extension of the file that a path leads to. -/
def extension? (path : String) : Option (List Char) := (fileName? path).bind extensionOf?

/-- A name in a directory. -/
def join (directory name : String) : String :=
  if directory = "" ∨ directory.toList.getLast? = some '/' then directory ++ name
  else directory ++ "/" ++ name

end Muster.Path
