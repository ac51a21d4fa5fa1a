import Muster.Codex.Loading

/-!
# Shelves

A directory tree held in memory, read by paths relative to it the way a file system is.
-/

namespace Muster

/-- The bytes of the files and the names of the directories, by the names on the way to them. -/
structure Shelf where
  files : List (List String × ByteArray)
  directories : List (List String)

namespace Shelf

/-- A tree without files. -/
def empty : Shelf := ⟨[], []⟩

/-- The names that a path is written with. -/
def namesOf (path : String) : List String := (path.toList.splitOn '/').map String.ofList

/-- Where the names of a path lead from the root; an empty name or a dot stays, two dots go up. -/
def wayOf (names : List String) : List String :=
  names.foldl (fun way name =>
    if name = "" ∨ name = "." then way else if name = ".." then way.dropLast else way ++ [name]) []

/-- Adds a directory, and those on the way to it. -/
def addDirectory (s : Shelf) (names : List String) : Shelf :=
  { s with
    directories := s.directories ++ (List.range (names.length + 1)).map (wayOf ∘ names.take) }

/-- Adds a file, in place of one at the same path, and the directories on the way to it. -/
def addFile (s : Shelf) (path : String) (bytes : ByteArray) : Shelf :=
  let names := namesOf path
  let way := wayOf names
  let s := s.addDirectory names.dropLast
  { s with files := s.files.filter (fun f => f.1 ≠ way) ++ [(way, bytes)] }

/-- Whether the names lead to a directory; no names lead to the root. -/
def isDirectory (s : Shelf) (way : List String) : Bool := way = [] || s.directories.contains way

/-- The bytes of the file that the names lead to. -/
def file? (s : Shelf) (way : List String) : Option ByteArray :=
  (s.files.find? fun f => f.1 = way).map Prod.snd

/-- The names of the files in the directory that the names lead to. -/
def filesAt (s : Shelf) (way : List String) : List String :=
  s.files.filterMap fun f => if f.1.dropLast = way then f.1.getLast? else none

/-- What a path leads to. -/
inductive Place where
  /-- a directory, with the names of the files in it -/
  | directory (files : List String)
  | file (bytes : ByteArray)

/-- The longest name that a file may have, in bytes. -/
def maxName : Nat := 255

/-- The longest path that may be followed, in bytes. -/
def maxPath : Nat := 4095

/-- Goes on from a directory by the names of a path; an empty name or a dot stays, two dots go
up. Nothing but directories is found above the shelf. -/
def follow (s : Shelf) (way : List String) : List String → Except ReadFailure Place
  | [] => .ok (.directory (s.filesAt way))
  | name :: rest =>
    if name = "" ∨ name = "." then s.follow way rest
    else if name = ".." then if way = [] then empty.follow [] rest else s.follow way.dropLast rest
    else if name.utf8ByteSize > maxName then .error .nameTooLong
    else if s.isDirectory (way ++ [name]) then s.follow (way ++ [name]) rest
    else
      match s.file? (way ++ [name]), rest with
      | none, _ => .error .notFound
      | some bytes, [] => .ok (.file bytes)
      | some _, _ :: _ => .error .notDirectory

/-- What a path leads to; nothing is known of the tree that the shelf stands in. -/
def resolve (s : Shelf) (path : String) : Except ReadFailure Place :=
  if path.toList.contains (Char.ofNat 0) then .error .zeroInName
  else if path.utf8ByteSize > maxPath then .error .nameTooLong
  else if path = "" then .error .notFound
  else (if Path.isAbsolute path then empty else s).follow [] (namesOf path)

/-- The text of a file. -/
def fetch (s : Shelf) (path : String) : Except ReadFailure String :=
  match s.resolve path with
  | .error e => .error e
  | .ok (.directory _) => .error .isDirectory
  | .ok (.file bytes) =>
    match String.fromUTF8? bytes with
    | some text => .ok text
    | none => .error .notUtf8

/-- The names of the files in a directory. -/
def filesIn? (s : Shelf) (path : String) : Option (List String) :=
  match s.resolve path with
  | .ok (.directory files) => some files
  | _ => none

end Shelf

end Muster
