import Muster.Codex.Audit
import Muster.Codex.Document
import Muster.Path

/-!
# Loading codices

A codex is loaded from a file whose extension says how it is written. Reading takes it as it is;
loading refuses it if its audit finds an error. What the file system gives for a path is an
argument.
-/

namespace Muster

/-- Why a file gives no text. -/
inductive ReadFailure where
  | notFound
  | notDirectory
  | isDirectory
  | nameTooLong
  | zeroInName
  | notUtf8
  | other (reason : String)
deriving DecidableEq, Repr

/-- The text of a failure. -/
def ReadFailure.message : ReadFailure → String
  | notFound => "No such file or directory (os error 2)"
  | notDirectory => "Not a directory (os error 20)"
  | isDirectory => "Is a directory (os error 21)"
  | nameTooLong => "File name too long (os error 36)"
  | zeroInName => "file name contained an unexpected NUL byte"
  | notUtf8 => "stream did not contain valid UTF-8"
  | other reason => reason

/-- The name of a format in messages. -/
def Format.name : Format → String
  | json => "JSON"
  | yaml => "YAML"

/-- The format that the extension of a path stands for, in upper or lower case. -/
def Format.ofPath? (path : String) : Option Format :=
  match (Path.extension? path).map fun e => String.ofList (Text.asciiLower e) with
  | some "json" => some json
  | some "yaml" | some "yml" => some yaml
  | _ => none

/-- Why no codex comes of a file; every cause but one names the file. -/
inductive LoadError where
  | unreadable (path : String) (e : ReadFailure)
  | malformed (path : String) (format : Format)
  | unsupportedFormat (path : String)
  | codex (path : String) (e : CodexError)
  | unknownRole (path role : String)
  | invalid (path : String) (audit : Audit)
deriving DecidableEq, Repr

/-- The text of an error. -/
def LoadError.message : LoadError → String
  | unreadable path e => "failed to read " ++ path ++ ": " ++ e.message
  | malformed path format => "invalid " ++ format.name ++ " in " ++ path ++ ": not a catalog"
  | unsupportedFormat path =>
    "unsupported catalog format for " ++ path ++ " (expected .json, .yaml or .yml)"
  | codex path e => path ++ ": " ++ e.message
  | unknownRole path role => path ++ ": unknown battlefield role '" ++ role ++ "'"
  | invalid path audit =>
    path ++ " failed validation with " ++ toString (audit.count .error) ++ " error(s)"

namespace Codex

/-- The codex that a text holds; `origin` says where the text is from. -/
def parse (format : Format) (origin text : String) : Except LoadError Codex :=
  match Codex.read format text with
  | .ok x => .ok x
  | .error .malformed => .error (.malformed origin format)
  | .error (.codex e) => .error (.codex origin e)
  | .error (.unknownRole role) => .error (.unknownRole origin role)

/-- The codex in a file, as it is. -/
def fromFile (fetch : String → Except ReadFailure String) (path : String) :
    Except LoadError Codex :=
  match Format.ofPath? path with
  | none => .error (.unsupportedFormat path)
  | some format =>
    match fetch path with
    | .error e => .error (.unreadable path e)
    | .ok text => parse format path text

/-- The codex in a file, if its audit finds no error. -/
def loadFile (fetch : String → Except ReadFailure String) (path : String) :
    Except LoadError Codex :=
  match fromFile fetch path with
  | .error e => .error e
  | .ok x => if x.audit.hasErrors then .error (.invalid path x.audit) else .ok x

/-- The names of the files that a directory of codices is loaded from. -/
def isCodexName (name : String) : Bool :=
  [".catalog.json", ".catalog.yaml", ".catalog.yml"].any fun ending =>
    ending.toList.isSuffixOf name.toList

/-- The codices in a directory that can be loaded, by the names of their files; `files` are the
names of the files in it, and nothing is loaded where there is no directory. -/
def loadDirectory (fetch : String → Except ReadFailure String) (path : String)
    (files : Option (List String)) : List Codex :=
  let names := ((files.getD []).filter isCodexName).mergeSort fun s t => decide (s ≤ t)
  names.filterMap fun name => (loadFile fetch (Path.join path name)).toOption

end Codex

end Muster
