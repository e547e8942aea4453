import GpuMetrics.Config.Check
import GpuMetrics.Yaml.Load

/-!
# Settings in a file

A file of settings is a document in YAML. A path is looked up part by part, where empty parts and
single points count for nothing, and every part but the last has to be a directory. Neither a path
nor one of its parts may be too long.
-/

namespace GpuMetrics

/-- The files that can be read. Paths that do not begin with a slash begin here. -/
structure Files where
  /-- The texts of the files, by their paths. -/
  texts : Keyed String String := []
  /-- The directories besides those that lead to a file. -/
  directories : List String := []

/-- Why a file gives no settings. -/
inductive FileFault
  | /-- There is no such file. -/
    missing (path : String)
  | /-- The path leads to a directory. -/
    directory (path : String)
  | /-- The path is too long, or one of its parts is. -/
    tooLong (path : String)
  | /-- The text of the file is no document. -/
    unreadable (fault : Yaml.Fault)
  | /-- The document gives no settings. -/
    rejected (rejection : Rejection)

/-- How a message names the fault. -/
def FileFault.message : FileFault → String
  | missing path => "Configuration file not found: " ++ path
  | directory path => "[Errno 21] Is a directory: " ++ Text.quoted path
  | tooLong path => "[Errno 36] File name too long: " ++ Text.quoted path
  | unreadable e => e.message
  | rejected r => r.message

namespace Files

/-! ## Paths -/

/-- The parts of a path. -/
def partsOf (path : String) : List String :=
  (Text.piecesOf '/' path).filter fun p => !p.isEmpty && p ≠ "."

/-- The slashes that a path begins with and that are kept: two of them if there are just two, and
else one at most. -/
def rootOf (path : String) : String :=
  match path.toList.takeWhile (· = '/') with
  | [] => ""
  | ['/', '/'] => "//"
  | _ => "/"

/-- A path without the parts that count for nothing. -/
def plainPath (path : String) : String :=
  let plain := rootOf path ++ Text.joined "/" (partsOf path)
  if plain.isEmpty then "." else plain

/-- The bytes that no path reaches. -/
def pathLimit : Nat := 4096

/-- The most bytes of a part of a path. -/
def mostPartBytes : Nat := 255

/-! ## Looking up -/

/-- A place in the tree of directories. -/
inductive Place
  | /-- Under this directory. -/
    here (parts : List String)
  | /-- Under the root. -/
    root (parts : List String)
  | /-- A directory further up than this one. -/
    above
  deriving DecidableEq, Repr

namespace Place

/-- The directory around a place. -/
def up : Place → Place
  | here [] => above
  | here parts => here parts.dropLast
  | root parts => root parts.dropLast
  | above => above

/-- The place under a name in a directory. Of the directories further up only the names of those
around them are known. -/
def down? (name : String) : Place → Option Place
  | here parts => some (here (parts ++ [name]))
  | root parts => some (root (parts ++ [name]))
  | above => none

/-- Where the lookup of a path begins. -/
def startOf (path : String) : Place := if (rootOf path).isEmpty then here [] else root []

/-- The place that a path writes. -/
def ofPath (path : String) : Place :=
  if (rootOf path).isEmpty then here (partsOf path) else root (partsOf path)

/-- Whether one place is another or lies under it. -/
def isUnder : Place → Place → Bool
  | here p, here q => q.isPrefixOf p
  | root p, root q => q.isPrefixOf p
  | _, _ => false

end Place

/-- The text of the file at a place. -/
def textAt? (files : Files) (place : Place) : Option String :=
  (files.texts.find? fun f => Place.ofPath f.1 = place).map (·.2)

/-- Whether there is a directory at a place. -/
def isDirectory (files : Files) (place : Place) : Bool :=
  place = .here [] || place = .root [] || place = .above
    || (files.texts.any fun f => (Place.ofPath f.1).isUnder place && Place.ofPath f.1 ≠ place)
    || files.directories.any fun d => (Place.ofPath d).isUnder place

/-- What a lookup comes to. -/
inductive Found
  | /-- A file with a text. -/
    file (text : String)
  | /-- A directory. -/
    directory
  | /-- Nothing. -/
    nothing
  | /-- A part that is too long. -/
    tooLong
  deriving DecidableEq, Repr

/-- Looks up the parts of a path that are left, from a directory on. -/
def walk (files : Files) (place : Place) : List String → Found
  | [] => .directory
  | part :: rest =>
    if part = ".." then walk files place.up rest
    else if part.utf8ByteSize > mostPartBytes then .tooLong
    else match place.down? part with
      | none => .nothing
      | some next =>
        if files.isDirectory next then walk files next rest
        else match files.textAt? next with
          | some text => if rest.isEmpty then .file text else .nothing
          | none => .nothing

/-- What a path leads to. No path has a null character. -/
def lookUp (files : Files) (path : String) : Found :=
  if path.contains (Char.ofNat 0) then .nothing
  else if (plainPath path).utf8ByteSize ≥ pathLimit then .tooLong
  else walk files (Place.startOf path) (partsOf path)

/-- The text of a file. -/
def read (files : Files) (path : String) : Except FileFault String :=
  match files.lookUp path with
  | .file text => .ok text
  | .directory => .error (.directory (plainPath path))
  | .nothing => .error (.missing path)
  | .tooLong => .error (.tooLong (plainPath path))

/-- The settings in a file: `load_from_file`. -/
def settings (files : Files) (env : Environment) (path : String) : Except FileFault Settings :=
  match files.read path with
  | .error e => .error e
  | .ok text =>
    match Yaml.load text with
    | .error e => .error (.unreadable e)
    | .ok d => (Settings.load env d).mapError .rejected

end Files

end GpuMetrics
