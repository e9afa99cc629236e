import ClassMetrics.Files.IoError
import ClassMetrics.Files.Path

namespace ClassMetrics

/-!
A file system as data: a list of directories and files by location, and a working directory. Paths are
followed step by step, so each way to miss a file has its own `IoError`. Links and devices are left out, and
all rights but the right to read a file.
-/

/-- The names that lead from the top to a place. The top itself is the empty list. -/
abbrev Location := List String

inductive Entry where
  | directory
  | file (content : List UInt8)
deriving Repr, DecidableEq

structure FileSystem where
  entries : List (Location × Entry)
  workingDirectory : Location
  /-- Files that are there and may not be read. -/
  unreadable : List Location := []
deriving Repr, DecidableEq

/-- The longest name that a directory can hold, in bytes. -/
def longestName : Nat := 255

namespace Location

/-- A location as an absolute path. -/
def path (location : Location) : String :=
  if location.isEmpty then "/" else String.join (location.map ("/" ++ ·))

end Location

namespace FileSystem

def entry? (files : FileSystem) (location : Location) : Option Entry :=
  if location.isEmpty then some .directory else files.entries.lookup location

def holdsDirectory (files : FileSystem) (location : Location) : Bool :=
  files.entry? location == some .directory

/-- Takes the place of what was there before. -/
def put (files : FileSystem) (location : Location) (entry : Entry) : FileSystem :=
  { files with entries := files.entries.filter (·.1 != location) ++ [(location, entry)] }

/-- A directory at a location, and all directories above it. -/
def withDirectories (files : FileSystem) (location : Location) : FileSystem :=
  (List.range location.length).foldl (fun files depth =>
    let above := location.take (depth + 1)
    if (files.entry? above).isSome then files else files.put above .directory) files

/-- One piece of a path, followed from a location. -/
def step (files : FileSystem) (here : Location) (piece : String) : Except IoError Location :=
  if !files.holdsDirectory here then .error .notDirectory
  else if piece == "" || piece == "." then .ok here
  else if piece == ".." then .ok here.dropLast
  else if longestName < piece.utf8ByteSize then .error .nameTooLong
  else if (files.entry? (here ++ [piece])).isSome then .ok (here ++ [piece])
  else .error .noEntry

def follow (files : FileSystem) (here : Location) (pieces : List String) : Except IoError Location :=
  pieces.foldlM files.step here

/-- Where the first step of a path is taken. -/
def origin (files : FileSystem) (path : String) : Location :=
  if Path.isAbsolute path then [] else files.workingDirectory

def locate (files : FileSystem) (path : String) : Except IoError Location :=
  if path.toList.contains '\x00' then .error .nulInName
  else if path == "" then .error .noEntry
  else files.follow (files.origin path) (Path.pieces path)

def find? (files : FileSystem) (path : String) : Option Entry :=
  match files.locate path with
  | .ok location => files.entry? location
  | .error _ => none

def contains (files : FileSystem) (path : String) : Bool :=
  (files.find? path).isSome

def isDirectory (files : FileSystem) (path : String) : Bool :=
  files.find? path == some .directory

def isFile (files : FileSystem) (path : String) : Bool :=
  match files.find? path with
  | some (.file _) => true
  | _ => false

def contentAt (files : FileSystem) (location : Location) : Except IoError (List UInt8) :=
  match files.entry? location with
  | some (.file content) => if files.unreadable.contains location then .error .notPermitted else .ok content
  | some .directory => .error .isDirectory
  | none => .error .noEntry

def readText (files : FileSystem) (path : String) : Except IoError String := do
  let content ← files.contentAt (← files.locate path)
  match String.fromUTF8? content.toByteArray with
  | some text => .ok text
  | none => .error .notUtf8

/-- Creates or replaces a file. Its directory has to be there. -/
def writeText (files : FileSystem) (path text : String) : Except IoError FileSystem :=
  if path.toList.contains '\x00' then .error .nulInName
  else do
    let pieces := Path.pieces path
    let parent ← files.follow (files.origin path) pieces.dropLast
    let name := pieces.getLast?.getD ""
    if !files.holdsDirectory parent then .error .notDirectory
    else if name == "" || name == "." || name == ".." then .error .isDirectory
    else if longestName < name.utf8ByteSize then .error .nameTooLong
    else if files.holdsDirectory (parent ++ [name]) then .error .isDirectory
    else .ok (files.put (parent ++ [name]) (.file text.toUTF8.toList))

/-- One new directory. -/
def makeDirectory (files : FileSystem) (origin : Location) (steps : List String) :
    Except IoError FileSystem := do
  let parent ← files.follow origin steps.dropLast
  let name := steps.getLast?.getD ".."
  if !files.holdsDirectory parent then .error .notDirectory
  else if name == ".." then .error .alreadyExists
  else if longestName < name.utf8ByteSize then .error .nameTooLong
  else if (files.entry? (parent ++ [name])).isSome then .error .alreadyExists
  else .ok (files.put (parent ++ [name]) .directory)

/-- A refusal does not matter where a directory already stands. -/
def orPresent (files : FileSystem) (origin : Location) (steps : List String)
    (made : Except IoError FileSystem) : Except IoError FileSystem :=
  match made, files.follow origin steps with
  | .error reason, .ok location => if files.holdsDirectory location then .ok files else .error reason
  | made, _ => made

/-- The directories above are made only if one of them is missing. -/
def makeDirectories (files : FileSystem) (origin : Location) (steps : List String) :
    Except IoError FileSystem :=
  match _ : steps with
  | [] => .ok files
  | _ :: _ =>
      match files.makeDirectory origin steps with
      | .error .noEntry => do
          let files ← files.makeDirectories origin steps.dropLast
          files.orPresent origin steps (files.makeDirectory origin steps)
      | made => files.orPresent origin steps made
termination_by steps.length
decreasing_by
  subst_vars
  simp

def createDirectories (files : FileSystem) (path : String) : Except IoError FileSystem :=
  if path.toList.contains '\x00' then .error .nulInName
  else files.makeDirectories (files.origin path) (Path.steps path)

end FileSystem

end ClassMetrics
