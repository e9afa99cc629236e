import ClassMetrics.ClassFile.Decode
import ClassMetrics.Failure
import ClassMetrics.Files.FileSystem
import ClassMetrics.Pattern.Read

namespace ClassMetrics

structure ClassFiles where
  root : Location
  /-- Seen from the root. -/
  members : List Location
deriving Repr, DecidableEq

/-- How far the reading of class files came. -/
structure ClassReading where
  classes : List ClassFile
  failure : Option Failure
deriving Repr

namespace ClassReading

def outcome (reading : ClassReading) : Except Failure (List ClassFile) :=
  match reading.failure with
  | some failure => .error failure
  | none => .ok reading.classes

/-- The steps that were reported: how many of how many files are read. -/
def progress (reading : ClassReading) (total : Nat) : List (Nat × Nat) :=
  (List.range reading.classes.length).map fun done => (done + 1, total)

end ClassReading

namespace ClassFiles

def suffix : String := ".class"

/-- A name that is more than the suffix itself. -/
def isClassName (name : String) : Bool :=
  suffix.toList.isSuffixOf name.toList && name != suffix

/-- A location as seen from a directory above it. -/
def below? (root location : Location) : Option Location :=
  if root.isPrefixOf location then some (location.drop root.length) else none

/-- A location as a relative path. -/
def relativePath (location : Location) : String := "/".intercalate location

def isExcluded (patterns : List Pattern) (root member : Location) : Bool :=
  patterns.any fun pattern =>
    pattern.covers (relativePath member) || pattern.covers (Location.path (root ++ member))

/-- Class files below a directory, whatever their order. -/
def collect (files : FileSystem) (root : Location) : List Location :=
  files.entries.filterMap fun (location, entry) =>
    match entry, below? root location with
    | .file _, some member => if isClassName (member.getLast?.getD "") then some member else none
    | _, _ => none

def readPatterns : List String → Except Failure (List Pattern)
  | [] => .ok []
  | text :: rest =>
      match Pattern.ofText? text with
      | none => .error (.settings (.invalidPattern text))
      | some pattern => (readPatterns rest).map (pattern :: ·)

/-- Locations are in the order of their parts. -/
def inOrder (first second : Location) : Bool :=
  !second.lex first fun part other => decide (part < other)

def ofPath (files : FileSystem) (exclude : List String) (path : String) : Except Failure ClassFiles :=
  match files.locate path with
  | .error _ => .error (.fileNotFound path)
  | .ok root =>
      if files.holdsDirectory root then do
        let patterns ← readPatterns exclude
        let members := (collect files root).filter fun member => !isExcluded patterns root member
        return { root, members := members.mergeSort inOrder }
      else .error (.fileNotFound path)

def readMember (files : FileSystem) (location : Location) : Except Failure ClassFile :=
  match files.contentAt location with
  | .error reason => .error (.unreadableClass location.path reason)
  | .ok content =>
      match ClassFile.decode content with
      | .error reason => .error (.malformedClass location.path reason)
      | .ok classFile => .ok classFile

/-- Reads members one after the other, up to the first that fails. -/
def readMembers (files : FileSystem) (root : Location) : List Location → ClassReading
  | [] => ⟨[], none⟩
  | member :: rest =>
      match readMember files (root ++ member) with
      | .error failure => ⟨[], some failure⟩
      | .ok classFile =>
          let reading := readMembers files root rest
          { reading with classes := classFile :: reading.classes }

def read (set : ClassFiles) (files : FileSystem) : ClassReading :=
  readMembers files set.root set.members

end ClassFiles

end ClassMetrics
