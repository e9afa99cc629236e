import ClassMetrics.Files.FileSystem
import ClassMetrics.Settings.Basic
import ClassMetrics.Settings.Environment
import ClassMetrics.Settings.Toml.Document

namespace ClassMetrics

namespace Value

mutual

/-- Puts a value over another: records are joined, all else is replaced. -/
def overlay (below : Value) : Value → Value
  | .record fields =>
      match below with
      | .record base => .record (overlayFields base fields)
      | _ => .record fields
  | value => value

def overlayFields (base : List (String × Value)) : List (String × Value) → List (String × Value)
  | [] => base
  | (key, value) :: rest =>
      let merged := match Keyed.get? key base with
        | some held => overlay held value
        | none => value
      overlayFields (Keyed.insert key merged base) rest

end

def text? : Value → Option String
  | .text value => some value
  | _ => none

def bool? : Value → Option Bool
  | .bool value => some value
  | _ => none

def texts? : Value → Option (List String)
  | .list items => items.mapM text?
  | _ => none

/-- Limits have 32 bits and no sign. -/
def limit? : Value → Option Nat
  | .int value => if 0 ≤ value && value ≤ 0xffffffff then some value.toNat else none
  | _ => none

/-- Only the full names of formats are settings. -/
def format? : Value → Option Format
  | .text name => [Format.text, .json, .markdown].find? fun format => format.name == name
  | _ => none

end Value

/-- The settings of one section: by key, or in the order of the keys. -/
abbrev Section := List (String × Value)

namespace Section

/-- A section written as a list has its settings in the order of `keys`. -/
def ofValue? (keys : List String) : Option Value → Option Section
  | none => some []
  | some (.record fields) => some fields
  | some (.list items) => some (keys.zip items)
  | some _ => none

def get? {α : Type} (entries : Section) (read : Value → Option α) (fallback : α) (key : String) : Option α :=
  match Keyed.get? key entries with
  | none => some fallback
  | some value => read value

end Section

namespace Settings

def ofValue? (value : Value) : Option Settings := do
  let document ← Section.ofValue? [] (some value)
  let coupling ← Section.ofValue? ["platform_prefixes", "root_class", "break_on_cbo", "break_on_pair_cbo"]
    (Keyed.get? "coupling" document)
  let cohesion ← Section.ofValue? ["break_on_lcom"] (Keyed.get? "cohesion" document)
  let cycles ← Section.ofValue? ["break_on_cycle", "jdeps"] (Keyed.get? "cycles" document)
  let output ← Section.ofValue? ["format", "dir"] (Keyed.get? "output" document)
  return {
    exclude := ← Section.get? document Value.texts? default.exclude "exclude"
    platform := {
      starts := ← Section.get? coupling Value.texts? default.platform.starts "platform_prefixes"
      root := ← Section.get? coupling Value.text? default.platform.root "root_class" }
    couplingLimits := {
      perClass := ← Section.get? coupling Value.limit? default.couplingLimits.perClass "break_on_cbo"
      perPair := ← Section.get? coupling Value.limit? default.couplingLimits.perPair "break_on_pair_cbo" }
    lcomLimit := ← Section.get? cohesion Value.limit? default.lcomLimit "break_on_lcom"
    breakOnCycle := ← Section.get? cycles Value.bool? default.breakOnCycle "break_on_cycle"
    dependencyTool := ← Section.get? cycles Value.text? default.dependencyTool "jdeps"
    format := ← Section.get? output Value.format? default.format "format"
    outputDir := ← Section.get? output (fun value => value.text?.map some) default.outputDir "dir" }

/-- The settings that sources make together, a later one over an earlier one. -/
def ofSources (sources : List Value) : Except Failure Settings :=
  match ofValue? (sources.foldl Value.overlay (.record [])) with
  | some settings => .ok settings
  | none => .error (.settings .unreadable)

def readFile (files : FileSystem) (path : String) : Except Failure Value :=
  match files.readText path with
  | .error _ => .error (.settings .unreadable)
  | .ok text =>
      match Toml.read? text with
      | some value => .ok value
      | none => .error (.settings .unreadable)

/-- Settings of a file that has to be there. -/
def ofFile (files : FileSystem) (environment : List (String × String)) (path : String) :
    Except Failure Settings :=
  if !files.contains path then .error (.settings (.fileNotFound path))
  else do ofSources ((← readFile files path) :: Environment.settings environment)

/-- Where a file is found: a relative path is tried from the working directory and from all above it. -/
def search? (files : FileSystem) (path : String) : Option String :=
  let directory := files.workingDirectory
  let candidates :=
    if Path.isAbsolute path then [path]
    else (List.range (directory.length + 1)).map fun up =>
      Path.join (Location.path (directory.take (directory.length - up))) path
  candidates.find? files.isFile

/-- The files that are looked for in a directory. -/
def fileNames : List String := ["jsca.toml", ".jsca/jsca.toml"]

/-- Settings of the files that a directory may hold. -/
def ofDirectory (files : FileSystem) (environment : List (String × String)) (directory : String) :
    Except Failure Settings := do
  let found := (fileNames.map (Path.join directory)).filterMap (search? files)
  let sources ← found.mapM (readFile files)
  ofSources (sources ++ Environment.settings environment)

end Settings

end ClassMetrics
