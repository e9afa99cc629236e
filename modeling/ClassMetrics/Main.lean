import ClassMetrics.Run
import ClassMetrics.Text.Moment
import Std.Time.DateTime.Timestamp

/-!
The program on a real machine. The files that a run can look at are read beforehand, the run itself is
`Run.execute`, and what it printed and wrote is carried out afterwards. Programs cannot be started from here,
so the tool that lists dependencies counts as missing.
-/

namespace ClassMetrics

def locationOf (path : String) : Location := Path.steps path

/-- Everything below a directory, as it is now. -/
partial def snapshotBelow (files : FileSystem) (path : String) : IO FileSystem := do
  let canonical ← IO.FS.realPath path
  if ← canonical.isDir then
    let mut files := files.withDirectories (locationOf canonical.toString)
    for entry in ← canonical.readDir do
      files ← snapshotBelow files entry.path.toString
    return files
  else
    let location := locationOf canonical.toString
    let files := files.withDirectories location.dropLast
    try
      return files.put location (.file (← IO.FS.readBinFile canonical).toList)
    catch _ =>
      return { files.put location (.file []) with unreadable := location :: files.unreadable }

/-- Like `snapshotBelow`, and nothing if nothing is there or can be read. -/
def snapshot (files : FileSystem) (path : String) : IO FileSystem :=
  try snapshotBelow files path catch _ => pure files

/-- The directories on the way to a path that may not be there itself. -/
def snapshotNear (files : FileSystem) (path : String) : IO FileSystem := do
  let pieces := Path.pieces path
  let mut files := files
  for depth in List.range pieces.length do
    let above := "/".intercalate (pieces.take (depth + 1))
    try
      let canonical ← IO.FS.realPath (if above == "" then "/" else above)
      if ← canonical.isDir then files := files.withDirectories (locationOf canonical.toString)
    catch _ => pure ()
  return files

/-- Paths at which settings are looked for. -/
def settingsPaths (directory : Location) (arguments : CommandLine.Arguments) : List String :=
  match arguments.config with
  | some path => [path]
  | none => Settings.fileNames.flatMap fun name =>
      let path := Path.join arguments.path name
      if Path.isAbsolute path then [path]
      else (List.range (directory.length + 1)).map fun depth => Path.join (Location.path (directory.take depth)) path

/-- Names of environment variables that can hold a setting. -/
def variableNames : List String := [
  "JSCA_EXCLUDE", "JSCA_COUPLING", "JSCA_COHESION", "JSCA_CYCLES", "JSCA_OUTPUT",
  "JSCA_COUPLING__PLATFORM_PREFIXES", "JSCA_COUPLING__ROOT_CLASS", "JSCA_COUPLING__BREAK_ON_CBO",
  "JSCA_COUPLING__BREAK_ON_PAIR_CBO", "JSCA_COHESION__BREAK_ON_LCOM", "JSCA_CYCLES__BREAK_ON_CYCLE",
  "JSCA_CYCLES__JDEPS", "JSCA_OUTPUT__FORMAT", "JSCA_OUTPUT__DIR"]

def readVariables : IO (List (String × String)) := do
  let values ← variableNames.mapM fun name => do return (name, ← IO.getEnv name)
  return values.filterMap fun (name, value) => value.map fun text => (name, text)

/-- A machine with the files that a run with these arguments looks at. -/
def machineFor (arguments : CommandLine.Arguments) : IO Machine := do
  let directory := locationOf (← IO.currentDir).toString
  let environment ← readVariables
  let mut files := FileSystem.withDirectories { entries := [], workingDirectory := directory } directory
  files ← snapshot files arguments.path
  for path in settingsPaths directory arguments do
    files ← snapshot files path
  if let .cycles (some dot) := arguments.task then
    files ← snapshot files dot
  let machine : Machine := {
    files, environment
    tools := fun _ _ _ => .notStarted .noEntry
    scratchDir := "/tmp/jsca-jdeps"
    now := Text.moment (← Std.Time.Timestamp.now).toNanosecondsSinceUnixEpoch.val.toNat }
  match Run.settingsFor machine arguments with
  | .ok { outputDir := some output, .. } =>
      return { machine with files := ← snapshot (← snapshotNear files output) output }
  | _ => return machine

/-- Makes the machine's files what they are after the run. -/
def carryOut (before after : FileSystem) : IO Unit := do
  for (location, entry) in after.entries do
    if before.entry? location != some entry then
      match entry with
      | .directory => IO.FS.createDirAll location.path
      | .file content => IO.FS.writeBinFile location.path content.toByteArray

/-- Runs the program on words of a command line. -/
def runWords (words : List String) : IO UInt32 := do
  match CommandLine.parse words with
  | .error reason =>
      let ending := Run.Ending.misused reason
      if reason = .versionRequested then IO.print Run.versionText
      return UInt32.ofNat ending.code
  | .ok arguments =>
      let machine ← machineFor arguments
      let (ending, session) := Run.execute machine words
      IO.print session.printed
      carryOut machine.files session.files
      if let .failed failure := ending then
        IO.eprintln (if failure.stops then failure.message else s!"Error: {failure.message}")
      return UInt32.ofNat ending.code

end ClassMetrics

def main (words : List String) : IO UInt32 := ClassMetrics.runWords words
