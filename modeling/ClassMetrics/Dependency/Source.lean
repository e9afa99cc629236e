import ClassMetrics.Dot.Read
import ClassMetrics.Failure
import ClassMetrics.Files.FileSystem

namespace ClassMetrics

/-- How a program ends. -/
inductive ToolOutcome where
  | notStarted (reason : IoError)
  | exited (status errors : String)
  | finished (files : FileSystem)

/-- What the programs of a machine do, by name and arguments. -/
abbrev Tools := String → List String → FileSystem → ToolOutcome

/-- A program that lists the dependencies of the classes in a directory. -/
structure DependencyTool where
  program : String
  classesDir : String
  /-- Where the program leaves its DOT files. -/
  dotDir : String
deriving Repr, DecidableEq

namespace DependencyGraph

def describe (graph : DependencyGraph) : String :=
  s!"in-memory graph ({graph.vertexCount} vertices)"

def ofDotFile (files : FileSystem) (path : String) : Except Failure DependencyGraph :=
  if !files.isFile path then .error (.fileNotFound path)
  else
    match files.readText path with
    | .error reason => .error (.io reason)
    | .ok text => .ok (Dot.read text).1

end DependencyGraph

namespace DependencyTool

def arguments (tool : DependencyTool) : List String :=
  ["-dotoutput", tool.dotDir, "-verbose:class", "-filter:none", tool.classesDir]

/-- The file is named for the directory of the classes. -/
def dotFile (tool : DependencyTool) : String :=
  Path.join tool.dotDir ((Path.fileName? tool.classesDir).getD "classes" ++ ".dot")

def describe (tool : DependencyTool) : String :=
  tool.program ++ " " ++ " ".intercalate tool.arguments

/-- Runs the program and reads what it wrote. -/
def run (tool : DependencyTool) (tools : Tools) (files : FileSystem) :
    FileSystem × Except Failure DependencyGraph :=
  match tools tool.program tool.arguments files with
  | .notStarted reason => (files, .error (.tool (.notStarted tool.program reason)))
  | .exited status errors =>
      (files, .error (.tool (.exited tool.program status (String.ofList (Text.trim errors.toList)))))
  | .finished files =>
      if files.isFile tool.dotFile then (files, DependencyGraph.ofDotFile files tool.dotFile)
      else (files, .error (.tool (.noOutput tool.program tool.dotFile)))

/-- The graph of the classes, and the files as they are then. -/
def load (tool : DependencyTool) (tools : Tools) (files : FileSystem) :
    FileSystem × Except Failure DependencyGraph :=
  if !files.isDirectory tool.classesDir then (files, .error (.fileNotFound tool.classesDir))
  else
    match files.createDirectories tool.dotDir with
    | .error reason => (files, .error (.io reason))
    | .ok files => tool.run tools files

end DependencyTool

end ClassMetrics
