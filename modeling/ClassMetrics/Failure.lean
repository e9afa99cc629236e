import ClassMetrics.Coupling.Extraction
import ClassMetrics.Files.IoError
import ClassMetrics.Text.Quoted
import ClassMetrics.Violation

namespace ClassMetrics

/-- How the program that lists dependencies can fail. -/
inductive ToolFault where
  | notStarted (program : String) (reason : IoError)
  | exited (program status errors : String)
  | noOutput (program path : String)
deriving Repr, DecidableEq

def ToolFault.message : ToolFault → String
  | .notStarted program reason => s!"failed to run {program}: {reason.message}"
  | .exited program status errors => s!"{program} exited with {status}: {errors}"
  | .noOutput program path => s!"{program} did not write {path}"

inductive SettingsFault where
  | fileNotFound (path : String)
  | invalidPattern (pattern : String)
  /-- A settings file or variable cannot be read, or has a value of the wrong kind. -/
  | unreadable
deriving Repr, DecidableEq

def SettingsFault.message : SettingsFault → String
  | .fileNotFound path => s!"Configuration error: config file not found: {path}"
  | .invalidPattern pattern => s!"Configuration error: invalid exclude pattern {Text.visiblyQuoted pattern}"
  | .unreadable => "Configuration error"

inductive Failure where
  | io (reason : IoError)
  | fileNotFound (path : String)
  | unreadableClass (path : String) (reason : IoError)
  | malformedClass (path : String) (reason : FormatError)
  | tool (fault : ToolFault)
  | settings (fault : SettingsFault)
  | method (fault : MethodFault)
  /-- An empty platform prefix would cover every class. -/
  | emptyPlatformStart
  | threshold (violation : Violation)
  /-- A table has a column too wide to be set. -/
  | overwideColumn
deriving Repr, DecidableEq

def Failure.message : Failure → String
  | .io reason => s!"I/O error: {reason.message}"
  | .fileNotFound path => s!"File not found: {path}"
  | .unreadableClass path reason => s!"Failed to read {path}: {reason.message}"
  | .malformedClass path reason => s!"Parse error in {path}: {reason.message}"
  | .tool fault => s!"External tool error: {fault.message}"
  | .settings fault => fault.message
  | .method fault => s!"Analysis error: {fault.message}"
  | .emptyPlatformStart =>
      "Invalid argument: coupling.platform_prefixes must not contain an empty prefix"
  | .threshold violation => s!"Threshold violation: {violation.message}"
  | .overwideColumn => "Formatting argument out of range"

/-- Whether the failure stops the program on the spot. All others are caught and reported. -/
def Failure.stops : Failure → Bool
  | .overwideColumn => true
  | _ => false

end ClassMetrics
