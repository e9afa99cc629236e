import ClassMetrics.CommandLine.Options
import ClassMetrics.Report.Format

namespace ClassMetrics.CommandLine

inductive Task where
  | coupling
  | cohesion
  /-- With a DOT file, the graph is read from it. -/
  | cycles (dot : Option String)
  | all
deriving Repr, DecidableEq

structure Arguments where
  path : String
  format : Option Format
  config : Option String
  outputDir : Option String
  verbose : Bool
  task : Task
deriving Repr, DecidableEq

def helpOption : OptionSpec := { long := "help", short := some 'h', role := .help }

def program : CommandSpec where
  options := [
    { long := "path", short := some 'p', role := .value none },
    { long := "format", short := some 'f', role := .value (some ["json", "markdown", "text"]) },
    { long := "config", short := some 'c', role := .value none },
    { long := "output-dir", short := some 'o', role := .value none },
    { long := "verbose", short := some 'v', role := .flag },
    helpOption,
    { long := "version", short := some 'V', role := .version }]
  subcommands := ["coupling", "cbo", "cohesion", "lcom", "cycles", "all", "help"]

def plainCommand : CommandSpec := { options := [helpOption], subcommands := [] }

def cyclesCommand : CommandSpec where
  options := [{ long := "dot", short := none, role := .value none }, helpOption]
  subcommands := []

/-- The value given to an option. -/
def valueOf? (given : Given) (name : String) : Option String := (given.lookup name).join

/-- The options of a command without subcommands. -/
def parseOptions (command : CommandSpec) (words : List String) : Except UsageError Given := do
  let parsed ← parseWords command .none words
  return (← parsed.progress.settle).given

/-- Help on a subcommand can be asked for by name, and subcommands have no subcommands. -/
def helpOn : List String → UsageError
  | [] => .helpRequested
  | [name] => if program.subcommands.contains name then .helpRequested else .invalidSubcommand
  | _ => .invalidSubcommand

def parseTask (name : String) (words : List String) : Except UsageError Task :=
  match name with
  | "coupling" | "cbo" => (parseOptions plainCommand words).map fun _ => .coupling
  | "cohesion" | "lcom" => (parseOptions plainCommand words).map fun _ => .cohesion
  | "cycles" => (parseOptions cyclesCommand words).map fun given => .cycles (valueOf? given "dot")
  | "all" => (parseOptions plainCommand words).map fun _ => .all
  | "help" => .error (helpOn words)
  | _ => .error .invalidSubcommand

def argumentsOf (given : Given) (task : Task) : Arguments where
  path := (valueOf? given "path").getD "."
  format := (valueOf? given "format").bind Format.ofName?
  config := valueOf? given "config"
  outputDir := valueOf? given "output-dir"
  verbose := (given.lookup "verbose").isSome
  task := task

/-- The subcommand's own words are looked at before the last value in front of it. -/
def parse (words : List String) : Except UsageError Arguments := do
  let parsed ← parseWords program .none words
  match parsed.subcommand with
  | some (name, rest) =>
      let task ← parseTask name rest
      return argumentsOf (← parsed.progress.settle).given task
  | none =>
      let progress ← parsed.progress.settle
      .error (if progress.given.isEmpty then .nothingGiven else .missingSubcommand)

end ClassMetrics.CommandLine
