namespace ClassMetrics.CommandLine

/-!
Options of a command, as words of a command line give them: `--name value`, `--name=value`, `-n value`, `-nvalue`,
`-n=value`, and short flags in one word. A value in a word of its own is looked at when the next option begins
or the line ends, so a fault in between is reported first.
-/

inductive UsageError where
  | invalidSubcommand
  /-- A value is missing, empty or none of those allowed. -/
  | invalidValue
  | unknownArgument
  /-- An option is given twice. -/
  | argumentConflict
  /-- A flag is given a value. -/
  | tooManyValues
  | missingSubcommand
  | helpRequested
  | versionRequested
  /-- Nothing is asked for at all. -/
  | nothingGiven
deriving Repr, DecidableEq

inductive OptionRole where
  | flag
  /-- Takes a value, of which some may be allowed only. -/
  | value (allowed : Option (List String))
  | help
  | version
deriving Repr, DecidableEq

structure OptionSpec where
  long : String
  short : Option Char
  role : OptionRole
deriving Repr, DecidableEq

structure CommandSpec where
  options : List OptionSpec
  /-- Names and other names of subcommands. -/
  subcommands : List String
deriving Repr, DecidableEq

/-- An option with the value given to it; a flag has none. -/
abbrev Given := List (String × Option String)

/-- An option that waits for its value, or whose value waits to be looked at. -/
structure Pending where
  option : OptionSpec
  value : Option String
deriving Repr, DecidableEq

structure Progress where
  given : Given
  pending : Option Pending
deriving Repr, DecidableEq

/-- What the words of a command come to: its options, and the subcommand with the words after it. -/
structure Parsed where
  progress : Progress
  subcommand : Option (String × List String)
deriving Repr, DecidableEq

namespace OptionSpec

def takesValue (option : OptionSpec) : Bool :=
  match option.role with
  | .value _ => true
  | _ => false

def allows (option : OptionSpec) (text : String) : Bool :=
  match option.role with
  | .value (some allowed) => allowed.contains text
  | _ => text != ""

end OptionSpec

namespace CommandSpec

def long? (command : CommandSpec) (name : String) : Option OptionSpec :=
  command.options.find? fun option => option.long == name

def short? (command : CommandSpec) (mark : Char) : Option OptionSpec :=
  command.options.find? fun option => option.short == some mark

end CommandSpec

namespace Progress

def none : Progress := ⟨[], .none⟩

/-- Takes a value into account, unless the option already has one or does not allow it. -/
def accept (progress : Progress) (option : OptionSpec) (text : String) : Except UsageError Progress :=
  if (progress.given.lookup option.long).isSome then .error .argumentConflict
  else if !option.allows text then .error .invalidValue
  else .ok { progress with given := progress.given ++ [(option.long, some text)] }

/-- Looks at a value that was waiting. -/
def settle (progress : Progress) : Except UsageError Progress :=
  match progress.pending with
  | .none => .ok progress
  | some ⟨_, .none⟩ => .error .invalidValue
  | some ⟨option, some text⟩ => accept { progress with pending := .none } option text

/-- An option that takes no value. -/
def raise (progress : Progress) (option : OptionSpec) : Except UsageError Progress := do
  let progress ← progress.settle
  match option.role with
  | .help => .error .helpRequested
  | .version => .error .versionRequested
  | _ =>
      if (progress.given.lookup option.long).isSome then .error .argumentConflict
      else .ok { progress with given := progress.given ++ [(option.long, .none)] }

/-- An option with a value in the same word, or with its value still to come. -/
def begin (progress : Progress) (option : OptionSpec) (attached : Option String) :
    Except UsageError Progress := do
  let progress ← progress.settle
  match attached with
  | some text => progress.accept option text
  | .none => .ok { progress with pending := some ⟨option, .none⟩ }

/-- Whether the next word is the value of an option, unless it looks like an option. -/
def awaitsValue (progress : Progress) : Bool :=
  match progress.pending with
  | some ⟨_, .none⟩ => true
  | _ => false

def fill (progress : Progress) (text : String) : Progress :=
  { progress with pending := progress.pending.map fun pending => { pending with value := some text } }

end Progress

/-- A word that starts with `--`, without them. -/
def longWord (command : CommandSpec) (progress : Progress) (body : List Char) :
    Except UsageError Progress :=
  let name := String.ofList (body.takeWhile (· != '='))
  let attached := match body.dropWhile (· != '=') with
    | _ :: text => some (String.ofList text)
    | [] => none
  match command.long? name with
  | none => .error .unknownArgument
  | some option =>
      if option.takesValue then progress.begin option attached
      else if attached.isSome then .error .tooManyValues
      else progress.raise option

/-- What an option's letter leaves of its word, less one `=`. -/
def attachedText : List Char → Option String
  | [] => none
  | '=' :: rest => some (String.ofList rest)
  | rest => some (String.ofList rest)

/-- A word that starts with one `-`, without it. -/
def shortWord (command : CommandSpec) (progress : Progress) : List Char → Except UsageError Progress
  | [] => .ok progress
  | mark :: rest =>
      match command.short? mark with
      | none => .error .unknownArgument
      | some option =>
          if option.takesValue then progress.begin option (attachedText rest)
          else do shortWord command (← progress.raise option) rest

/-- A word that is no option. -/
def strayWord (command : CommandSpec) (afterDashes : Bool) (word : String) : UsageError :=
  if command.subcommands.isEmpty then .unknownArgument
  else if afterDashes && command.subcommands.contains word then .unknownArgument
  else .invalidSubcommand

/-- Takes words one after the other, up to a subcommand. After `--` nothing counts as an option. -/
def parseWords (command : CommandSpec) (progress : Progress) : List String → Except UsageError Parsed
  | [] => .ok { progress, subcommand := none }
  | word :: rest =>
      if !progress.awaitsValue && command.subcommands.contains word then
        .ok { progress, subcommand := some (word, rest) }
      else
        match word.toList with
        | ['-', '-'] =>
            match rest with
            | [] => .ok { progress, subcommand := none }
            | stray :: _ => .error (strayWord command true stray)
        | '-' :: '-' :: body => do parseWords command (← longWord command progress body) rest
        | '-' :: mark :: body => do parseWords command (← shortWord command progress (mark :: body)) rest
        | _ =>
            if progress.awaitsValue then parseWords command (progress.fill word) rest
            else .error (strayWord command false word)

end ClassMetrics.CommandLine
