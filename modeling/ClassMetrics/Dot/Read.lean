import ClassMetrics.Dependency.Graph
import ClassMetrics.Text.Blank

namespace ClassMetrics.Dot

inductive Line where
  | ignored
  /-- An arc between two labels. -/
  | arc (source target : List Char)
  | vertex (label : List Char)
  | unknown
deriving Repr, DecidableEq

inductive Complaint where
  /-- An arc one of whose labels has no word. -/
  | emptyEndpoint
  | unknown (content : String)
deriving Repr, DecidableEq

def Complaint.message : Complaint → String
  | .emptyEndpoint => "Skipping DOT edge with empty endpoint"
  | .unknown _ => "Skipping unrecognized DOT line"

/-- What is wrong with a line; lines are counted from one. -/
structure Warning where
  line : Nat
  complaint : Complaint
deriving Repr, DecidableEq

def startsWith (start : String) (text : List Char) : Bool :=
  start.toList.isPrefixOf text

/-- Whether two characters stand side by side somewhere. -/
def containsPair (first second : Char) : List Char → Bool
  | [] => false
  | mark :: rest => (mark == first && rest.head? == some second) || containsPair first second rest

/-- Attributes for the graph, its nodes or its edges, or an assignment outside quotes. -/
def isAttribute (line : List Char) : Bool :=
  (["graph", "node", "edge"].any fun keyword =>
    startsWith keyword line && (Text.trimStart (line.drop keyword.length)).head? == some '[') ||
  (line.contains '=' && !containsPair '-' '>' line && line.head? != some '"')

def isIgnored (line : List Char) : Bool :=
  line.isEmpty || startsWith "//" line || startsWith "#" line || line == ['\x7d'] ||
    startsWith "digraph" line || startsWith "strict" line || isAttribute line

/-- A label in quotes, without the quotes, and what follows it. -/
def quoted? : List Char → Option (List Char × List Char)
  | '"' :: rest =>
      match rest.dropWhile (· != '"') with
      | _ :: after => some (rest.takeWhile (· != '"'), after)
      | [] => none
  | _ => none

/-- What follows an optional group in brackets; none if the group is left open. -/
def afterGroup? : List Char → Option (List Char)
  | '[' :: rest =>
      match rest.dropWhile (· != ']') with
      | _ :: after => some after
      | [] => none
  | line => some line

/-- Whether a statement ends here: an optional group, then an optional semicolon. -/
def isEnding (line : List Char) : Bool :=
  match afterGroup? (Text.trimStart line) with
  | none => false
  | some after =>
      let last := Text.trimStart after
      last == [] || last == [';']

def arc? (line : List Char) : Option (List Char × List Char) := do
  let (source, afterSource) ← quoted? line
  match Text.trimStart afterSource with
  | '-' :: '>' :: afterArrow =>
      let (target, afterTarget) ← quoted? (Text.trimStart afterArrow)
      if isEnding afterTarget then some (source, target) else none
  | _ => none

def vertex? (line : List Char) : Option (List Char) := do
  let (label, after) ← quoted? line
  if isEnding after then some label else none

/-- What a trimmed line says. -/
def Line.ofChars (line : List Char) : Line :=
  if isIgnored line then .ignored
  else
    match arc? line with
    | some (source, target) => .arc source target
    | none =>
        match vertex? line with
        | some label => .vertex label
        | none => .unknown

/-- The name in a label is its first word. -/
def nameOf? (label : List Char) : Option String :=
  (Text.words label).head?.map String.ofList

/-- The graph after a trimmed line, and what is wrong with the line. -/
def applyLine (graph : DependencyGraph) (line : List Char) : DependencyGraph × Option Complaint :=
  match Line.ofChars line with
  | .ignored => (graph, none)
  | .arc source target =>
      match nameOf? source, nameOf? target with
      | some source, some target => (graph.connect source target, none)
      | _, _ => (graph, some .emptyEndpoint)
  | .vertex label =>
      match nameOf? label with
      | some name => (graph.ensure name, none)
      | none => (graph, none)
  | .unknown => (graph, some (.unknown (String.ofList line)))

/-- Reads lines on, the first of which has the given number. -/
def readLines (graph : DependencyGraph) (number : Nat) : List (List Char) → DependencyGraph × List Warning
  | [] => (graph, [])
  | line :: rest =>
      let (graph, complaint) := applyLine graph (Text.trim line)
      let (graph, warnings) := readLines graph (number + 1) rest
      (graph, (complaint.map fun complaint => ⟨number, complaint⟩).toList ++ warnings)

def read (text : String) : DependencyGraph × List Warning :=
  readLines .empty 1 (Text.lines text.toList)

end ClassMetrics.Dot
