import ClassMetrics.Report.Markdown
import ClassMetrics.Report.PlainText

namespace ClassMetrics

inductive Format where
  | text
  | json
  | markdown
deriving Repr, DecidableEq

namespace Format

def name : Format → String
  | .text => "text"
  | .json => "json"
  | .markdown => "markdown"

/-- Lower case as far as the names of formats need it: ASCII letters, and the Kelvin sign for `k`. -/
def lowerCase (mark : Char) : Char :=
  if mark = '\u212a' then 'k' else mark.toLower

/-- Reads a name without regard to case; two formats have a short name too. -/
def ofName? (name : String) : Option Format :=
  match String.ofList (name.toList.map lowerCase) with
  | "text" | "txt" => some .text
  | "json" => some .json
  | "md" | "markdown" => some .markdown
  | _ => none

def unknownMessage (name : String) : String :=
  s!"Unknown format: {name}. Use 'text', 'json', or 'md'"

/-- What is written of a value: all of it, unless writing breaks off. -/
def render (format : Format) (value : Value) : String :=
  match format with
  | .text => Report.plainText value
  | .json => value.pretty ++ "\n"
  | .markdown => Report.markdown value

def breaksOff (format : Format) (value : Value) : Bool :=
  format == .text && (Report.textLines 0 value).broken

end Format

end ClassMetrics
