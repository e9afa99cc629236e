import ClassMetrics.Settings.Toml.Scalar
import ClassMetrics.Settings.Toml.Table

namespace ClassMetrics.Toml

def skipGap (chars : List Char) : List Char := chars.dropWhile isGap

/-- What comes after a comment, blanks and the end of a line, if nothing else stands there. -/
def lineEnd? (chars : List Char) : Option (List Char) :=
  let afterComment := match skipGap chars with
    | '#' :: rest => rest.dropWhile isPlain
    | rest => rest
  match afterComment with
  | [] => some []
  | '\n' :: rest => some rest
  | '\r' :: '\n' :: rest => some rest
  | _ => none

/-- Passes over blanks, lines and comments. -/
def skipLines? (inComment : Bool) : List Char → Option (List Char)
  | [] => some []
  | '\n' :: rest => skipLines? false rest
  | '\r' :: '\n' :: rest => skipLines? false rest
  | mark :: rest =>
      if inComment then (if isPlain mark then skipLines? true rest else none)
      else if isGap mark then skipLines? false rest
      else if mark = '#' then skipLines? true rest
      else some (mark :: rest)

def isBare (mark : Char) : Bool := mark.isAlphanum || mark == '_' || mark == '-'

def keyPart? (chars : List Char) : Option (String × List Char) :=
  match chars with
  | '"' :: rest => basic? [] rest
  | '\'' :: rest => literal? rest
  | _ =>
      let bare := chars.takeWhile isBare
      if bare.isEmpty then none else some (String.ofList bare, chars.drop bare.length)

/-- Key parts with points between them. The number bounds how many there are. -/
def keyParts? : Nat → List Char → Option (List String × List Char)
  | 0, _ => none
  | bound + 1, chars => do
      let (part, rest) ← keyPart? chars
      match skipGap rest with
      | '.' :: rest => do
          let (parts, rest) ← keyParts? bound (skipGap rest)
          return (part :: parts, rest)
      | rest => return ([part], rest)

def key? (chars : List Char) : Option (List String × List Char) := keyParts? chars.length chars

/-- How deep values may lie inside each other. -/
def deepest : Nat := 79

abbrev ValueReader := List Char → Option (Value × List Char)

/-- Items of a list after `[`. The number bounds how many there are. -/
def items? (value? : ValueReader) : Nat → List Value → List Char → Option (Value × List Char)
  | 0, _, _ => none
  | bound + 1, read, chars => do
      match ← skipLines? false chars with
      | ']' :: rest => return (.list read.reverse, rest)
      | rest =>
          let (item, rest) ← value? rest
          match ← skipLines? false rest with
          | ',' :: rest => items? value? bound (item :: read) rest
          | ']' :: rest => return (.list (item :: read).reverse, rest)
          | _ => none

/-- A key, the keys before it, and a value after `=`. -/
structure Assignment where
  path : List String
  key : String
  content : Value

def assignment? (value? : ValueReader) (chars : List Char) : Option (Assignment × List Char) := do
  let (parts, rest) ← key? chars
  match skipGap rest with
  | '=' :: rest =>
      let (content, rest) ← value? (skipGap rest)
      return ({ path := parts.dropLast, key := ← parts.getLast?, content }, rest)
  | _ => none

def perform? (assignment : Assignment) (entries : Entries) : Option Entries :=
  entries.assign? true assignment.key assignment.content assignment.path

/-- Assignments of a record after its opening brace. The number bounds how many there are. -/
def members? (value? : ValueReader) : Nat → Entries → List Char → Option (Value × List Char)
  | 0, _, _ => none
  | bound + 1, entries, chars => do
      let (assignment, rest) ← assignment? value? (skipGap chars)
      let entries ← perform? assignment entries
      match skipGap rest with
      | ',' :: rest => members? value? bound entries rest
      | '\x7d' :: rest => return (.object (fieldsOf entries), rest)
      | _ => none

/-- A value with at most so many levels of lists and records. -/
def value? : Nat → ValueReader
  | 0, chars => scalar? chars
  | depth + 1, chars =>
      match chars with
      | '[' :: rest => items? (value? depth) rest.length [] rest
      | '\x7b' :: rest =>
          match skipGap rest with
          | '\x7d' :: rest => some (.record [], rest)
          | rest => members? (value? depth) rest.length [] rest
      | _ => scalar? chars

structure Document where
  entries : Entries
  /-- The table that a line with a key belongs to. -/
  current : List String

/-- A header after its opening brackets, up to the end of its line. -/
def header? (closing : List Char) (chars : List Char) : Option (List String × List Char) := do
  let (path, rest) ← key? (skipGap chars)
  let rest := skipGap rest
  if closing.isPrefixOf rest then return (path, ← lineEnd? (rest.drop closing.length)) else none

/-- The document after a header that does something to the table of its last key. -/
def enter? (document : Document) (path : List String) (change : String → Entries → Option Entries) :
    Option Document := do
  let key ← path.getLast?
  return { entries := ← document.entries.changeAt? (change key) path.dropLast, current := path }

/-- Puts a key and its value into the current table. -/
def store? (document : Document) (chars : List Char) : Option (Document × List Char) := do
  let (assignment, rest) ← assignment? (value? deepest) chars
  let entries ← document.entries.changeAt? (perform? assignment) document.current
  return ({ document with entries }, ← lineEnd? rest)

/-- Reads one line, or more if a value goes on over them. -/
def line? (document : Document) (chars : List Char) : Option (Document × List Char) :=
  match chars with
  | '[' :: '[' :: rest => do
      let (path, rest) ← header? [']', ']'] rest
      return (← enter? document path Entries.append?, rest)
  | '[' :: rest => do
      let (path, rest) ← header? [']'] rest
      return (← enter? document path Entries.declare?, rest)
  | _ => store? document chars

/-- The number bounds how many lines there are. -/
def lines? : Nat → Document → List Char → Option Document
  | 0, document, _ => some document
  | bound + 1, document, chars => do
      match ← skipLines? false chars with
      | [] => return document
      | rest =>
          let (document, rest) ← line? document rest
          lines? bound document rest

/-- A mark of the byte order is no part of a document. -/
def afterMark : List Char → List Char
  | '\ufeff' :: rest => rest
  | rest => rest

def read? (text : String) : Option Value := do
  let chars := afterMark text.toList
  let document ← lines? (chars.length + 1) { entries := [], current := [] } chars
  return .object (fieldsOf document.entries)

end ClassMetrics.Toml
