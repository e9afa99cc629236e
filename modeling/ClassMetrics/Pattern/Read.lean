import ClassMetrics.Pattern.Basic

namespace ClassMetrics.Pattern

structure ClassDraft where
  /-- Latest first. -/
  ranges : List (Char × Char)
  /-- A `-` was read after a character and waits for the end of the range. -/
  pending : Bool

/-- Where a range ends; none if that is before its beginning. -/
def endRange? (ranges : List (Char × Char)) (last : Char) : Option (List (Char × Char)) :=
  match ranges with
  | (first, _) :: rest => if last < first then none else some ((first, last) :: rest)
  | [] => none

def closeClass (draft : ClassDraft) : List (Char × Char) :=
  (if draft.pending then ('-', '-') :: draft.ranges else draft.ranges).reverse

/-- The rest of a class after its first character, with what follows the class. -/
def readRanges (draft : ClassDraft) : List Char → Option (List (Char × Char) × List Char)
  | [] => none
  | mark :: rest =>
      if mark = ']' then some (closeClass draft, rest)
      else if draft.pending then do
        readRanges { ranges := ← endRange? draft.ranges mark, pending := false } rest
      else if mark = '-' then readRanges { draft with pending := true } rest
      else readRanges { draft with ranges := (mark, mark) :: draft.ranges } rest

theorem readRanges_shorter {draft : ClassDraft} {chars rest : List Char} {ranges : List (Char × Char)}
    (accepted : readRanges draft chars = some (ranges, rest)) : rest.length < chars.length := by
  induction chars generalizing draft with
  | nil => simp [readRanges] at accepted
  | cons mark tail ih =>
      simp only [readRanges] at accepted
      split at accepted
      · simp only [Option.some.injEq, Prod.mk.injEq] at accepted
        simp [accepted.2]
      · split at accepted
        · simp only [Option.bind_eq_bind, Option.bind_eq_some_iff] at accepted
          obtain ⟨_, _, accepted⟩ := accepted
          have shorter := ih accepted
          simp only [List.length_cons]
          omega
        · split at accepted <;>
          · have shorter := ih accepted
            simp only [List.length_cons]
            omega

/-- A class after its `[`. A `]` or `-` that comes first stands for itself. -/
def readClass? (chars : List Char) : Option (PatternPart × List Char) :=
  let (negated, body) := match chars with
    | '!' :: rest => (true, rest)
    | '^' :: rest => (true, rest)
    | rest => (false, rest)
  match body with
  | [] => none
  | first :: rest => do
      let (ranges, rest) ← readRanges { ranges := [(first, first)], pending := false } rest
      return (.oneOf negated ranges, rest)

theorem readClass?_shorter {chars rest : List Char} {part : PatternPart}
    (accepted : readClass? chars = some (part, rest)) : rest.length < chars.length := by
  unfold readClass? at accepted
  split at accepted
  rename_i negated body shape
  have bounded : body.length ≤ chars.length := by
    split at shape <;> simp only [Prod.mk.injEq] at shape <;> simp [← shape.2]
  cases body with
  | nil => simp at accepted
  | cons first tail =>
      simp only [Option.bind_eq_bind, Option.bind_eq_some_iff] at accepted
      obtain ⟨⟨ranges, left⟩, read, result⟩ := accepted
      have shorter := readRanges_shorter read
      simp only [Option.pure_def, Option.some.injEq, Prod.mk.injEq] at result
      obtain ⟨_, rfl⟩ := result
      simp only [List.length_cons] at bounded
      omega

/-- A `{` that is not closed yet: what stood before it, and its branches so far. -/
structure OpenGroup where
  /-- Latest first. -/
  before : List PatternPart
  branches : List (List PatternPart)

structure Draft where
  /-- Innermost first. -/
  groups : List OpenGroup
  /-- Parts of the branch being read, latest first. -/
  current : List PatternPart

namespace Draft

def push (draft : Draft) (part : PatternPart) : Draft :=
  { draft with current := part :: draft.current }

def openGroup (draft : Draft) : Draft :=
  { groups := ⟨draft.current, []⟩ :: draft.groups, current := [] }

/-- Outside of groups a comma stands for itself. -/
def comma (draft : Draft) : Draft :=
  match draft.groups with
  | [] => draft.push (.literal ',')
  | group :: groups =>
      { groups := { group with branches := group.branches ++ [draft.current.reverse] } :: groups
        current := [] }

def closeGroup? (draft : Draft) : Option Draft :=
  match draft.groups with
  | [] => none
  | group :: groups =>
      some { groups, current := .choice (group.branches ++ [draft.current.reverse]) :: group.before }

/-- The slash before `**` becomes part of it. -/
def absorb (draft : Draft) (part : PatternPart) : Draft :=
  match draft.current with
  | .leadingDirectories :: _ => draft
  | .allBelow :: _ => draft
  | _ :: rest => { draft with current := part :: rest }
  | [] => draft.push part

end Draft

/-- Two stars, with the character before them; none if they are just two stars. The second component is what
is left to read. -/
def readDirectories? (draft : Draft) (previous : Option Char) (rest : List Char) :
    Option (Draft × List Char) :=
  let grouped := !draft.groups.isEmpty
  if draft.current.isEmpty then
    match rest with
    | [] => some (draft.push .leadingDirectories, [])
    | '/' :: rest => some (draft.push .leadingDirectories, rest)
    | _ => none
  else if previous != some '/' && !(grouped && (previous == some ',' || previous == some '\x7b')) then none
  else
    match rest with
    | [] => some (draft.absorb .allBelow, [])
    | '/' :: rest => some (draft.absorb .innerDirectories, rest)
    | mark :: tail =>
        if grouped && (mark == ',' || mark == '\x7d') then some (draft.absorb .allBelow, mark :: tail)
        else none

theorem readDirectories?_bounded {draft read : Draft} {previous : Option Char} {chars rest : List Char}
    (accepted : readDirectories? draft previous chars = some (read, rest)) :
    rest.length ≤ chars.length := by
  unfold readDirectories? at accepted
  grind

/-- Reads on from a character; `previous` is the one before. -/
def readParts (draft : Draft) (previous : Option Char) (chars : List Char) : Option Draft :=
  match chars with
  | [] => some draft
  | '*' :: '*' :: rest =>
      match _ : readDirectories? draft previous rest with
      | some (read, left) =>
          readParts read (if left.length < rest.length then some '/' else some '*') left
      | none => readParts ((draft.push .anyRun).push .anyRun) (some '*') rest
  | '\\' :: mark :: rest => readParts (draft.push (.literal mark)) (some mark) rest
  | '[' :: rest =>
      match _ : readClass? rest with
      | some (part, left) => readParts (draft.push part) (some ']') left
      | none => none
  | mark :: rest =>
      if mark = '\\' then none
      else if mark = '?' then readParts (draft.push .any) (some mark) rest
      else if mark = '*' then readParts (draft.push .anyRun) (some mark) rest
      else if mark = '\x7b' then readParts draft.openGroup (some mark) rest
      else if mark = ',' then readParts draft.comma (some mark) rest
      else if mark = '\x7d' then do readParts (← draft.closeGroup?) (some mark) rest
      else readParts (draft.push (.literal mark)) (some mark) rest
termination_by chars.length
decreasing_by
  all_goals try simp only [List.length_cons]
  all_goals first
    | (have bound := readDirectories?_bounded ‹_›; omega)
    | (have bound := readClass?_shorter ‹_›; omega)
    | omega

def ofText? (text : String) : Option Pattern := do
  let draft ← readParts { groups := [], current := [] } none text.toList
  if draft.groups.isEmpty then some { parts := draft.current.reverse } else none

end ClassMetrics.Pattern
