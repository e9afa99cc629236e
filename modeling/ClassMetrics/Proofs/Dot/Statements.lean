import ClassMetrics.Dot.Read
import ClassMetrics.Dot.Write
import ClassMetrics.Proofs.Text.Blank
import Mathlib.Data.List.TakeWhile

namespace ClassMetrics.Dot

section Forms

def Group (text : List Char) : Prop :=
  text = [] ∨ ∃ inner, ']' ∉ inner ∧ text = '[' :: (inner ++ [']'])

/-- What may stand behind the last label of a statement. -/
def Ending (text : List Char) : Prop :=
  ∃ before group after stop, Text.Blank before ∧ Group group ∧ Text.Blank after ∧ (stop = [] ∨ stop = [';']) ∧
    text = before ++ (group ++ (after ++ stop))

def VertexStatement (line label : List Char) : Prop :=
  '"' ∉ label ∧ ∃ ending, Ending ending ∧ line = '"' :: (label ++ '"' :: ending)

def ArcStatement (line source target : List Char) : Prop :=
  '"' ∉ source ∧ '"' ∉ target ∧ ∃ before after ending, Text.Blank before ∧ Text.Blank after ∧ Ending ending ∧
    line = '"' :: (source ++ '"' :: (before ++ '-' :: '>' :: (after ++ '"' :: (target ++ '"' :: ending))))

end Forms

section Labels

variable {label after line source target : List Char}

theorem quoted?_append (noQuote : '"' ∉ label) (after : List Char) :
    quoted? ('"' :: (label ++ '"' :: after)) = some (label, after) := by
  simp only [quoted?, Text.takeWhile_ne_append noQuote, Text.dropWhile_ne_append noQuote]

theorem quoted?_eq_some_iff :
    quoted? line = some (label, after) ↔ '"' ∉ label ∧ line = '"' :: (label ++ '"' :: after) := by
  constructor
  · intro found
    unfold quoted? at found
    split at found
    · split at found
      · rename_i behind
        cases found
        obtain ⟨rfl, absent, whole⟩ := Text.exists_of_dropWhile_ne behind
        exact ⟨absent, congrArg _ whole⟩
      · cases found
    · cases found
  · intro ⟨noQuote, written⟩
    rw [written, quoted?_append noQuote]

theorem exists_group (found : afterGroup? line = some after) : ∃ group, Group group ∧ line = group ++ after := by
  unfold afterGroup? at found
  split at found
  · split at found
    · rename_i behind
      cases found
      obtain ⟨rfl, absent, whole⟩ := Text.exists_of_dropWhile_ne behind
      exact ⟨_, .inr ⟨_, absent, rfl⟩, by simpa using whole⟩
    · cases found
  · cases found
    exact ⟨[], .inl rfl, rfl⟩

theorem afterGroup?_closed {inner : List Char} (closed : ']' ∉ inner) (after : List Char) :
    afterGroup? ('[' :: (inner ++ ']' :: after)) = some after := by
  simp only [afterGroup?, Text.dropWhile_ne_append closed]

theorem isEnding_iff : isEnding line = true ↔ Ending line := by
  constructor
  · intro accepted
    unfold isEnding at accepted
    split at accepted
    · cases accepted
    · rename_i after found
      obtain ⟨before, blankBefore, whole⟩ := Text.exists_trimStart line
      obtain ⟨group, isGroup, inside⟩ := exists_group found
      obtain ⟨blanks, blank, behind⟩ := Text.exists_trimStart after
      exact ⟨before, group, blanks, Text.trimStart after, blankBefore, isGroup, blank, by simpa using accepted,
        by rw [← behind, ← inside, ← whole]⟩
  · intro ⟨before, group, after, stop, blankBefore, isGroup, blank, stops, written⟩
    have last : Text.trimStart (after ++ stop) = stop := by
      rw [Text.trimStart_append blank]
      rcases stops with rfl | rfl <;> rfl
    rw [isEnding, written, Text.trimStart_append blankBefore]
    rcases isGroup with rfl | ⟨inner, closed, rfl⟩
    · rw [List.nil_append, last]
      rcases stops with rfl | rfl <;> rfl
    · have opened : Text.trimStart ('[' :: (inner ++ [']']) ++ (after ++ stop)) =
          '[' :: (inner ++ ']' :: (after ++ stop)) := by
        rw [List.cons_append, List.append_assoc, List.singleton_append]
        exact Text.trimStart_cons (by decide) _
      rw [opened, afterGroup?_closed closed]
      simpa [last] using stops

theorem arc?_eq_some_iff : arc? line = some (source, target) ↔ ArcStatement line source target := by
  constructor
  · intro found
    rw [arc?, Option.bind_eq_bind, Option.bind_eq_some_iff] at found
    obtain ⟨⟨first, afterFirst⟩, readFirst, found⟩ := found
    dsimp only at found
    split at found
    · rename_i afterArrow arrow
      obtain ⟨⟨second, afterSecond⟩, readSecond, found⟩ := Option.bind_eq_some_iff.mp found
      dsimp only at found
      split at found
      · rename_i ending
        cases found
        obtain ⟨noSourceQuote, written⟩ := quoted?_eq_some_iff.mp readFirst
        obtain ⟨noTargetQuote, behind⟩ := quoted?_eq_some_iff.mp readSecond
        obtain ⟨before, blankBefore, whole⟩ := Text.exists_trimStart afterFirst
        obtain ⟨after, blankAfter, rest⟩ := Text.exists_trimStart afterArrow
        exact ⟨noSourceQuote, noTargetQuote, before, after, afterSecond, blankBefore, blankAfter,
          isEnding_iff.mp ending, by rw [← behind, ← rest, ← arrow, ← whole, ← written]⟩
      · cases found
    · cases found
  · intro ⟨noSourceQuote, noTargetQuote, before, after, ending, blankBefore, blankAfter, isEnd, written⟩
    have arrow (rest : List Char) : Text.trimStart (before ++ '-' :: '>' :: rest) = '-' :: '>' :: rest := by
      rw [Text.trimStart_append blankBefore]
      exact Text.trimStart_cons (by decide) _
    have label (rest : List Char) : Text.trimStart (after ++ '"' :: rest) = '"' :: rest := by
      rw [Text.trimStart_append blankAfter]
      exact Text.trimStart_cons (by decide) _
    rw [arc?, written, quoted?_append noSourceQuote]
    simp [arrow, label, quoted?_append noTargetQuote, isEnding_iff.mpr isEnd]

theorem vertex?_eq_some_iff : vertex? line = some label ↔ VertexStatement line label := by
  constructor
  · intro found
    rw [vertex?, Option.bind_eq_bind, Option.bind_eq_some_iff] at found
    obtain ⟨⟨text, after⟩, readText, found⟩ := found
    dsimp only at found
    split at found
    · rename_i ending
      cases found
      obtain ⟨noQuote, written⟩ := quoted?_eq_some_iff.mp readText
      exact ⟨noQuote, after, isEnding_iff.mp ending, written⟩
    · cases found
  · intro ⟨noQuote, ending, isEnd, written⟩
    rw [vertex?, written, quoted?_append noQuote]
    simp [isEnding_iff.mpr isEnd]

theorem arc?_eq_none_iff : arc? line = none ↔ ∀ source target, ¬ ArcStatement line source target := by
  simp only [← arc?_eq_some_iff, Option.eq_none_iff_forall_ne_some, Prod.forall]

theorem vertex?_eq_none_iff : vertex? line = none ↔ ∀ label, ¬ VertexStatement line label := by
  simp only [← vertex?_eq_some_iff, Option.eq_none_iff_forall_ne_some]

theorem isIgnored_quote (rest : List Char) : isIgnored ('"' :: rest) = false := by
  simp [isIgnored, startsWith, isAttribute, List.isPrefixOf]

theorem ofChars_vertex (noQuote : '"' ∉ label) : Line.ofChars ('"' :: (label ++ ['"', ';'])) = .vertex label := by
  have noArc : arc? ('"' :: (label ++ ['"', ';'])) = none := by
    rw [arc?, quoted?_append noQuote]
    rfl
  have vertex : vertex? ('"' :: (label ++ ['"', ';'])) = some label :=
    vertex?_eq_some_iff.mpr ⟨noQuote, [';'], isEnding_iff.mp rfl, rfl⟩
  rw [Line.ofChars, isIgnored_quote, noArc, vertex]
  rfl

theorem ofChars_arc (noSourceQuote : '"' ∉ source) (noTargetQuote : '"' ∉ target)
    (ending : isEnding after = true) :
    Line.ofChars ('"' :: (source ++ '"' :: ' ' :: '-' :: '>' :: ' ' :: '"' :: (target ++ '"' :: after))) =
      .arc source target := by
  have space : Text.Blank [' '] := List.all_eq_true.mp rfl
  have arc : arc? ('"' :: (source ++ '"' :: ' ' :: '-' :: '>' :: ' ' :: '"' :: (target ++ '"' :: after))) =
      some (source, target) :=
    arc?_eq_some_iff.mpr
      ⟨noSourceQuote, noTargetQuote, [' '], [' '], after, space, space, isEnding_iff.mp ending, rfl⟩
  rw [Line.ofChars, isIgnored_quote, arc]
  rfl

theorem noQuote_of_ofChars_arc (read : Line.ofChars line = .arc source target) :
    '"' ∉ source ∧ '"' ∉ target := by
  have found : arc? line = some (source, target) := by
    unfold Line.ofChars at read
    split at read
    · cases read
    · split at read
      · cases read
        assumption
      · split at read <;> cases read
  obtain ⟨noSourceQuote, noTargetQuote, -⟩ := arc?_eq_some_iff.mp found
  exact ⟨noSourceQuote, noTargetQuote⟩

theorem noQuote_of_ofChars_vertex (read : Line.ofChars line = .vertex label) : '"' ∉ label := by
  have found : vertex? line = some label := by
    unfold Line.ofChars at read
    split at read
    · cases read
    · split at read
      · cases read
      · split at read
        · cases read
          assumption
        · cases read
  exact (vertex?_eq_some_iff.mp found).1

end Labels

section Documents

/-- The line of a statement, without its line feed. -/
def statementLine (text : String) : List Char :=
  ' ' :: ' ' :: (text.toList ++ [';'])

/-- A document is its lines, each ended by a line feed. -/
theorem toList_document (keyword name : String) (statements : List String) :
    (document keyword name statements).toList =
      ((keyword.toList ++ ' ' :: (quotedChars name.toList ++ [' ', '\x7b'])) ::
        (statements.map statementLine ++ [['\x7d']])).flatMap fun line => line ++ ['\n'] := by
  simp [document, quote, statement, statementLine, List.flatMap_map]

theorem trim_statementLine {text : String} {inner : List Char} (starts : text.toList = '"' :: inner) :
    Text.trim (statementLine text) = '"' :: (inner ++ [';']) := by
  have indented : statementLine text = [' ', ' '] ++ '"' :: (inner ++ [';']) := by
    rw [statementLine, starts]
    rfl
  have indentation : ∀ mark ∈ [' ', ' '], Text.isBlank mark = true := List.all_eq_true.mp rfl
  rw [indented, Text.trim_append indentation rfl rfl]

theorem readLines_cons {graph after : DependencyGraph} {line : List Char}
    (applies : applyLine graph (Text.trim line) = (after, none)) (number : Nat) (rest : List (List Char)) :
    readLines graph number (line :: rest) = readLines after (number + 1) rest := by
  simp [readLines, applies]

/-- Lines that have each a known effect and give no cause for complaint. -/
theorem readLines_map_append {α : Type} {write : α → List Char}
    {effect : DependencyGraph → α → DependencyGraph} {items : List α}
    (applies : ∀ item ∈ items, ∀ graph, applyLine graph (Text.trim (write item)) = (effect graph item, none))
    (graph : DependencyGraph) (number : Nat) (rest : List (List Char)) :
    readLines graph number (items.map write ++ rest) =
      readLines (items.foldl effect graph) (number + items.length) rest := by
  induction items generalizing graph number with
  | nil => rfl
  | cons item others ih =>
      obtain ⟨first, later⟩ := List.forall_mem_cons.mp applies
      rw [List.map_cons, List.cons_append, readLines_cons (first graph), ih later, List.length_cons,
        Nat.add_assoc, Nat.add_comm 1, List.foldl_cons]

end Documents

end ClassMetrics.Dot
