import ClassMetrics.Text.Blank
import Mathlib.Data.List.TakeWhile

namespace ClassMetrics.Text

/-- A text is cut in one way only at the first place of a mark. -/
theorem append_cons_inj {mark : Char} {before other after otherAfter : List Char} (absent : mark ∉ before)
    (otherAbsent : mark ∉ other) (same : before ++ mark :: after = other ++ mark :: otherAfter) :
    before = other ∧ after = otherAfter := by
  have lengths : before.length = other.length := by
    have places := congrArg (List.idxOf mark) same
    simpa [List.idxOf_append, absent, otherAbsent] using places
  obtain ⟨rfl, rest⟩ := List.append_inj same lengths
  exact ⟨rfl, (List.cons.inj rest).2⟩

theorem takeWhile_ne_append {mark : Char} {before : List Char} (absent : mark ∉ before) (after : List Char) :
    (before ++ mark :: after).takeWhile (· != mark) = before := by
  have others : ∀ other ∈ before, (other != mark) = true := by
    intro other member
    simpa using fun same : other = mark => absent (same ▸ member)
  simp [List.takeWhile_append_of_pos others]

theorem dropWhile_ne_append {mark : Char} {before : List Char} (absent : mark ∉ before) (after : List Char) :
    (before ++ mark :: after).dropWhile (· != mark) = mark :: after := by
  have others : ∀ other ∈ before, (other != mark) = true := by
    intro other member
    simpa using fun same : other = mark => absent (same ▸ member)
  simp [List.dropWhile_append_of_pos others]

theorem of_head?_dropWhile {test : Char → Bool} {text : List Char} {mark : Char}
    (starts : (text.dropWhile test).head? = some mark) : test mark = false := by
  have stopped := List.head?_dropWhile_not test text
  rwa [starts] at stopped

theorem exists_of_dropWhile_ne {mark found : Char} {text after : List Char}
    (behind : text.dropWhile (· != mark) = found :: after) :
    found = mark ∧ mark ∉ text.takeWhile (· != mark) ∧ text = text.takeWhile (· != mark) ++ mark :: after := by
  have isMark : found = mark := by simpa using of_head?_dropWhile (congrArg List.head? behind)
  subst isMark
  have absent : found ∉ text.takeWhile (· != found) := by
    intro member
    simpa using List.mem_takeWhile_imp member
  exact ⟨rfl, absent, by rw [← behind, List.takeWhile_append_dropWhile]⟩

theorem lines_cons {line rest : List Char} (oneLine : '\n' ∉ line) :
    lines (line ++ '\n' :: rest) = line :: lines rest := by
  have pieces : (line ++ '\n' :: rest).splitOn '\n' = line :: rest.splitOn '\n' :=
    List.splitOn_append_cons_self_of_not_mem oneLine rest
  unfold lines
  rw [pieces]
  cases found : rest.splitOn '\n' with
  | nil => exact absurd found (List.splitOn_ne_nil '\n' rest)
  | cons piece others =>
      simp only [List.getLast?_cons_cons, List.dropLast_cons_cons]
      split <;> rfl

theorem lines_flatMap {written : List (List Char)} (oneLine : ∀ line ∈ written, '\n' ∉ line) :
    lines (written.flatMap fun line => line ++ ['\n']) = written := by
  induction written with
  | nil => rfl
  | cons line rest ih =>
      obtain ⟨first, others⟩ := List.forall_mem_cons.mp oneLine
      rw [List.flatMap_cons, List.append_assoc, List.singleton_append, lines_cons first, ih others]

/-- The lines that make up a text. Each has a line feed behind it; the last may lack it, unless it is empty. -/
structure HasLines (text : List Char) (lines : List (List Char)) : Prop where
  oneLine : ∀ line ∈ lines, '\n' ∉ line
  joined : (lines.flatMap fun line => line ++ ['\n']) = text ∨
    lines.getLast? ≠ some [] ∧ (lines.flatMap fun line => line ++ ['\n']) = text ++ ['\n']

theorem HasLines.cons {line rest : List Char} {others : List (List Char)} (oneLine : '\n' ∉ line)
    (later : HasLines rest others) : HasLines (line ++ '\n' :: rest) (line :: others) := by
  refine ⟨List.forall_mem_cons.mpr ⟨oneLine, later.oneLine⟩, ?_⟩
  rcases later.joined with whole | ⟨lastNonempty, whole⟩
  · exact .inl (by simp [whole])
  · have another : others ≠ [] := by
      intro noOthers
      simp [noOthers] at whole
    refine .inr ⟨?_, by simp [whole]⟩
    rwa [List.getLast?_cons_of_ne_nil another]

theorem hasLines_lines (text : List Char) : HasLines text (lines text) := by
  induction size : text.length using Nat.strongRecOn generalizing text with
  | ind size ih =>
      by_cases feed : '\n' ∈ text
      · obtain ⟨line, rest, rfl, oneLine⟩ := List.eq_append_cons_of_mem feed
        rw [lines_cons oneLine]
        exact .cons oneLine (ih rest.length (by simp at size; omega) rest rfl)
      · have pieces : text.splitOn '\n' = [text] := List.splitOn_eq_singleton feed
        by_cases empty : text = []
        · subst empty
          exact ⟨List.forall_mem_nil _, .inl rfl⟩
        · have single : lines text = [text] := by simp [lines, pieces, empty]
          rw [single]
          exact ⟨by simpa using feed, .inr ⟨by simpa using empty, by simp⟩⟩

/-- Blanks in front of a text that neither starts nor ends with one. -/
theorem trim_append {blanks inner : List Char} {first last : Char}
    (allBlank : ∀ mark ∈ blanks, isBlank mark = true) (starts : isBlank first = false)
    (ends : isBlank last = false) :
    trim (blanks ++ first :: (inner ++ [last])) = first :: (inner ++ [last]) := by
  have started : trimStart (blanks ++ first :: (inner ++ [last])) = first :: (inner ++ [last]) := by
    rw [trimStart, List.dropWhile_append_of_pos allBlank, List.dropWhile_cons_of_neg (by simp [starts])]
  have reversed : (first :: (inner ++ [last])).reverse = last :: (first :: inner).reverse := by
    rw [← List.cons_append, List.reverse_concat]
  rw [trim, started, trimEnd, reversed, List.dropWhile_cons_of_neg (by simp [ends]), ← reversed,
    List.reverse_reverse]

theorem words_of_noBlank {word : List Char} (noBlank : ∀ mark ∈ word, isBlank mark = false)
    (nonempty : word ≠ []) : words word = [word] := by
  simp [words, List.splitOnP_eq_singleton noBlank, nonempty]

theorem of_mem_splitOnP {text piece : List Char} (member : piece ∈ text.splitOnP isBlank) :
    ∀ mark ∈ piece, isBlank mark = false ∧ mark ∈ text := by
  induction text generalizing piece with
  | nil =>
      have empty : piece = [] := by simpa using member
      simp [empty]
  | cons first rest ih =>
      rw [List.splitOnP_cons_eq_if_modifyHead] at member
      split at member
      · intro mark inPiece
        rcases List.mem_cons.mp member with rfl | later
        · cases inPiece
        · exact ⟨(ih later mark inPiece).1, List.mem_cons_of_mem first (ih later mark inPiece).2⟩
      · rename_i notBlank
        intro mark inPiece
        cases found : rest.splitOnP isBlank with
        | nil => exact absurd found (List.splitOnP_ne_nil isBlank rest)
        | cons head others =>
            rw [found, List.modifyHead_cons, List.mem_cons] at member
            rcases member with rfl | later
            · rcases List.mem_cons.mp inPiece with rfl | inHead
              · exact ⟨by simpa using notBlank, List.mem_cons_self⟩
              · have known := ih (found ▸ List.mem_cons_self) mark inHead
                exact ⟨known.1, List.mem_cons_of_mem first known.2⟩
            · have known := ih (found ▸ List.mem_cons_of_mem head later) mark inPiece
              exact ⟨known.1, List.mem_cons_of_mem first known.2⟩

/-- The words of a text are parts of it, not empty and without blanks. -/
theorem of_mem_words {text word : List Char} (member : word ∈ words text) :
    word ≠ [] ∧ ∀ mark ∈ word, isBlank mark = false ∧ mark ∈ text := by
  obtain ⟨piece, nonempty⟩ := List.mem_filter.mp member
  exact ⟨by simpa using nonempty, of_mem_splitOnP piece⟩

section Words

def Blank (text : List Char) : Prop :=
  ∀ mark ∈ text, isBlank mark = true

/-- The word that stands before all others, up to the next blank or the end. -/
def FirstWord (text word : List Char) : Prop :=
  word ≠ [] ∧ (∀ mark ∈ word, isBlank mark = false) ∧
    ∃ blanks rest, Blank blanks ∧ (∀ mark ∈ rest.head?, isBlank mark = true) ∧ text = blanks ++ (word ++ rest)

variable {blanks text word : List Char} {mark : Char}

theorem trimStart_append (blank : Blank blanks) (text : List Char) :
    trimStart (blanks ++ text) = trimStart text :=
  List.dropWhile_append_of_pos blank

theorem trimStart_cons (notBlank : isBlank mark = false) (text : List Char) :
    trimStart (mark :: text) = mark :: text :=
  List.dropWhile_cons_of_neg (by simp [notBlank])

theorem exists_trimStart (text : List Char) : ∃ blanks, Blank blanks ∧ text = blanks ++ trimStart text :=
  ⟨text.takeWhile isBlank, fun _ member => List.mem_takeWhile_imp member, List.takeWhile_append_dropWhile.symm⟩

theorem words_append (blank : Blank blanks) (text : List Char) : words (blanks ++ text) = words text := by
  induction blanks with
  | nil => rfl
  | cons mark rest ih =>
      obtain ⟨first, others⟩ := List.forall_mem_cons.mp blank
      rw [← ih others, words, List.cons_append, List.splitOnP_cons_eq_if_modifyHead, if_pos first]
      rfl

theorem words_of_blank (blank : Blank text) : words text = [] := by
  rw [← List.append_nil text, words_append blank]
  rfl

theorem head?_words (first : FirstWord text word) : (words text).head? = some word := by
  obtain ⟨nonempty, noBlank, blanks, rest, blank, ends, rfl⟩ := first
  rw [words_append blank]
  cases rest with
  | nil => rw [List.append_nil, words_of_noBlank noBlank nonempty, List.head?_cons]
  | cons mark behind =>
      have isEnd : isBlank mark = true := ends mark rfl
      rw [words, List.splitOnP_append_cons_of_forall_mem noBlank mark isEnd]
      simp [nonempty]

theorem blank_or_firstWord (text : List Char) : Blank text ∨ ∃ word, FirstWord text word := by
  obtain ⟨blanks, blank, whole⟩ := exists_trimStart text
  cases behind : trimStart text with
  | nil => exact .inl (by rwa [whole, behind, List.append_nil])
  | cons mark rest =>
      have notBlank : isBlank mark = false := of_head?_dropWhile (congrArg List.head? behind)
      refine .inr ⟨(mark :: rest).takeWhile fun mark => !isBlank mark, ?_, ?_, blanks,
        (mark :: rest).dropWhile fun mark => !isBlank mark, blank, ?_, ?_⟩
      · simp [notBlank]
      · intro mark member
        simpa using List.mem_takeWhile_imp member
      · intro mark starts
        simpa using of_head?_dropWhile starts
      · rw [List.takeWhile_append_dropWhile, ← behind, ← whole]

theorem head?_words_eq_some_iff : (words text).head? = some word ↔ FirstWord text word := by
  constructor
  · intro found
    rcases blank_or_firstWord text with blank | ⟨first, isFirst⟩
    · rw [words_of_blank blank] at found
      cases found
    · rw [head?_words isFirst] at found
      cases found
      exact isFirst
  · exact head?_words

theorem head?_words_eq_none_iff : (words text).head? = none ↔ Blank text := by
  constructor
  · intro absent
    rcases blank_or_firstWord text with blank | ⟨first, isFirst⟩
    · exact blank
    · rw [head?_words isFirst] at absent
      cases absent
  · intro blank
    rw [words_of_blank blank]
    rfl

/-- What a text keeps without the blanks at its end. -/
structure TrimsTo (text kept : List Char) : Prop where
  blanks : ∃ blanks, Blank blanks ∧ text = kept ++ blanks
  last : ∀ mark, kept.getLast? = some mark → isBlank mark = false

theorem trimsTo_trimEnd (text : List Char) : TrimsTo text (trimEnd text) where
  blanks := by
    obtain ⟨blanks, blank, whole⟩ := exists_trimStart text.reverse
    refine ⟨blanks.reverse, fun mark member => blank mark (List.mem_reverse.mp member), ?_⟩
    rw [trimEnd, ← trimStart, ← List.reverse_append, ← whole, List.reverse_reverse]
  last mark ends := by
    rw [trimEnd, List.getLast?_reverse] at ends
    exact of_head?_dropWhile ends

end Words

end ClassMetrics.Text
