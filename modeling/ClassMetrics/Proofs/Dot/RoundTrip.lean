import ClassMetrics.Proofs.Dependency.Digraph
import ClassMetrics.Proofs.Dependency.Records
import ClassMetrics.Proofs.Dot.Statements

namespace ClassMetrics.Dot

/-!
A dependency graph that is written and read again. Writing puts a backslash before every backslash and reading
takes none away, so the graph comes back with its names changed in this way, and in the same order. Names that
can stand in a label come back at all: those of one word and without quotes, as every graph that was read has
them.
-/

def doubled : List Char → List Char
  | [] => []
  | mark :: rest => if mark = '\\' then '\\' :: '\\' :: doubled rest else mark :: doubled rest

def doubleBackslashes (name : String) : String :=
  String.ofList (doubled name.toList)

@[mk_iff]
structure Plain (name : String) : Prop where
  nonempty : name ≠ ""
  noBlank : ∀ mark ∈ name.toList, Text.isBlank mark = false
  noQuote : '"' ∉ name.toList

instance : DecidablePred Plain := fun name =>
  decidable_of_iff (name ≠ "" ∧ (name.toList.all fun mark => !Text.isBlank mark) ∧ '"' ∉ name.toList)
    (by simp [plain_iff])

section Doubling

variable {name : List Char}

theorem mem_doubled {mark : Char} : mark ∈ doubled name ↔ mark ∈ name := by
  induction name with
  | nil => exact .rfl
  | cons first rest ih => by_cases isBackslash : first = '\\' <;> simp [doubled, isBackslash, ih]

theorem doubled_ne_nil (nonempty : name ≠ []) : doubled name ≠ [] := by
  obtain ⟨mark, member⟩ := List.exists_mem_of_ne_nil name nonempty
  exact List.ne_nil_of_mem (mem_doubled.mpr member)

theorem length_doubled (name : List Char) : (doubled name).length = name.length + name.count '\\' := by
  induction name with
  | nil => rfl
  | cons mark rest ih =>
      by_cases isBackslash : mark = '\\'
      · simp only [doubled, isBackslash, if_true, List.length_cons, ih, List.count_cons_self]
        omega
      · simp only [doubled, isBackslash, if_false, List.length_cons, ih, ne_eq, not_false_eq_true,
          List.count_cons_of_ne]
        omega

theorem doubled_of_noBackslash (absent : '\\' ∉ name) : doubled name = name := by
  induction name with
  | nil => rfl
  | cons mark rest ih =>
      obtain ⟨other, later⟩ := not_or.mp (mt List.mem_cons.mpr absent)
      simp [doubled, Ne.symm other, ih later]

theorem doubled_eq_self_iff : doubled name = name ↔ '\\' ∉ name := by
  refine ⟨fun same => ?_, doubled_of_noBackslash⟩
  have lengths := length_doubled name
  rw [same] at lengths
  exact List.count_eq_zero.mp (by omega)

theorem head?_doubled (name : List Char) : (doubled name).head? = name.head? := by
  cases name with
  | nil => rfl
  | cons mark rest => by_cases isBackslash : mark = '\\' <;> simp [doubled, isBackslash]

theorem doubled_injective : Function.Injective doubled := by
  intro first
  induction first with
  | nil =>
      intro second same
      have noHead := congrArg List.head? same
      rw [head?_doubled, head?_doubled] at noHead
      exact (List.head?_eq_none_iff.mp noHead.symm).symm
  | cons mark rest ih =>
      intro second same
      have heads := congrArg List.head? same
      rw [head?_doubled, head?_doubled] at heads
      cases second with
      | nil => cases heads
      | cons other others =>
          obtain rfl : mark = other := Option.some.inj heads
          have later : doubled rest = doubled others := by
            by_cases isBackslash : mark = '\\' <;> simpa [doubled, isBackslash] using same
          rw [ih later]

theorem flatMap_escapeChar (noQuote : '"' ∉ name) : name.flatMap escapeChar = doubled name := by
  induction name with
  | nil => rfl
  | cons mark rest ih =>
      obtain ⟨other, later⟩ := not_or.mp (mt List.mem_cons.mpr noQuote)
      by_cases isBackslash : mark = '\\'
      · simp [doubled, escapeChar, isBackslash, ih later]
      · simp [doubled, escapeChar, isBackslash, Ne.symm other, ih later]

theorem doubleBackslashes_injective : Function.Injective doubleBackslashes := by
  intro first second same
  exact String.toList_inj.mp (doubled_injective (String.ofList_injective same))

theorem doubleBackslashes_eq_self_iff {name : String} :
    doubleBackslashes name = name ↔ '\\' ∉ name.toList := by
  rw [← doubled_eq_self_iff, ← String.toList_inj, doubleBackslashes, String.toList_ofList]

end Doubling

section Names

variable {name : String}

theorem nameOf?_doubled (plain : Plain name) :
    nameOf? (doubled name.toList) = some (doubleBackslashes name) := by
  have noBlank : ∀ mark ∈ doubled name.toList, Text.isBlank mark = false :=
    fun mark member => plain.noBlank mark (mem_doubled.mp member)
  have nonempty : doubled name.toList ≠ [] := doubled_ne_nil (by simpa using plain.nonempty)
  rw [nameOf?, Text.words_of_noBlank noBlank nonempty]
  rfl

theorem plain_of_nameOf? {label : List Char} (noQuote : '"' ∉ label) (found : nameOf? label = some name) :
    Plain name := by
  obtain ⟨word, first, rfl⟩ := Option.map_eq_some_iff.mp found
  obtain ⟨nonempty, marks⟩ := Text.of_mem_words (List.mem_of_head? first)
  refine ⟨by simpa using nonempty, fun mark member => ?_, fun member => ?_⟩
  · rw [String.toList_ofList] at member
    exact (marks mark member).1
  · rw [String.toList_ofList] at member
    exact noQuote (marks _ member).2

/-- What a line can do to a graph, with the names it can bring. -/
theorem applyLine_cases (graph : DependencyGraph) (line : List Char) :
    (applyLine graph line).1 = graph ∨
      (∃ name, Plain name ∧ (applyLine graph line).1 = graph.ensure name) ∨
      ∃ source target, Plain source ∧ Plain target ∧ (applyLine graph line).1 = graph.connect source target := by
  cases read : Line.ofChars line with
  | ignored => exact .inl (by simp [applyLine, read])
  | arc source target =>
      obtain ⟨noSourceQuote, noTargetQuote⟩ := noQuote_of_ofChars_arc read
      cases foundSource : nameOf? source with
      | none => exact .inl (by simp [applyLine, read, foundSource])
      | some sourceName =>
          cases foundTarget : nameOf? target with
          | none => exact .inl (by simp [applyLine, read, foundTarget])
          | some targetName =>
              refine .inr (.inr ⟨sourceName, targetName, plain_of_nameOf? noSourceQuote foundSource,
                plain_of_nameOf? noTargetQuote foundTarget, ?_⟩)
              simp [applyLine, read, foundSource, foundTarget]
  | vertex label =>
      cases found : nameOf? label with
      | none => exact .inl (by simp [applyLine, read, found])
      | some name =>
          refine .inr (.inl ⟨name, plain_of_nameOf? (noQuote_of_ofChars_vertex read) found, ?_⟩)
          simp [applyLine, read, found]
  | unknown => exact .inl (by simp [applyLine, read])

theorem plain_applyLine {graph : DependencyGraph} (wellFormed : graph.WellFormed)
    (plain : ∀ name ∈ graph.vertices, Plain name) (line : List Char) :
    ∀ name ∈ (applyLine graph line).1.vertices, Plain name := by
  intro name member
  rcases applyLine_cases graph line with kept | ⟨added, plainAdded, grown⟩ |
    ⟨source, target, plainSource, plainTarget, grown⟩
  · rw [kept] at member
    exact plain name member
  · rw [grown, DependencyGraph.mem_vertices_ensure] at member
    rcases member with rfl | old
    · exact plainAdded
    · exact plain name old
  · rw [grown, DependencyGraph.mem_vertices_connect wellFormed] at member
    rcases member with rfl | rfl | old
    · exact plainSource
    · exact plainTarget
    · exact plain name old

theorem plain_readLines {graph : DependencyGraph} (wellFormed : graph.WellFormed)
    (plain : ∀ name ∈ graph.vertices, Plain name) (number : Nat) (lines : List (List Char)) :
    ∀ name ∈ (readLines graph number lines).1.vertices, Plain name := by
  induction lines generalizing graph number with
  | nil => exact plain
  | cons line rest ih => exact ih (wellFormed.applyLine _) (plain_applyLine wellFormed plain _) (number + 1)

theorem plain_read (text : String) : ∀ name ∈ (read text).1.vertices, Plain name :=
  plain_readLines .empty (fun _ member => nomatch member) 1 _

end Names

section Statements

variable {name : String} {arc : Arc}

theorem toList_quote (plain : Plain name) : (quote name).toList = '"' :: (doubled name.toList ++ ['"']) := by
  rw [quote, String.toList_ofList, quotedChars, flatMap_escapeChar plain.noQuote, List.cons_append]

theorem noQuote_doubled (plain : Plain name) : '"' ∉ doubled name.toList :=
  mt mem_doubled.mp plain.noQuote

theorem noLineFeed_doubled (plain : Plain name) : '\n' ∉ doubled name.toList := by
  intro member
  have notBlank := plain.noBlank '\n' (mem_doubled.mp member)
  exact absurd notBlank (by decide)

/-- An arc between plain names, with the group behind it that a highlighted arc has. -/
theorem exists_toList_arcStatement (plainSource : Plain arc.source) (plainTarget : Plain arc.target)
    (highlighted : List Arc) :
    ∃ group, isEnding (group ++ [';']) = true ∧ '\n' ∉ group ∧
      (arcStatement highlighted arc).toList =
        '"' :: (doubled arc.source.toList ++ '"' :: ' ' :: '-' :: '>' :: ' ' :: '"' ::
          (doubled arc.target.toList ++ '"' :: group)) := by
  unfold arcStatement
  split
  · refine ⟨" [color=\"red\", style=\"bold\"]".toList, by decide, by decide, ?_⟩
    simp [toList_quote plainSource, toList_quote plainTarget]
  · refine ⟨[], by decide, by decide, ?_⟩
    simp [toList_quote plainSource, toList_quote plainTarget]

theorem applyLine_vertex (plain : Plain name) (graph : DependencyGraph) :
    applyLine graph (Text.trim (statementLine (quote name))) = (graph.ensure (doubleBackslashes name), none) := by
  have line := ofChars_vertex (noQuote_doubled plain)
  rw [trim_statementLine (toList_quote plain), List.append_assoc, List.singleton_append, applyLine, line]
  simp only [nameOf?_doubled plain]

theorem applyLine_arc (plainSource : Plain arc.source) (plainTarget : Plain arc.target)
    (highlighted : List Arc) (graph : DependencyGraph) :
    applyLine graph (Text.trim (statementLine (arcStatement highlighted arc))) =
      (graph.connect (doubleBackslashes arc.source) (doubleBackslashes arc.target), none) := by
  obtain ⟨group, ending, _, written⟩ := exists_toList_arcStatement plainSource plainTarget highlighted
  have line := ofChars_arc (noQuote_doubled plainSource) (noQuote_doubled plainTarget) ending
  rw [trim_statementLine written, applyLine]
  simp only [List.append_assoc, List.cons_append, line, nameOf?_doubled plainSource, nameOf?_doubled plainTarget]

theorem oneLine_vertex (plain : Plain name) : '\n' ∉ statementLine (quote name) := by
  simp [statementLine, toList_quote plain, noLineFeed_doubled plain]

theorem oneLine_arc (plainSource : Plain arc.source) (plainTarget : Plain arc.target)
    (highlighted : List Arc) :
    '\n' ∉ statementLine (arcStatement highlighted arc) := by
  obtain ⟨group, _, noLineFeed, written⟩ := exists_toList_arcStatement plainSource plainTarget highlighted
  simp [statementLine, written, noLineFeed_doubled plainSource, noLineFeed_doubled plainTarget, noLineFeed]

end Statements

def doubleEnds (arc : Arc) : Arc :=
  ⟨doubleBackslashes arc.source, doubleBackslashes arc.target⟩

theorem doubleEnds_injective : Function.Injective doubleEnds := by
  intro first second same
  obtain ⟨sources, targets⟩ := Arc.mk.inj same
  cases first
  cases second
  exact congrArg₂ Arc.mk (doubleBackslashes_injective sources) (doubleBackslashes_injective targets)

section Graphs

variable {graph : DependencyGraph} {highlighted : List Arc}

def linesOf (highlighted : List Arc) (graph : DependencyGraph) : List (List Char) :=
  ("digraph".toList ++ ' ' :: (quotedChars "dependencies".toList ++ [' ', '\x7b'])) ::
    ((graph.vertices.map fun name => statementLine (quote name)) ++
      ((graph.arcs.map fun arc => statementLine (arcStatement highlighted arc)) ++ [['\x7d']]))

theorem toList_ofDependencies :
    (ofDependencies highlighted graph).toList = (linesOf highlighted graph).flatMap fun line => line ++ ['\n'] := by
  rw [ofDependencies, toList_document, List.map_append, List.map_map, List.map_map, List.append_assoc]
  rfl

theorem plainEnds (wellFormed : graph.WellFormed) (plain : ∀ name ∈ graph.vertices, Plain name) :
    ∀ arc ∈ graph.arcs, Plain arc.source ∧ Plain arc.target := fun arc member =>
  ⟨plain _ (wellFormed.source_mem arc member), plain _ (wellFormed.target_mem arc member)⟩

theorem oneLine_linesOf (wellFormed : graph.WellFormed) (plain : ∀ name ∈ graph.vertices, Plain name) :
    ∀ line ∈ linesOf highlighted graph, '\n' ∉ line := by
  intro line member
  simp only [linesOf, List.mem_cons, List.mem_append, List.mem_map, List.not_mem_nil, or_false] at member
  rcases member with rfl | ⟨name, member, rfl⟩ | ⟨arc, member, rfl⟩ | rfl
  · decide
  · exact oneLine_vertex (plain name member)
  · obtain ⟨source, target⟩ := plainEnds wellFormed plain arc member
    exact oneLine_arc source target highlighted
  · decide

/-- Reading takes the statements in the order in which they were written. -/
theorem read_ofDependencies (wellFormed : graph.WellFormed) (plain : ∀ name ∈ graph.vertices, Plain name) :
    read (ofDependencies highlighted graph) =
      ((graph.arcs.map doubleEnds).foldl (fun graph arc => graph.connect arc.source arc.target)
        ((graph.vertices.map doubleBackslashes).foldl DependencyGraph.ensure .empty), []) := by
  have vertexLines (name) (member : name ∈ graph.vertices) := applyLine_vertex (plain name member)
  have arcLines (arc) (member : arc ∈ graph.arcs) :=
    applyLine_arc (plainEnds wellFormed plain arc member).1 (plainEnds wellFormed plain arc member).2 highlighted
  -- The header and the closing brace are passed over.
  rw [read, toList_ofDependencies, Text.lines_flatMap (oneLine_linesOf wellFormed plain), linesOf,
    readLines_cons rfl, readLines_map_append vertexLines, readLines_map_append arcLines, readLines_cons rfl,
    List.foldl_map, List.foldl_map]
  rfl

private theorem map_eq_self_iff {α : Type} {entries : List α} {change : α → α} :
    entries.map change = entries ↔ ∀ entry ∈ entries, change entry = entry := by
  nth_rewrite 2 [← List.map_id entries]
  exact List.map_inj_left

theorem lists_read_ofDependencies (wellFormed : graph.WellFormed)
    (plain : ∀ name ∈ graph.vertices, Plain name) (highlighted : List Arc) :
    (read (ofDependencies highlighted graph)).1.vertices = graph.vertices.map doubleBackslashes ∧
      (read (ofDependencies highlighted graph)).1.arcs = graph.arcs.map doubleEnds := by
  have noLoop : ∀ arc ∈ graph.arcs.map doubleEnds, arc.source ≠ arc.target := by
    intro doubledArc member same
    obtain ⟨arc, arcIn, rfl⟩ := List.mem_map.mp member
    exact wellFormed.noLoop arc arcIn (doubleBackslashes_injective same)
  have known : ∀ name ∈ (graph.arcs.map doubleEnds).flatMap fun arc => [arc.source, arc.target],
      name ∈ graph.vertices.map doubleBackslashes := by
    intro name member
    simp only [List.mem_flatMap, List.mem_map, List.mem_cons, List.not_mem_nil, or_false] at member
    obtain ⟨_, ⟨arc, arcIn, rfl⟩, rfl | rfl⟩ := member
    · exact List.mem_map_of_mem (wellFormed.source_mem arc arcIn)
    · exact List.mem_map_of_mem (wellFormed.target_mem arc arcIn)
  have records := (DependencyGraph.Records.empty.foldl_ensure
    (graph.vertices.map doubleBackslashes)).foldl_connect (graph.arcs.map doubleEnds)
  rw [List.filter_eq_self.mpr (by simpa using noLoop)] at records
  rw [read_ofDependencies wellFormed plain, records.vertices, records.arcs, List.nil_append, List.nil_append]
  exact ⟨eraseDups_append_of_nodup (graph.vertices_nodup.map doubleBackslashes_injective) known,
    eraseDups_of_nodup (wellFormed.arcs_nodup.map doubleEnds_injective)⟩

end Graphs

/-- A graph of plain names, as every graph that was read is, comes back without complaint and in the same
order, with its backslashes doubled. -/
theorem read_ofDependencies_doubles_backslashes :
    (∀ text, ∀ name ∈ (read text).1.vertices, Plain name) ∧
    (∀ name : String, '\\' ∉ name.toList → doubleBackslashes name = name) ∧
    ∀ graph : DependencyGraph, graph.Reachable → (∀ name ∈ graph.vertices, Plain name) →
      ∀ highlighted : List Arc,
        (read (ofDependencies highlighted graph)).2 = [] ∧
        (read (ofDependencies highlighted graph)).1.vertices = graph.vertices.map doubleBackslashes ∧
        (read (ofDependencies highlighted graph)).1.arcs = graph.arcs.map doubleEnds := by
  refine ⟨plain_read, fun _ => doubleBackslashes_eq_self_iff.mpr, ?_⟩
  intro graph reachable plain highlighted
  have noWarning : (read (ofDependencies highlighted graph)).2 = [] := by
    rw [read_ofDependencies reachable.wellFormed plain]
  exact ⟨noWarning, lists_read_ofDependencies reachable.wellFormed plain highlighted⟩

/-- Names that look like statements, in slots one of which was used before. -/
def misleadingNames : DependencyGraph :=
  (((DependencyGraph.empty.ensure "old").connect "a->b" "c\\d=[1];").remove "old").connect "digraph" "a->b"

theorem misleadingNames_doubles_backslashes :
    misleadingNames.Reachable ∧ (∀ name ∈ misleadingNames.vertices, Plain name) ∧
      (read (ofDependencies [⟨"digraph", "a->b"⟩] misleadingNames)).2 = [] ∧
      (read (ofDependencies [⟨"digraph", "a->b"⟩] misleadingNames)).1.vertices =
        ["digraph", "a->b", "c\\\\d=[1];"] ∧
      (read (ofDependencies [⟨"digraph", "a->b"⟩] misleadingNames)).1.arcs =
        [⟨"a->b", "c\\\\d=[1];"⟩, ⟨"digraph", "a->b"⟩] := by
  have reachable : misleadingNames.Reachable := .connect _ _ (.remove _ (.connect _ _ (.ensure _ .empty)))
  have plain : ∀ name ∈ misleadingNames.vertices, Plain name := by decide +kernel
  obtain ⟨noWarning, vertices, arcs⟩ :=
    read_ofDependencies_doubles_backslashes.2.2 misleadingNames reachable plain [⟨"digraph", "a->b"⟩]
  exact ⟨reachable, plain, noWarning, vertices.trans (by decide +kernel), arcs.trans (by decide +kernel)⟩

/-- Writing a graph that was read and reading it again gives its lists back exactly if no name has a backslash. -/
theorem read_again_iff_noBackslash (text : String) (highlighted : List Arc) :
    ((read (ofDependencies highlighted (read text).1)).1.vertices = (read text).1.vertices ∧
      (read (ofDependencies highlighted (read text).1)).1.arcs = (read text).1.arcs) ↔
    ∀ name ∈ (read text).1.vertices, '\\' ∉ name.toList := by
  have wellFormed := (DependencyGraph.Reachable.read text).wellFormed
  obtain ⟨vertices, arcs⟩ := lists_read_ofDependencies wellFormed (plain_read text) highlighted
  simp only [vertices, arcs, map_eq_self_iff, doubleBackslashes_eq_self_iff, and_iff_left_iff_imp]
  intro noBackslash arc member
  have source := noBackslash arc.source (wellFormed.source_mem arc member)
  have target := noBackslash arc.target (wellFormed.target_mem arc member)
  rw [doubleEnds, doubleBackslashes_eq_self_iff.mpr source, doubleBackslashes_eq_self_iff.mpr target]

theorem backslash_doubled_on_reading_again :
    (read "digraph g \x7b\n  \"a\\b\" -> \"c\";\n\x7d\n").1.vertices = ["a\\b", "c"] ∧
      (read (ofDependencies [] (read "digraph g \x7b\n  \"a\\b\" -> \"c\";\n\x7d\n").1)).1.vertices =
        ["a\\\\b", "c"] := by
  decide +kernel

end ClassMetrics.Dot
