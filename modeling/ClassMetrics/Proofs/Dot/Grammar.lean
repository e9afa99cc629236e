import ClassMetrics.Proofs.Dot.Statements
import ClassMetrics.Proofs.Dependency.Reachable
import Mathlib.Data.List.Forall2

namespace ClassMetrics.Dot

section Forms

inductive AttributeStatement (line : List Char) : Prop
  | attributes {keyword : String} {blanks rest : List Char} (known : keyword ∈ ["graph", "node", "edge"])
      (blank : Text.Blank blanks) (written : line = keyword.toList ++ (blanks ++ '[' :: rest))
  | assignment (equals : '=' ∈ line) (noArrow : ¬ ['-', '>'] <:+: line) (unquoted : line.head? ≠ some '"')

/-- The lines that say nothing about the graph. -/
inductive Skipped (line : List Char) : Prop
  | empty (nothing : line = [])
  | opening {start : String} (known : start ∈ ["//", "#", "digraph", "strict"]) (starts : start.toList <+: line)
  | closing (brace : line = ['\x7d'])
  | setting (statement : AttributeStatement line)

inductive Effect where
  | nothing
  | connect (source target : String)
  | ensure (name : String)
  | complain (complaint : Complaint)
deriving DecidableEq

def Effect.graph (graph : DependencyGraph) : Effect → DependencyGraph
  | .nothing => graph
  | .connect source target => graph.connect source target
  | .ensure name => graph.ensure name
  | .complain _ => graph

def Effect.complaint? : Effect → Option Complaint
  | .complain complaint => some complaint
  | .nothing | .connect .. | .ensure _ => none

/-- The warnings about lines with these effects, the first of which has the given number. -/
def warningsFrom (number : Nat) (effects : List Effect) : List Warning :=
  (effects.zipIdx number).filterMap fun entry => entry.1.complaint?.map fun complaint => ⟨entry.2, complaint⟩

/-- What a trimmed line means. A form counts only for lines that have none of the forms before it. -/
inductive Means (line : List Char) : Effect → Prop
  | skipped (skipped : Skipped line) : Means line .nothing
  | arc {source target : List Char} {sourceName targetName : String} (kept : ¬ Skipped line)
      (statement : ArcStatement line source target) (firstSource : Text.FirstWord source sourceName.toList)
      (firstTarget : Text.FirstWord target targetName.toList) : Means line (.connect sourceName targetName)
  | emptyEndpoint {source target : List Char} (kept : ¬ Skipped line)
      (statement : ArcStatement line source target) (wordless : Text.Blank source ∨ Text.Blank target) :
      Means line (.complain .emptyEndpoint)
  | vertex {label : List Char} {name : String} (kept : ¬ Skipped line)
      (noArc : ∀ source target, ¬ ArcStatement line source target) (statement : VertexStatement line label)
      (first : Text.FirstWord label name.toList) : Means line (.ensure name)
  | emptyVertex {label : List Char} (kept : ¬ Skipped line)
      (noArc : ∀ source target, ¬ ArcStatement line source target) (statement : VertexStatement line label)
      (wordless : Text.Blank label) : Means line .nothing
  | unknown (kept : ¬ Skipped line) (noArc : ∀ source target, ¬ ArcStatement line source target)
      (noVertex : ∀ label, ¬ VertexStatement line label) : Means line (.complain (.unknown (String.ofList line)))

end Forms

section Skipping

variable {line : List Char}

theorem containsPair_iff {first second : Char} :
    containsPair first second line = true ↔ [first, second] <:+: line := by
  induction line with
  | nil => simp [containsPair]
  | cons mark rest ih =>
      have here : [first, second] <+: mark :: rest ↔ mark = first ∧ rest.head? = some second := by
        cases rest <;> simp [List.cons_prefix_cons, eq_comm]
      simp [containsPair, ih, List.infix_cons_iff, here]

theorem attributes_iff {keyword : String} :
    (startsWith keyword line && (Text.trimStart (line.drop keyword.length)).head? == some '[') = true ↔
      ∃ blanks rest, Text.Blank blanks ∧ line = keyword.toList ++ (blanks ++ '[' :: rest) := by
  rw [Bool.and_eq_true, startsWith, List.isPrefixOf_iff_prefix, beq_iff_eq]
  constructor
  · intro found
    obtain ⟨⟨rest, written⟩, bracket⟩ := found
    rw [← written, ← String.length_toList, List.drop_left] at bracket
    obtain ⟨blanks, blank, whole⟩ := Text.exists_trimStart rest
    obtain ⟨inside, opened⟩ := List.head?_eq_some_iff.mp bracket
    exact ⟨blanks, inside, blank, by rw [← opened, ← whole, written]⟩
  · intro form
    obtain ⟨blanks, rest, blank, written⟩ := form
    rw [written, ← String.length_toList, List.drop_left, Text.trimStart_append blank,
      Text.trimStart_cons (by decide)]
    exact ⟨List.prefix_append _ _, rfl⟩

theorem isAttribute_iff : isAttribute line = true ↔ AttributeStatement line := by
  have assigned : (line.contains '=' && !containsPair '-' '>' line && line.head? != some '"') = true ↔
      ('=' ∈ line ∧ ¬ ['-', '>'] <:+: line) ∧ line.head? ≠ some '"' := by
    simp [← containsPair_iff]
  rw [isAttribute, Bool.or_eq_true, List.any_eq_true, assigned]
  constructor
  · intro either
    rcases either with ⟨keyword, known, found⟩ | ⟨⟨equals, noArrow⟩, unquoted⟩
    · obtain ⟨blanks, rest, blank, written⟩ := attributes_iff.mp found
      exact .attributes known blank written
    · exact .assignment equals noArrow unquoted
  · intro statement
    cases statement with
    | attributes known blank written => exact .inl ⟨_, known, attributes_iff.mpr ⟨_, _, blank, written⟩⟩
    | assignment equals noArrow unquoted => exact .inr ⟨⟨equals, noArrow⟩, unquoted⟩

theorem isIgnored_iff : isIgnored line = true ↔ Skipped line := by
  simp only [isIgnored, Bool.or_eq_true, List.isEmpty_iff, startsWith, List.isPrefixOf_iff_prefix, beq_iff_eq,
    isAttribute_iff]
  constructor
  · intro ignored
    rcases ignored with (((((nothing | slashes) | hash) | brace) | digraph) | strict) | statement
    · exact .empty nothing
    · exact .opening (by simp) slashes
    · exact .opening (by simp) hash
    · exact .closing brace
    · exact .opening (by simp) digraph
    · exact .opening (by simp) strict
    · exact .setting statement
  · intro skipped
    cases skipped with
    | empty nothing => simp [nothing]
    | opening known starts =>
        simp only [List.mem_cons, List.not_mem_nil, or_false] at known
        rcases known with rfl | rfl | rfl | rfl <;> simp only [starts, or_true, true_or]
    | closing brace => simp [brace]
    | setting statement => simp [statement]

theorem not_skipped_quote (rest : List Char) : ¬ Skipped ('"' :: rest) := by
  rw [← isIgnored_iff, isIgnored_quote]
  decide

end Skipping

section Effects

variable {line label : List Char} {name : String} {effect : Effect}

theorem nameOf?_eq_some_iff : nameOf? label = some name ↔ Text.FirstWord label name.toList := by
  rw [nameOf?, Option.map_eq_some_iff, ← Text.head?_words_eq_some_iff]
  constructor
  · intro ⟨word, found, written⟩
    rw [found, ← written, String.toList_ofList]
  · intro found
    exact ⟨name.toList, found, String.ofList_toList⟩

theorem nameOf?_eq_none_iff : nameOf? label = none ↔ Text.Blank label := by
  rw [nameOf?, Option.map_eq_none_iff, Text.head?_words_eq_none_iff]

def arcEffect (source target : List Char) : Effect :=
  ((nameOf? source).bind fun sourceName => (nameOf? target).map (.connect sourceName)).getD
    (.complain .emptyEndpoint)

def vertexEffect (label : List Char) : Effect :=
  ((nameOf? label).map .ensure).getD .nothing

/-- What a line means, computed. -/
def effectOf (line : List Char) : Effect :=
  if isIgnored line then .nothing
  else
    ((arc? line).map fun labels => arcEffect labels.1 labels.2).getD
      (((vertex? line).map vertexEffect).getD (.complain (.unknown (String.ofList line))))

theorem Means.effectOf_eq (means : Means line effect) : effectOf line = effect := by
  cases means with
  | skipped skipped => rw [effectOf, if_pos (isIgnored_iff.mpr skipped)]
  | arc kept statement firstSource firstTarget =>
      rw [effectOf, if_neg (mt isIgnored_iff.mp kept), arc?_eq_some_iff.mpr statement]
      simp [arcEffect, nameOf?_eq_some_iff.mpr firstSource, nameOf?_eq_some_iff.mpr firstTarget]
  | emptyEndpoint kept statement wordless =>
      rw [effectOf, if_neg (mt isIgnored_iff.mp kept), arc?_eq_some_iff.mpr statement]
      rcases wordless with blank | blank <;> simp [arcEffect, nameOf?_eq_none_iff.mpr blank]
  | vertex kept noArc statement first =>
      rw [effectOf, if_neg (mt isIgnored_iff.mp kept), arc?_eq_none_iff.mpr noArc,
        vertex?_eq_some_iff.mpr statement]
      simp [vertexEffect, nameOf?_eq_some_iff.mpr first]
  | emptyVertex kept noArc statement wordless =>
      rw [effectOf, if_neg (mt isIgnored_iff.mp kept), arc?_eq_none_iff.mpr noArc,
        vertex?_eq_some_iff.mpr statement]
      simp [vertexEffect, nameOf?_eq_none_iff.mpr wordless]
  | unknown kept noArc noVertex =>
      rw [effectOf, if_neg (mt isIgnored_iff.mp kept), arc?_eq_none_iff.mpr noArc,
        vertex?_eq_none_iff.mpr noVertex]
      rfl

theorem means_arcEffect {source target : List Char} (kept : ¬ Skipped line)
    (statement : ArcStatement line source target) : Means line (arcEffect source target) := by
  unfold arcEffect
  cases foundSource : nameOf? source with
  | none => exact .emptyEndpoint kept statement (.inl (nameOf?_eq_none_iff.mp foundSource))
  | some sourceName =>
      cases foundTarget : nameOf? target with
      | none => exact .emptyEndpoint kept statement (.inr (nameOf?_eq_none_iff.mp foundTarget))
      | some targetName =>
          exact .arc kept statement (nameOf?_eq_some_iff.mp foundSource) (nameOf?_eq_some_iff.mp foundTarget)

theorem means_vertexEffect (kept : ¬ Skipped line) (noArc : ∀ source target, ¬ ArcStatement line source target)
    (statement : VertexStatement line label) : Means line (vertexEffect label) := by
  unfold vertexEffect
  cases found : nameOf? label with
  | none => exact .emptyVertex kept noArc statement (nameOf?_eq_none_iff.mp found)
  | some name => exact .vertex kept noArc statement (nameOf?_eq_some_iff.mp found)

theorem means_effectOf (line : List Char) : Means line (effectOf line) := by
  by_cases ignored : isIgnored line = true
  · rw [effectOf, if_pos ignored]
    exact .skipped (isIgnored_iff.mp ignored)
  · have kept : ¬ Skipped line := mt isIgnored_iff.mpr ignored
    rw [effectOf, if_neg ignored]
    cases foundArc : arc? line with
    | some labels => exact means_arcEffect kept (arc?_eq_some_iff.mp foundArc)
    | none =>
        have noArc := arc?_eq_none_iff.mp foundArc
        cases foundVertex : vertex? line with
        | some label => exact means_vertexEffect kept noArc (vertex?_eq_some_iff.mp foundVertex)
        | none => exact .unknown kept noArc (vertex?_eq_none_iff.mp foundVertex)

/-- A label may look like an arc and a group may look like anything. -/
example : effectOf "\"a->b [x];\" -> \"c d\" [label=\"->\"] ;".toList = .connect "a->b" "c" := by
  decide +kernel

theorem applyLine_eq (graph : DependencyGraph) (line : List Char) :
    applyLine graph line = ((effectOf line).graph graph, (effectOf line).complaint?) := by
  by_cases ignored : isIgnored line = true
  · simp [applyLine, Line.ofChars, effectOf, ignored, Effect.graph, Effect.complaint?]
  · cases foundArc : arc? line with
    | some labels =>
        cases foundSource : nameOf? labels.1 <;> cases foundTarget : nameOf? labels.2 <;>
          simp [applyLine, Line.ofChars, effectOf, arcEffect, ignored, foundArc, foundSource, foundTarget,
            Effect.graph, Effect.complaint?]
    | none =>
        cases foundVertex : vertex? line with
        | some label =>
            cases found : nameOf? label <;>
              simp [applyLine, Line.ofChars, effectOf, vertexEffect, ignored, foundArc, foundVertex, found,
                Effect.graph, Effect.complaint?]
        | none =>
            simp [applyLine, Line.ofChars, effectOf, ignored, foundArc, foundVertex, Effect.graph,
              Effect.complaint?]

theorem warningsFrom_cons (number : Nat) (effect : Effect) (effects : List Effect) :
    warningsFrom number (effect :: effects) =
      (effect.complaint?.map fun complaint => ⟨number, complaint⟩).toList ++ warningsFrom (number + 1) effects := by
  cases complains : effect.complaint? <;> simp [warningsFrom, complains]

theorem readLines_eq (graph : DependencyGraph) (number : Nat) (lines : List (List Char)) :
    readLines graph number lines =
      ((lines.map fun line => effectOf (Text.trim line)).foldl Effect.graph graph,
        warningsFrom number (lines.map fun line => effectOf (Text.trim line))) := by
  induction lines generalizing graph number with
  | nil => rfl
  | cons line rest ih => simp only [readLines, applyLine_eq, ih, List.map_cons, List.foldl_cons, warningsFrom_cons]

theorem ArcStatement.unique {source target otherSource otherTarget : List Char}
    (first : ArcStatement line source target) (second : ArcStatement line otherSource otherTarget) :
    source = otherSource ∧ target = otherTarget := by
  have found := arc?_eq_some_iff.mpr first
  rw [arc?_eq_some_iff.mpr second] at found
  cases found
  exact ⟨rfl, rfl⟩

theorem head?_of_arcStatement {source target : List Char} (statement : ArcStatement line source target) :
    line.head? = some '"' := by
  obtain ⟨-, -, before, after, ending, -, -, -, rfl⟩ := statement
  rfl

theorem head?_of_vertexStatement (statement : VertexStatement line label) : line.head? = some '"' := by
  obtain ⟨-, ending, -, rfl⟩ := statement
  rfl

/-- A line that starts with a quote is passed over only as a vertex without a name. -/
theorem Means.blank_label (means : Means line .nothing) (quoted : line.head? = some '"') :
    ∃ label, VertexStatement line label ∧ Text.Blank label := by
  cases means with
  | skipped skipped =>
      obtain ⟨rest, rfl⟩ := List.head?_eq_some_iff.mp quoted
      exact absurd skipped (not_skipped_quote rest)
  | emptyVertex kept noArc statement wordless => exact ⟨_, statement, wordless⟩

theorem Means.nothing_or_unknown (means : Means line effect) (unquoted : line.head? ≠ some '"') :
    effect = .nothing ∨ effect = .complain (.unknown (String.ofList line)) := by
  cases means with
  | skipped => exact .inl rfl
  | arc kept statement => exact absurd (head?_of_arcStatement statement) unquoted
  | emptyEndpoint kept statement => exact absurd (head?_of_arcStatement statement) unquoted
  | vertex kept noArc statement => exact absurd (head?_of_vertexStatement statement) unquoted
  | emptyVertex => exact .inl rfl
  | unknown => exact .inr rfl

end Effects

/-- Reading a text does what its lines mean, each once and in order, and a line means one thing only. -/
theorem read_follows_line_grammar (text : String) :
    Text.HasLines text.toList (Text.lines text.toList) ∧
      (∃ effects, List.Forall₂ (fun line effect => Means (Text.trim line) effect) (Text.lines text.toList) effects ∧
        read text = (effects.foldl Effect.graph .empty, warningsFrom 1 effects)) ∧
      (∀ line, ∃! effect, Means line effect) ∧
      (∀ line source target otherSource otherTarget, ArcStatement line source target →
        ArcStatement line otherSource otherTarget → source = otherSource ∧ target = otherTarget) ∧
      (∀ graph name, Effect.graph graph (.connect name name) = graph.ensure name) ∧
      (∀ line, line.head? = some '"' → Means line .nothing →
        ∃ label, VertexStatement line label ∧ Text.Blank label) ∧
      ∀ line effect, line.head? ≠ some '"' → Means line effect →
        effect = .nothing ∨ effect = .complain (.unknown (String.ofList line)) := by
  refine ⟨Text.hasLines_lines _, ⟨_, ?_, readLines_eq .empty 1 _⟩, ?_, ?_, ?_, ?_, ?_⟩
  · exact List.forall₂_map_right_iff.mpr (List.forall₂_same.mpr fun line _ => means_effectOf (Text.trim line))
  · intro line
    exact ⟨effectOf line, means_effectOf line, fun effect means => means.effectOf_eq.symm⟩
  · intro line source target otherSource otherTarget first second
    exact first.unique second
  · intro graph name
    exact graph.connect_self name
  · intro line quoted means
    exact means.blank_label quoted
  · intro line effect unquoted means
    exact means.nothing_or_unknown unquoted

end ClassMetrics.Dot
