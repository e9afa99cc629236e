import ClassMetrics.Proofs.Dot.Statements

namespace ClassMetrics.Dot

/-!
A written graph can be told from every other. A quoted name ends at one place only, whatever stands behind it:
inside, a quote always has a backslash before it, and the backslash is never one of the name's own. So a
statement ends where it seems to, and a document splits into its statements in one way.
-/

section Names

variable {name other : List Char} {after others : List Char}

theorem escapeChar_cases (mark : Char) :
    (mark = '\\' ∨ mark = '"') ∧ escapeChar mark = ['\\', mark] ∨
      mark ≠ '\\' ∧ mark ≠ '"' ∧ escapeChar mark = [mark] := by
  by_cases special : mark = '\\' ∨ mark = '"'
  · exact .inl ⟨special, if_pos special⟩
  · obtain ⟨noBackslash, noQuote⟩ := not_or.mp special
    exact .inr ⟨noBackslash, noQuote, if_neg special⟩

theorem escapeChar_append_ne_quote (mark : Char) (after others : List Char) :
    escapeChar mark ++ after ≠ '"' :: others := by
  rcases escapeChar_cases mark with ⟨_, written⟩ | ⟨_, noQuote, written⟩
  · simp [written]
  · simp [written, noQuote]

theorem escapeChar_append_inj {mark next : Char} :
    escapeChar mark ++ after = escapeChar next ++ others ↔ mark = next ∧ after = others := by
  rcases escapeChar_cases mark with ⟨special, written⟩ | ⟨noBackslash, noQuote, written⟩ <;>
    rcases escapeChar_cases next with ⟨nextSpecial, nextWritten⟩ | ⟨nextNoBackslash, nextNoQuote, nextWritten⟩
  · simp [written, nextWritten]
  · -- A backslash that was put in is not one that stands for itself.
    have different : mark ≠ next := by
      rintro rfl
      exact special.elim nextNoBackslash nextNoQuote
    simp [written, nextWritten, nextNoBackslash.symm, different]
  · have different : mark ≠ next := by
      rintro rfl
      exact nextSpecial.elim noBackslash noQuote
    simp [written, nextWritten, noBackslash, different]
  · simp [written, nextWritten]

theorem escaped_append_inj :
    name.flatMap escapeChar ++ '"' :: after = other.flatMap escapeChar ++ '"' :: others ↔
      name = other ∧ after = others := by
  induction name generalizing other with
  | nil =>
      cases other with
      | nil => simp
      | cons next rest =>
          have differ := escapeChar_append_ne_quote next (rest.flatMap escapeChar ++ '"' :: others) after
          simpa using differ.symm
  | cons mark marks ih =>
      cases other with
      | nil =>
          have differ := escapeChar_append_ne_quote mark (marks.flatMap escapeChar ++ '"' :: after) others
          simpa using differ
      | cons next rest =>
          rw [List.flatMap_cons, List.flatMap_cons, List.append_assoc, List.append_assoc,
            escapeChar_append_inj, ih, List.cons.injEq, and_assoc]

@[simp] theorem quotedChars_append_inj :
    quotedChars name ++ after = quotedChars other ++ others ↔ name = other ∧ after = others := by
  simp [quotedChars, escaped_append_inj]

end Names

section Documents

variable {Edge : Type} {write : Edge → String}

/-- Edges whose statements start with a quoted name and a blank, and end at the first `;` that can end them. -/
structure Legible (write : Edge → String) : Prop where
  begins : ∀ edge, ∃ name tail, (write edge).toList = quotedChars name ++ ' ' :: tail
  ends : ∀ {first second : Edge} {after others : List Char},
    (write first).toList ++ ';' :: after = (write second).toList ++ ';' :: others →
      first = second ∧ after = others

/-- A vertex or an edge, as the statement that it is. -/
def itemChars (write : Edge → String) (item : String ⊕ Edge) : List Char :=
  statementLine (item.elim quote write) ++ ['\n']

theorem Legible.itemChars_append_inj (legible : Legible write) {first second : String ⊕ Edge}
    {after others : List Char}
    (same : itemChars write first ++ after = itemChars write second ++ others) :
    first = second ∧ after = others := by
  simp only [itemChars, statementLine, List.cons_append, List.append_assoc, List.nil_append,
    List.cons.injEq, true_and] at same
  cases first with
  | inl name =>
      cases second with
      | inl other => simpa [quote, String.toList_inj] using same
      | inr edge =>
          obtain ⟨source, tail, written⟩ := legible.begins edge
          simp [quote, written] at same
  | inr edge =>
      cases second with
      | inl other =>
          obtain ⟨source, tail, written⟩ := legible.begins edge
          simp [quote, written] at same
      | inr otherEdge =>
          obtain ⟨rfl, rest⟩ := legible.ends same
          exact ⟨rfl, by simpa using rest⟩

theorem Legible.items_inj (legible : Legible write) {first second : List (String ⊕ Edge)}
    {after others : List Char}
    (same : first.flatMap (itemChars write) ++ '\x7d' :: after =
      second.flatMap (itemChars write) ++ '\x7d' :: others) :
    first = second := by
  induction first generalizing second with
  | nil =>
      cases second with
      | nil => rfl
      | cons item rest => simp [itemChars, statementLine] at same
  | cons item items ih =>
      cases second with
      | nil => simp [itemChars, statementLine] at same
      | cons next rest =>
          simp only [List.flatMap_cons, List.append_assoc] at same
          obtain ⟨rfl, later⟩ := legible.itemChars_append_inj same
          rw [ih later]

theorem inl_append_inr_inj {names otherNames : List String} {edges otherEdges : List Edge}
    (same : names.map Sum.inl ++ edges.map Sum.inr = otherNames.map Sum.inl ++ otherEdges.map Sum.inr) :
    names = otherNames ∧ edges = otherEdges := by
  induction names generalizing otherNames with
  | nil =>
      cases otherNames with
      | nil => exact ⟨rfl, (List.map_inj_right fun _ _ => Sum.inr.inj).mp same⟩
      | cons other others => cases edges <;> simp at same
  | cons name rest ih =>
      cases otherNames with
      | nil => cases otherEdges <;> simp at same
      | cons other others =>
          simp only [List.map_cons, List.cons_append, List.cons.injEq, Sum.inl.injEq] at same
          obtain ⟨rfl, later⟩ := same
          obtain ⟨rfl, edgesSame⟩ := ih later
          exact ⟨rfl, edgesSame⟩

theorem toList_document_items (keyword title : String) (names : List String) (edges : List Edge) :
    (document keyword title (names.map quote ++ edges.map write)).toList =
      keyword.toList ++ ' ' :: (quotedChars title.toList ++ ' ' :: '\x7b' :: '\n' ::
        ((names.map Sum.inl ++ edges.map Sum.inr).flatMap (itemChars write) ++ ['\x7d', '\n'])) := by
  simp [toList_document, List.flatMap_map, itemChars]

theorem Legible.document_inj (legible : Legible write) {keyword title otherTitle : String}
    {names otherNames : List String} {edges otherEdges : List Edge} :
    document keyword title (names.map quote ++ edges.map write) =
        document keyword otherTitle (otherNames.map quote ++ otherEdges.map write) ↔
      title = otherTitle ∧ names = otherNames ∧ edges = otherEdges := by
  constructor
  · intro same
    rw [← String.toList_inj, toList_document_items, toList_document_items, List.append_cancel_left_eq,
      List.cons.injEq, quotedChars_append_inj, String.toList_inj] at same
    obtain ⟨_, rfl, body⟩ := same
    simp only [List.cons.injEq, true_and] at body
    exact ⟨rfl, inl_append_inr_inj (legible.items_inj body)⟩
  · rintro ⟨rfl, rfl, rfl⟩
    rfl

end Documents

section Edges

theorem kindName_injective : Function.Injective RelationKind.name := by
  intro first second same
  cases first <;> cases second <;> first | rfl | exact absurd same (by decide)

theorem legible_relationStatement : Legible relationStatement where
  begins relation := ⟨relation.source.toList, _, by simp [relationStatement, quote]; rfl⟩
  ends := by
    intro first second after others same
    have parts : first.source = second.source ∧ first.target = second.target ∧
        first.kind.name = second.kind.name ∧ first.kind.colour = second.kind.colour ∧ after = others := by
      simpa [relationStatement, quote, String.toList_inj] using same
    obtain ⟨sources, targets, kindNames, _, rest⟩ := parts
    refine ⟨?_, rest⟩
    cases first
    cases second
    exact congr (congrArg₂ Relation.mk sources targets) (kindName_injective kindNames)

/-- An arc, and whether it is highlighted. -/
def drawnArc (drawn : Arc × Bool) : String :=
  quote drawn.1.source ++ " -> " ++ quote drawn.1.target ++
    if drawn.2 then " [color=\"red\", style=\"bold\"]" else ""

theorem legible_drawnArc : Legible drawnArc where
  begins drawn := ⟨drawn.1.source.toList, _, by simp [drawnArc, quote]; rfl⟩
  ends := by
    rintro ⟨⟨source, target⟩, red⟩ ⟨⟨otherSource, otherTarget⟩, alsoRed⟩ after others same
    have parts : source = otherSource ∧ target = otherTarget ∧
        (if red then " [color=\"red\", style=\"bold\"]" else "").toList ++ ';' :: after =
          (if alsoRed then " [color=\"red\", style=\"bold\"]" else "").toList ++ ';' :: others := by
      simpa [drawnArc, quote, String.toList_inj] using same
    obtain ⟨rfl, rfl, marks⟩ := parts
    cases red <;> cases alsoRed <;> simp_all

def linkText (link : String × String) : String :=
  quote link.1 ++ " -- " ++ quote link.2

theorem legible_linkText : Legible linkText where
  begins link := ⟨link.1.toList, _, by simp [linkText, quote]; rfl⟩
  ends := by
    rintro ⟨first, second⟩ ⟨otherFirst, otherSecond⟩ after others same
    simpa [linkText, quote, String.toList_inj, and_assoc] using same

end Edges

section Graphs

theorem map_marked_inj {α : Type} {entries others : List α} {marked alsoMarked : α → Bool} :
    (entries.map fun entry => (entry, marked entry)) = (others.map fun entry => (entry, alsoMarked entry)) ↔
      entries = others ∧ entries.filter marked = others.filter alsoMarked := by
  constructor
  · intro same
    have entriesSame : entries = others := by
      simpa [Function.comp_def] using congrArg (List.map Prod.fst) same
    subst entriesSame
    refine ⟨rfl, List.filter_congr fun entry member => ?_⟩
    exact (Prod.mk.inj (List.map_inj_left.mp same entry member)).2
  · rintro ⟨rfl, filtered⟩
    apply List.map_congr_left
    intro entry member
    have markedSame : marked entry = alsoMarked entry := by
      rw [Bool.eq_iff_iff]
      simpa [member] using congrArg (entry ∈ ·) filtered
    rw [markedSame]

theorem ofCoupling_inj {first second : CouplingGraph} :
    ofCoupling first = ofCoupling second ↔ first.vertices = second.vertices ∧ first.edges = second.edges := by
  simp [ofCoupling, legible_relationStatement.document_inj]

theorem ofDependencies_inj {first second : DependencyGraph} {marked alsoMarked : List Arc} :
    ofDependencies marked first = ofDependencies alsoMarked second ↔
      first.vertices = second.vertices ∧ first.arcs = second.arcs ∧
        first.arcs.filter marked.contains = second.arcs.filter alsoMarked.contains := by
  have drawn (marked arcs : List Arc) :
      arcs.map (arcStatement marked) = (arcs.map fun arc => (arc, marked.contains arc)).map drawnArc := by
    rw [List.map_map]
    rfl
  rw [ofDependencies, ofDependencies, drawn, drawn, legible_drawnArc.document_inj, map_marked_inj]
  exact and_iff_right rfl

theorem ofMethods_inj {className otherName : String} {methods otherMethods : List String}
    {links otherLinks : List (String × String)} :
    ofMethods className methods links = ofMethods otherName otherMethods otherLinks ↔
      className = otherName ∧ methods = otherMethods ∧ links = otherLinks :=
  legible_linkText.document_inj

end Graphs

/-- Whatever the names are, a document tells which lists it was written from, in their order, and which arcs
are highlighted. -/
theorem documents_determine_graphs :
    (∀ first second : CouplingGraph,
      ofCoupling first = ofCoupling second ↔
        first.vertices = second.vertices ∧ first.edges = second.edges) ∧
    (∀ (first second : DependencyGraph) (marked alsoMarked : List Arc),
      ofDependencies marked first = ofDependencies alsoMarked second ↔
        first.vertices = second.vertices ∧ first.arcs = second.arcs ∧
          first.arcs.filter marked.contains = second.arcs.filter alsoMarked.contains) ∧
    ∀ (className otherName : String) (methods otherMethods : List String)
      (links otherLinks : List (String × String)),
      ofMethods className methods links = ofMethods otherName otherMethods otherLinks ↔
        className = otherName ∧ methods = otherMethods ∧ links = otherLinks :=
  ⟨fun _ _ => ofCoupling_inj, fun _ _ _ _ => ofDependencies_inj, fun _ _ _ _ _ _ => ofMethods_inj⟩

example : ofMethods "c" ["a\";\n  \"b"] [] ≠ ofMethods "c" ["a", "b"] [] := by decide

end ClassMetrics.Dot
