import ClassMetrics.Proofs.Coupling.Occurrences
import ClassMetrics.Settings.Basic

namespace ClassMetrics

/-!
What the exclusion of the platform and of the class itself amounts to in the graph. Fields, calls, accesses,
locals and parameters pass through one filter, and none of their edges is excluded. Superclasses are compared
with the root class only, so an excluded edge is always the edge to a superclass, and there is one exactly if
some analysed class has a superclass that the filter would have held back.
-/

/-- A class does not relate to itself, and to nothing whose key starts as the platform's keys do. -/
def Platform.Excludes (platform : Platform) (source target : String) : Prop :=
  source = target ∨ ∃ start ∈ platform.starts, start.toList <+: target.toList

instance (platform : Platform) (source target : String) : Decidable (platform.Excludes source target) :=
  inferInstanceAs (Decidable (_ ∨ _))

namespace Coupling

variable {platform : Platform} {classFile : ClassFile} {classFiles : List ClassFile} {graph : CouplingGraph}
  {relation : Relation}

theorem Counts.not_excludes {source target : String} {kind : RelationKind}
    (counts : Counts platform source target kind) (other : kind ≠ .superclass) :
    ¬ platform.Excludes source target := by
  have filtered : target ≠ "" ∧ target ≠ source ∧ ∀ start ∈ platform.starts, ¬ start.toList <+: target.toList := by
    cases kind with
    | superclass => exact absurd rfl other
    | instanceVariable | callsMethod | localVariable | parameterType | accessPublicVariable => exact counts
  intro excluded
  rcases excluded with same | ⟨start, member, begins⟩
  · exact filtered.2.1 same.symm
  · exact filtered.2.2 start member begins

/-- A class has an edge for what it mentions, as far as that counts. -/
theorem mem_relationsOf_iff :
    relation ∈ relationsOf platform classFile ↔
      classFile.key = relation.source ∧ Counts platform relation.source relation.target relation.kind ∧
        relation.target ∈ classFile.mentions relation.kind := by
  have isEdge_iff (other : Relation) :
      isEdge relation.source relation.target relation.kind other = true ↔ other = relation := by
    cases other
    cases relation
    simp [isEdge, and_assoc]
  have member : 0 < (relationsOf platform classFile).countP
      (isEdge relation.source relation.target relation.kind) ↔ relation ∈ relationsOf platform classFile := by
    simp [List.countP_pos_iff, isEdge_iff]
  rw [← member, countP_relationsOf]
  split
  · rename_i both
    simp [both, List.count_pos_iff]
  · rename_i neither
    simp only [Nat.lt_irrefl, false_iff]
    exact fun all => neither ⟨all.1, all.2.1⟩

theorem mem_edges_graphOf_iff (built : graphOf platform classFiles = .ok graph) :
    relation ∈ graph.edges ↔
      ∃ classFile ∈ classFiles, (classFile.isModule = false ∧ classFile.key ≠ "") ∧
        classFile.key = relation.source ∧ Counts platform relation.source relation.target relation.kind ∧
          relation.target ∈ classFile.mentions relation.kind := by
  rw [(records_graphOf built).mem_edges]
  simp only [List.mem_flatMap, List.mem_filter, isAnalysed_iff, mem_relationsOf_iff, and_assoc]

/-- Only superclasses get past the filter, and they do whenever they are not the root class. -/
theorem excluded_edge_iff_superclass (built : graphOf platform classFiles = .ok graph) :
    (∀ edge ∈ graph.edges, edge.kind ≠ .superclass → ¬ platform.Excludes edge.source edge.target) ∧
      ((∃ edge ∈ graph.edges, platform.Excludes edge.source edge.target) ↔
        ∃ classFile ∈ classFiles, (classFile.isModule = false ∧ classFile.key ≠ "") ∧
          ∃ parent, classFile.superclass = some parent ∧ InternalName.classKey parent ≠ "" ∧
            InternalName.classKey parent ≠ InternalName.classKey platform.root ∧
            platform.Excludes classFile.key (InternalName.classKey parent)) := by
  have filtered : ∀ edge ∈ graph.edges, edge.kind ≠ .superclass →
      ¬ platform.Excludes edge.source edge.target := by
    intro edge member other
    obtain ⟨_, _, _, _, counts, _⟩ := (mem_edges_graphOf_iff built).mp member
    exact counts.not_excludes other
  refine ⟨filtered, ?_, ?_⟩
  · rintro ⟨edge, member, excluded⟩
    obtain ⟨source, target, kind⟩ := edge
    have ofSuperclass : kind = .superclass := by
      by_contra other
      exact filtered _ member other excluded
    subst ofSuperclass
    obtain ⟨classFile, given, analysed, rfl, counts, mentioned⟩ := (mem_edges_graphOf_iff built).mp member
    obtain ⟨parent, declared, rfl⟩ := List.mem_map.mp mentioned
    exact ⟨classFile, given, analysed, parent, by simpa using declared, counts.1, counts.2, excluded⟩
  · rintro ⟨classFile, given, analysed, parent, declared, named, notRoot, excluded⟩
    refine ⟨⟨classFile.key, InternalName.classKey parent, .superclass⟩, ?_, excluded⟩
    refine (mem_edges_graphOf_iff built).mpr ⟨classFile, given, analysed, rfl, ⟨named, notRoot⟩, ?_⟩
    simp [ClassFile.mentions, declared]

/-- A class that extends a platform class and has fields of all sorts, and one whose superclass has its key. -/
def heirs : List ClassFile := [
  { name := "p/A", superclass := some "java/lang/Exception", accessFlags := 0,
    fields := [⟨"text", "Ljava/lang/String;"⟩, ⟨"next", "Lp/A;"⟩, ⟨"peer", "Lp/C;"⟩], methods := [] },
  { name := "p/A$B", superclass := some "p/A_B", accessFlags := 0, fields := [], methods := [] }]

def heirsGraph : CouplingGraph :=
  .recording ["p/A", "java/lang/Exception", "p/C", "p/A_B"]
    [⟨"p/A", "java/lang/Exception", .superclass⟩, ⟨"p/A", "p/C", .instanceVariable⟩, ⟨"p/A_B", "p/A_B", .superclass⟩]

theorem heirsGraph_excluded_iff_superclass :
    graphOf Settings.default.platform heirs = .ok heirsGraph ∧
      (∀ edge ∈ heirsGraph.edges, edge.kind ≠ .superclass →
        ¬ Settings.default.platform.Excludes edge.source edge.target) ∧
      ((∃ edge ∈ heirsGraph.edges, Settings.default.platform.Excludes edge.source edge.target) ↔
        ∃ classFile ∈ heirs, (classFile.isModule = false ∧ classFile.key ≠ "") ∧
          ∃ parent, classFile.superclass = some parent ∧ InternalName.classKey parent ≠ "" ∧
            InternalName.classKey parent ≠ InternalName.classKey Settings.default.platform.root ∧
            Settings.default.platform.Excludes classFile.key (InternalName.classKey parent)) :=
  have built : graphOf Settings.default.platform heirs = .ok heirsGraph := by decide +kernel
  ⟨built, excluded_edge_iff_superclass built⟩

/-- Both exclusions fail for superclasses, under settings that are accepted. -/
theorem heirs_escape_exclusion :
    Settings.default.platform? = .ok Settings.default.platform ∧
      graphOf Settings.default.platform heirs = .ok heirsGraph ∧
      (∃ edge ∈ heirsGraph.edges, ∃ start ∈ Settings.default.platform.starts,
        start.toList <+: edge.target.toList) ∧
      ∃ edge ∈ heirsGraph.edges, edge.source = edge.target := by
  refine ⟨by decide, by decide +kernel, ?_, ?_⟩
  · exact ⟨⟨"p/A", "java/lang/Exception", .superclass⟩, by decide +kernel, "java/", by decide, by decide⟩
  · exact ⟨⟨"p/A_B", "p/A_B", .superclass⟩, by decide +kernel, rfl⟩

end Coupling

end ClassMetrics
