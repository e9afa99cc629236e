import ClassMetrics.Analyzer
import ClassMetrics.Proofs.Coupling.Extraction
import ClassMetrics.Proofs.Data.Pairs
import ClassMetrics.Proofs.Data.Ranking

namespace ClassMetrics

/-!
The order in which classes are given does not show in the results. It does show in the coupling graph, whose
vertices and edges stand in the order of their mention; but two graphs with the same vertices and edges in
another order give the same counts, and what is listed is either ranked or read without regard to order.
-/

section Numbers

variable {numbers others : List Nat}

theorem maximum_perm (reordered : numbers.Perm others) : maximum numbers = maximum others :=
  reordered.foldl_eq 0

theorem average_perm (reordered : numbers.Perm others) : average numbers = average others := by
  unfold average
  rw [reordered.isEmpty_eq, reordered.foldl_eq 0, reordered.length_eq]

end Numbers

/-- Two classes, in no order, and the score of the pair. -/
def PairScore.unordered (pair : PairScore) : Sym2 String × Nat :=
  (s(pair.first, pair.second), pair.score)

namespace CouplingGraph

/-- The score of a pair of classes that does not say which is first. -/
def pairScore (graph : CouplingGraph) : Sym2 String → Nat :=
  Sym2.lift ⟨fun first second => graph.countBetween first second + graph.countBetween second first,
    fun _ _ => Nat.add_comm _ _⟩

theorem pairScores_unordered (graph : CouplingGraph) :
    graph.pairScores.map PairScore.unordered =
      ((pairs graph.vertices.toList).map unordered).map fun pair => (pair, graph.pairScore pair) := by
  simp only [pairScores, List.map_map]
  rfl

theorem pairs_nodup (graph : CouplingGraph) :
    (graph.pairScores.map fun pair => s(pair.first, pair.second)).Nodup := by
  have listed : (graph.pairScores.map fun pair => s(pair.first, pair.second)) =
      (pairs graph.vertices.toList).map unordered := by
    simp only [pairScores, List.map_map]
    rfl
  rw [listed]
  exact nodup_unordered_pairs graph.vertices_nodup

structure Reordered (one other : CouplingGraph) : Prop where
  vertices : one.vertices.toList.Perm other.vertices.toList
  edges : one.edges.toList.Perm other.edges.toList

namespace Reordered

variable {one other : CouplingGraph}

theorem countEdges_eq (reordered : one.Reordered other) (counted : Relation → Bool) :
    one.countEdges counted = other.countEdges counted :=
  reordered.edges.countP_eq counted

theorem cbo_eq (reordered : one.Reordered other) (name : String) : one.cbo name = other.cbo name := by
  have edges := reordered.edges.filter fun edge => edge.source == name
  rw [cbo, cbo, outNeighbours_eq, outNeighbours_eq, List.length_mergeSort, List.length_mergeSort]
  apply List.Perm.length_eq
  apply eraseDups_perm
  exact ((List.reverse_perm _).trans (edges.trans (List.reverse_perm _).symm)).map _

theorem ofGraph_eq (reordered : one.Reordered other) : ClassCoupling.ofGraph one = ClassCoupling.ofGraph other := by
  funext name
  simp only [ClassCoupling.ofGraph, reordered.cbo_eq, inDegree_eq, outDegree_eq, reordered.countEdges_eq]

theorem classes_eq (reordered : one.Reordered other) :
    (CouplingAnalysis.ofGraph one).classes = (CouplingAnalysis.ofGraph other).classes := by
  have entries : (one.vertices.toList.map (ClassCoupling.ofGraph one)).Perm
      (other.vertices.toList.map (ClassCoupling.ofGraph other)) := by
    rw [reordered.ofGraph_eq]
    exact reordered.vertices.map _
  have names : ((one.vertices.toList.map (ClassCoupling.ofGraph one)).map (·.className)).Nodup := by
    rw [List.map_map]
    simpa [Function.comp_def, ClassCoupling.ofGraph] using one.vertices_nodup
  exact mergeSort_ranks_eq entries names

theorem pairs_perm (reordered : one.Reordered other) :
    (one.pairScores.map PairScore.unordered).Perm (other.pairScores.map PairScore.unordered) := by
  have scores : one.pairScore = other.pairScore := by
    funext pair
    induction pair with
    | _ first second => simp [pairScore, countBetween_eq, reordered.countEdges_eq]
  rw [pairScores_unordered, pairScores_unordered, scores]
  exact (unordered_pairs_perm reordered.vertices).map _

theorem summary_eq (reordered : one.Reordered other) :
    (CouplingAnalysis.ofGraph one).summary = (CouplingAnalysis.ofGraph other).summary := by
  have scores : (one.pairScores.map (·.score)).Perm (other.pairScores.map (·.score)) := by
    simpa [Function.comp_def, PairScore.unordered] using reordered.pairs_perm.map (·.2)
  have coupled : (one.pairScores.countP fun pair => 0 < pair.score) =
      other.pairScores.countP fun pair => 0 < pair.score := by
    simpa [List.countP_map, Function.comp_def] using scores.countP_eq fun score => 0 < score
  have classes := reordered.classes_eq
  simp only [CouplingAnalysis.ofGraph] at classes ⊢
  unfold CouplingAnalysis.summarize
  simp only [classes, edgeCount_eq, countByKind_eq, reordered.countEdges_eq, maximum_perm scores, coupled]
  rw [← Array.length_toList, ← Array.length_toList, reordered.edges.length_eq]

end Reordered

end CouplingGraph

namespace Coupling

variable {platform : Platform} {classFiles others : List ClassFile} {one : CouplingGraph}

theorem graphOf_fails_iff (reordered : classFiles.Perm others) :
    (∃ fault, graphOf platform classFiles = .error fault) ↔
      ∃ fault, graphOf platform others = .error fault := by
  rw [(graphOf_succeeds platform classFiles).eq_error_iff, (graphOf_succeeds platform others).eq_error_iff]
  simp only [reordered.mem_iff]

theorem graphOf_reordered (reordered : classFiles.Perm others)
    (built : graphOf platform classFiles = .ok one) :
    ∃ other, graphOf platform others = .ok other ∧ one.Reordered other := by
  have readable := ((graphOf_succeeds platform classFiles).eq_ok_iff.mp built).1
  simp only [reordered.mem_iff] at readable
  have rebuilt := (graphOf_succeeds platform others).eq_ok_iff.mpr ⟨readable, rfl⟩
  have analysed := reordered.filter (·.isAnalysed)
  have records := records_graphOf built
  have reRecords := records_graphOf rebuilt
  exact ⟨_, rebuilt, {
    vertices := by
      rw [records.vertices, reRecords.vertices]
      exact eraseDups_perm (analysed.flatMap_right _)
    edges := by
      rw [records.edges, reRecords.edges]
      exact analysed.flatMap_right _ }⟩

end Coupling

namespace CohesionAnalysis

variable {classFiles others : List ClassFile}

theorem classes_perm (reordered : classFiles.Perm others) :
    (ofClasses classFiles).classes.Perm (ofClasses others).classes := by
  have measured : (Cohesion.ofClasses classFiles).Perm (Cohesion.ofClasses others) :=
    (reordered.filter _).map _
  exact (List.mergeSort_perm _ _).trans (measured.trans (List.mergeSort_perm _ _).symm)

theorem summary_eq (reordered : classFiles.Perm others) :
    (ofClasses classFiles).summary = (ofClasses others).summary := by
  have classes := classes_perm reordered
  have lcoms := classes.map (·.lcom)
  change summarize (ofClasses classFiles).classes = summarize (ofClasses others).classes
  unfold summarize
  rw [classes.length_eq, average_perm lcoms, maximum_perm lcoms, classes.countP_eq]

theorem classes_eq (reordered : classFiles.Perm others)
    (distinct : ((classFiles.filter Cohesion.isMeasured).map (·.key)).Nodup) :
    (ofClasses classFiles).classes = (ofClasses others).classes := by
  apply mergeSort_ranks_eq ((reordered.filter _).map _)
  simpa [Cohesion.ofClasses, Function.comp_def, Cohesion.ofClass] using distinct

end CohesionAnalysis

namespace CombinedAnalysis

variable {platform : Platform} {classFiles others : List ClassFile}

theorem ofClasses_eq_ok {graph : CouplingGraph} (built : Coupling.graphOf platform classFiles = .ok graph) :
    ofClasses platform classFiles =
      .ok { coupling := .ofGraph graph, cohesion := .ofClasses classFiles } := by
  simp [ofClasses, CouplingAnalysis.ofClasses, built, bind, Except.bind, pure, Except.pure]

/-- Classes given in another order: coupling fails or succeeds alike, and then the ranked classes, the
summaries and the scores of pairs are the same. Only classes that share a key can change places among the
ranked classes of the cohesion analysis. -/
theorem ofClasses_independent_of_order (platform : Platform) (reordered : classFiles.Perm others) :
    ((∃ fault, Coupling.graphOf platform classFiles = .error fault) ↔
        ∃ fault, Coupling.graphOf platform others = .error fault) ∧
      ∀ graph, Coupling.graphOf platform classFiles = .ok graph →
        ∃ one other, ofClasses platform classFiles = .ok one ∧ ofClasses platform others = .ok other ∧
          one.coupling.classes = other.coupling.classes ∧ one.coupling.summary = other.coupling.summary ∧
          (one.coupling.pairs.map PairScore.unordered).Perm (other.coupling.pairs.map PairScore.unordered) ∧
          (one.coupling.pairs.map fun pair => s(pair.first, pair.second)).Nodup ∧
          one.cohesion.summary = other.cohesion.summary ∧
          (((classFiles.filter Cohesion.isMeasured).map (·.key)).Nodup →
            one.cohesion.classes = other.cohesion.classes) := by
  constructor
  · exact Coupling.graphOf_fails_iff reordered
  · intro graph built
    obtain ⟨regraph, rebuilt, graphs⟩ := Coupling.graphOf_reordered reordered built
    exact ⟨_, _, ofClasses_eq_ok built, ofClasses_eq_ok rebuilt, graphs.classes_eq, graphs.summary_eq,
      graphs.pairs_perm, graph.pairs_nodup, CohesionAnalysis.summary_eq reordered,
      CohesionAnalysis.classes_eq reordered⟩

/-- Two classes that relate to each other and to a third. -/
def twoClasses : List ClassFile := [
  { name := "p/A"
    superclass := some "p/C"
    accessFlags := 0
    fields := [⟨"f", "Lp/B;"⟩]
    methods := [{ name := "m", descriptor := "(Lp/B;)V", instructions := [], locals := [] }] },
  { name := "p/B"
    superclass := none
    accessFlags := 0
    fields := [⟨"f", "Lp/A;"⟩]
    methods := [
      { name := "m", descriptor := "()V", instructions := [], locals := [] },
      { name := "n", descriptor := "()V", instructions := [], locals := [] }] }]

theorem twoClasses_independent_of_order :
    Coupling.graphOf ⟨[], ""⟩ twoClasses = .ok
        (.recording ["p/A", "p/C", "p/B"] [⟨"p/A", "p/C", .superclass⟩, ⟨"p/A", "p/B", .instanceVariable⟩,
          ⟨"p/A", "p/B", .parameterType⟩, ⟨"p/B", "p/A", .instanceVariable⟩]) ∧
      Coupling.graphOf ⟨[], ""⟩ twoClasses.reverse = .ok
        (.recording ["p/B", "p/A", "p/C"] [⟨"p/B", "p/A", .instanceVariable⟩, ⟨"p/A", "p/C", .superclass⟩,
          ⟨"p/A", "p/B", .instanceVariable⟩, ⟨"p/A", "p/B", .parameterType⟩]) ∧
      ∃ one other, ofClasses ⟨[], ""⟩ twoClasses = .ok one ∧
        ofClasses ⟨[], ""⟩ twoClasses.reverse = .ok other ∧
        one.coupling.classes = other.coupling.classes ∧ one.coupling.summary = other.coupling.summary ∧
        (one.coupling.pairs.map PairScore.unordered).Perm (other.coupling.pairs.map PairScore.unordered) ∧
        one.cohesion.summary = other.cohesion.summary ∧ one.cohesion.classes = other.cohesion.classes := by
  have reordered : twoClasses.Perm twoClasses.reverse := (List.reverse_perm twoClasses).symm
  have built : Coupling.graphOf ⟨[], ""⟩ twoClasses = .ok
      (.recording ["p/A", "p/C", "p/B"] [⟨"p/A", "p/C", .superclass⟩, ⟨"p/A", "p/B", .instanceVariable⟩,
        ⟨"p/A", "p/B", .parameterType⟩, ⟨"p/B", "p/A", .instanceVariable⟩]) := by decide +kernel
  obtain ⟨one, other, analysed, reanalysed, classes, summary, pairs, _, cohesion, ranked⟩ :=
    (ofClasses_independent_of_order ⟨[], ""⟩ reordered).2 _ built
  exact ⟨built, by decide +kernel, one, other, analysed, reanalysed, classes, summary, pairs, cohesion,
    ranked (by decide)⟩

end CombinedAnalysis

end ClassMetrics
