import ClassMetrics.Cohesion.Analysis
import ClassMetrics.Proofs.Coupling.Totals

namespace ClassMetrics

/-!
Limits and who exceeds them. Whether a limit is exceeded is read off the maximum of the scores, and who is named
off a list beside it: the head of a ranking, or the last of the highest scores. Both are held to the scores of the
classes themselves, so that a limit is reported exactly if a class or a pair of classes exceeds it, and the one
that is named has the score that is reported.
-/

section Maximum

variable {numbers : List Nat} {limit : Nat}

theorem foldl_max_le_iff (start : Nat) :
    numbers.foldl max start ≤ limit ↔ start ≤ limit ∧ ∀ number ∈ numbers, number ≤ limit := by
  induction numbers generalizing start with
  | nil => simp
  | cons number rest ih => rw [List.foldl_cons, ih, Nat.max_le, List.forall_mem_cons, and_assoc]

theorem lt_maximum_iff : limit < maximum numbers ↔ ∃ number ∈ numbers, limit < number := by
  have bounded : maximum numbers ≤ limit ↔ ∀ number ∈ numbers, number ≤ limit := by
    rw [maximum, foldl_max_le_iff]
    simp
  rw [← Nat.not_le, bounded]
  simp

theorem maximum_eq {highest : Nat} (member : highest ∈ numbers)
    (bound : ∀ number ∈ numbers, number ≤ highest) : maximum numbers = highest := by
  apply Nat.le_antisymm
  · exact (foldl_max_le_iff 0).mpr ⟨Nat.zero_le _, bound⟩
  · exact ((foldl_max_le_iff 0).mp (Nat.le_refl _)).2 highest member

end Maximum

section Ranked

variable {α β : Type} {entries : List α} {view : α → β} {score : β → Nat} {name : β → String} {limit : Nat}

theorem lt_maximum_ranked_iff :
    limit < maximum (((entries.map view).mergeSort (ranks score name)).map score) ↔
      ∃ entry ∈ entries, limit < score (view entry) := by
  rw [lt_maximum_iff]
  simp

/-- If a limit is exceeded, the ranking has a head, and its score is the maximum. -/
theorem exists_leader (exceeded : limit < maximum (((entries.map view).mergeSort (ranks score name)).map score)) :
    ∃ leader, Foremost (score ∘ view) (name ∘ view) entries leader ∧
      ((entries.map view).mergeSort (ranks score name)).head? = some (view leader) ∧
      maximum (((entries.map view).mergeSort (ranks score name)).map score) = score (view leader) := by
  cases head : ((entries.map view).mergeSort (ranks score name)).head? with
  | none => simp [List.head?_eq_none_iff.mp head, maximum] at exceeded
  | some first =>
      have foremost := foremost_head?_mergeSort head
      obtain ⟨leader, given, rfl⟩ := List.mem_map.mp foremost.member
      have ranked : view leader ∈ (entries.map view).mergeSort (ranks score name) :=
        List.mem_mergeSort.mpr foremost.member
      refine ⟨leader, ⟨given, ?_, ?_⟩, rfl, maximum_eq (List.mem_map_of_mem ranked) ?_⟩
      · exact fun entry entryIn => foremost.highest _ (List.mem_map_of_mem entryIn)
      · exact fun entry entryIn => foremost.first _ (List.mem_map_of_mem entryIn)
      · intro number numberIn
        obtain ⟨entry, entryIn, rfl⟩ := List.mem_map.mp numberIn
        exact foremost.highest entry (List.mem_mergeSort.mp entryIn)

end Ranked

section Last

variable {α : Type}

/-- The highest score, and of those who have it the last in the list. -/
def LastHighest (score : α → Nat) (entries : List α) (last : α) : Prop :=
  ∃ before after, entries = before ++ last :: after ∧ (∀ entry ∈ before, score entry ≤ score last) ∧
    ∀ entry ∈ after, score entry < score last

variable {score : α → Nat} {entries : List α} {last entry : α}

theorem LastHighest.highest (isLast : LastHighest score entries last) :
    ∀ entry ∈ entries, score entry ≤ score last := by
  obtain ⟨before, after, rfl, earlier, later⟩ := isLast
  intro entry entryIn
  rcases List.mem_append.mp entryIn with isBefore | isAfter
  · exact earlier entry isBefore
  · rcases List.mem_cons.mp isAfter with rfl | isAfter
    · exact Nat.le_refl _
    · exact Nat.le_of_lt (later entry isAfter)

theorem LastHighest.maximum_eq (isLast : LastHighest score entries last) :
    maximum (entries.map score) = score last := by
  have member : last ∈ entries := by
    obtain ⟨before, after, rfl, _, _⟩ := isLast
    simp
  apply ClassMetrics.maximum_eq (List.mem_map_of_mem member)
  simpa using isLast.highest

theorem LastHighest.replaced (isLast : LastHighest score entries last) (reached : score last ≤ score entry) :
    LastHighest score (entries ++ [entry]) entry :=
  ⟨entries, [], rfl, fun other otherIn => Nat.le_trans (isLast.highest other otherIn) reached, by simp⟩

theorem LastHighest.kept (isLast : LastHighest score entries last) (lower : score entry < score last) :
    LastHighest score (entries ++ [entry]) last := by
  obtain ⟨before, after, rfl, earlier, later⟩ := isLast
  refine ⟨before, after ++ [entry], by simp, earlier, ?_⟩
  simpa [or_imp, forall_and, lower] using later

end Last

namespace CouplingAnalysis

/-- What the search for the worst pair holds after the pairs that it has seen. -/
theorem worstPair?_eq (analysis : CouplingAnalysis) :
    analysis.pairs = [] ∨ ∃ worst, analysis.worstPair? = some worst ∧ LastHighest (·.score) analysis.pairs worst := by
  unfold worstPair?
  induction analysis.pairs using List.reverseRecOn with
  | nil => exact .inl rfl
  | append_singleton pairs pair ih =>
      rw [List.foldl_concat]
      rcases ih with rfl | ⟨held, found, isLast⟩
      · exact .inr ⟨pair, rfl, [], [], rfl, by simp, by simp⟩
      · rw [found]
        by_cases reached : held.score ≤ pair.score
        · exact .inr ⟨pair, if_pos reached, isLast.replaced reached⟩
        · exact .inr ⟨held, if_neg reached, isLast.kept (Nat.lt_of_not_le reached)⟩

theorem maxPairCbo_ofGraph (graph : CouplingGraph) :
    (ofGraph graph).summary.maxPairCbo = maximum (graph.pairScores.map (·.score)) := rfl

end CouplingAnalysis

namespace CouplingLimits

variable (limits : CouplingLimits) (graph : CouplingGraph)

def ExceededByClass : Prop :=
  0 < limits.perClass ∧ ∃ name ∈ graph.vertices, limits.perClass < graph.cbo name

def ExceededByPair : Prop :=
  0 < limits.perPair ∧ ∃ first ∈ graph.vertices, ∃ second ∈ graph.vertices, first ≠ second ∧
    limits.perPair < graph.countBetween first second + graph.countBetween second first

variable {limits graph}

theorem exceededByClass_iff :
    limits.ExceededByClass graph ↔
      0 < limits.perClass ∧ limits.perClass < (CouplingAnalysis.ofGraph graph).summary.maxCbo := by
  have some_iff : limits.perClass < (CouplingAnalysis.ofGraph graph).summary.maxCbo ↔
      ∃ name ∈ graph.vertices.toList, limits.perClass < graph.cbo name := lt_maximum_ranked_iff
  simp only [ExceededByClass, some_iff, Array.mem_toList_iff]

theorem exceededByPair_iff :
    limits.ExceededByPair graph ↔
      0 < limits.perPair ∧ limits.perPair < (CouplingAnalysis.ofGraph graph).summary.maxPairCbo := by
  have some_iff : limits.perPair < (CouplingAnalysis.ofGraph graph).summary.maxPairCbo ↔
      ∃ pair ∈ pairs graph.vertices.toList,
        limits.perPair < graph.countBetween pair.1 pair.2 + graph.countBetween pair.2 pair.1 := by
    rw [CouplingAnalysis.maxPairCbo_ofGraph, lt_maximum_iff]
    simp [CouplingGraph.pairScores]
  rw [ExceededByPair, some_iff]
  refine and_congr_right fun _ => ⟨?_, ?_⟩
  · intro found
    obtain ⟨first, firstIn, second, secondIn, different, exceeds⟩ := found
    rcases mem_pairs_or_mem_pairs (Array.mem_toList_iff.mpr firstIn) (Array.mem_toList_iff.mpr secondIn) different
      with forth | back
    · exact ⟨_, forth, exceeds⟩
    · exact ⟨_, back, Nat.add_comm _ _ ▸ exceeds⟩
  · intro found
    obtain ⟨⟨first, second⟩, listed, exceeds⟩ := found
    obtain ⟨firstIn, secondIn⟩ := mem_of_mem_pairs listed
    refine ⟨first, Array.mem_toList_iff.mp firstIn, second, Array.mem_toList_iff.mp secondIn, ?_, exceeds⟩
    rintro rfl
    exact Nat.lt_irrefl _ (idxOf_lt_of_mem_pairs graph.vertices_nodup listed)

end CouplingLimits

namespace CouplingAnalysis

variable {limits : CouplingLimits} {graph : CouplingGraph}

theorem violation?_of_class (exceeded : limits.ExceededByClass graph) :
    ∃ worst, Foremost graph.cbo id graph.vertices.toList worst ∧
      (ofGraph graph).violation? limits = some (.cbo (graph.cbo worst) worst limits.perClass) := by
  have beyond := CouplingLimits.exceededByClass_iff.mp exceeded
  obtain ⟨worst, foremost, head, highest⟩ := exists_leader beyond.2
  have named : (ofGraph graph).classes.head? = some (ClassCoupling.ofGraph graph worst) := head
  have score : (ofGraph graph).summary.maxCbo = graph.cbo worst := highest
  refine ⟨worst, foremost, ?_⟩
  rw [violation?, if_pos beyond, named, score]
  rfl

theorem violation?_of_pair (within : ¬ limits.ExceededByClass graph)
    (exceeded : limits.ExceededByPair graph) :
    ∃ worst, LastHighest (·.score) graph.pairScores worst ∧
      (ofGraph graph).violation? limits =
        some (.pairCbo worst.score worst.first worst.second limits.perPair) := by
  have beyond := CouplingLimits.exceededByPair_iff.mp exceeded
  rw [CouplingLimits.exceededByClass_iff] at within
  rcases (ofGraph graph).worstPair?_eq with none | ⟨worst, found, isLast⟩
  · have noPair : graph.pairScores = [] := none
    rw [maxPairCbo_ofGraph, noPair] at beyond
    exact absurd beyond.2 (Nat.not_lt_zero _)
  · have score : (ofGraph graph).summary.maxPairCbo = worst.score := isLast.maximum_eq
    refine ⟨worst, isLast, ?_⟩
    rw [violation?, if_neg within, if_pos beyond, found, score]
    rfl

theorem violation?_eq_none (noClass : ¬ limits.ExceededByClass graph)
    (noPair : ¬ limits.ExceededByPair graph) : (ofGraph graph).violation? limits = none := by
  rw [CouplingLimits.exceededByClass_iff] at noClass
  rw [CouplingLimits.exceededByPair_iff] at noPair
  rw [violation?, if_neg noClass, if_neg noPair]

end CouplingAnalysis

namespace CohesionAnalysis

variable {classFiles : List ClassFile} {limit : Nat}

def Exceeded (limit : Nat) (classFiles : List ClassFile) : Prop :=
  0 < limit ∧ ∃ classFile ∈ classFiles, classFile.isModule = false ∧ classFile.name ≠ "" ∧
    limit < (Cohesion.ofClass classFile).lcom

theorem exceeded_iff : Exceeded limit classFiles ↔ 0 < limit ∧ limit < (ofClasses classFiles).summary.maxLcom := by
  have some_iff : limit < (ofClasses classFiles).summary.maxLcom ↔
      ∃ classFile ∈ classFiles.filter Cohesion.isMeasured, limit < (Cohesion.ofClass classFile).lcom :=
    lt_maximum_ranked_iff
  rw [Exceeded, some_iff]
  simp [Cohesion.isMeasured, and_assoc]

theorem violation?_of_exceeded (exceeded : Exceeded limit classFiles) :
    ∃ worst, Foremost (fun classFile => (Cohesion.ofClass classFile).lcom) ClassFile.key
        (classFiles.filter Cohesion.isMeasured) worst ∧
      (ofClasses classFiles).violation? limit = some (.lcom (Cohesion.ofClass worst).lcom worst.key limit) := by
  have beyond := exceeded_iff.mp exceeded
  obtain ⟨worst, foremost, head, highest⟩ := exists_leader beyond.2
  have named : (ofClasses classFiles).classes.head? = some (Cohesion.ofClass worst) := head
  have score : (ofClasses classFiles).summary.maxLcom = (Cohesion.ofClass worst).lcom := highest
  refine ⟨worst, foremost, ?_⟩
  rw [violation?, if_pos beyond, named, score]
  rfl

theorem violation?_eq_none (within : ¬ Exceeded limit classFiles) :
    (ofClasses classFiles).violation? limit = none := by
  rw [exceeded_iff] at within
  rw [violation?, if_neg within]

end CohesionAnalysis

namespace Violation

open CouplingGraph

/-- A violation is reported exactly if a class or a pair of classes exceeds its limit. Classes come before pairs.
What is named has the highest score: of classes the first in string order, of pairs the last in their order. -/
theorem reported_of_worst (additions : List Addition) (limits : CouplingLimits) (classFiles : List ClassFile)
    (lcomLimit : Nat) :
    let graph := after additions
    let coupling := (CouplingAnalysis.ofGraph graph).violation? limits
    let cohesion := (CohesionAnalysis.ofClasses classFiles).violation? lcomLimit
    (coupling.isSome ↔ limits.ExceededByClass graph ∨ limits.ExceededByPair graph) ∧
      (limits.ExceededByClass graph → ∃ worst, Foremost graph.cbo id graph.vertices.toList worst ∧
        coupling = some (.cbo (graph.cbo worst) worst limits.perClass)) ∧
      (¬ limits.ExceededByClass graph → limits.ExceededByPair graph →
        ∃ worst, LastHighest (·.score) graph.pairScores worst ∧
          coupling = some (.pairCbo worst.score worst.first worst.second limits.perPair)) ∧
      (cohesion.isSome ↔ CohesionAnalysis.Exceeded lcomLimit classFiles) ∧
      (CohesionAnalysis.Exceeded lcomLimit classFiles →
        ∃ worst, Foremost (fun classFile => (Cohesion.ofClass classFile).lcom) ClassFile.key
            (classFiles.filter Cohesion.isMeasured) worst ∧
          cohesion = some (.lcom (Cohesion.ofClass worst).lcom worst.key lcomLimit)) := by
  intro graph coupling cohesion
  refine ⟨?_, CouplingAnalysis.violation?_of_class, CouplingAnalysis.violation?_of_pair, ?_,
    CohesionAnalysis.violation?_of_exceeded⟩
  · by_cases ofClass : limits.ExceededByClass graph
    · obtain ⟨worst, _, reported⟩ := CouplingAnalysis.violation?_of_class ofClass
      simp [coupling, reported, ofClass]
    · by_cases ofPair : limits.ExceededByPair graph
      · obtain ⟨worst, _, reported⟩ := CouplingAnalysis.violation?_of_pair ofClass ofPair
        simp [coupling, reported, ofPair]
      · simp [coupling, CouplingAnalysis.violation?_eq_none ofClass ofPair, ofClass, ofPair]
  · by_cases exceeded : CohesionAnalysis.Exceeded lcomLimit classFiles
    · obtain ⟨worst, _, reported⟩ := CohesionAnalysis.violation?_of_exceeded exceeded
      simp [cohesion, reported, exceeded]
    · simp [cohesion, CohesionAnalysis.violation?_eq_none exceeded, exceeded]

/-- The classes `b` and `a` have one score, and so have the pairs `b`, `a` and `b`, `c`. -/
def tiedAdditions : List Addition :=
  [.edge ⟨"b", "a", .callsMethod⟩, .edge ⟨"b", "c", .callsMethod⟩, .edge ⟨"a", "b", .superclass⟩,
    .edge ⟨"a", "c", .superclass⟩, .edge ⟨"b", "c", .localVariable⟩]

/-- Two classes of two unrelated methods each. -/
def scatteredClasses : List ClassFile :=
  ["p/B", "p/A"].map fun name =>
    { name, superclass := none, accessFlags := 0, fields := [],
      methods := ["m", "n"].map fun name => { name, descriptor := "()V", instructions := [], locals := [] } }

theorem ties_reported_of_worst :
    let graph := after tiedAdditions
    (CouplingLimits.ExceededByClass ⟨1, 1⟩ graph ∧ ∃ worst, Foremost graph.cbo id graph.vertices.toList worst ∧
        (CouplingAnalysis.ofGraph graph).violation? ⟨1, 1⟩ = some (.cbo (graph.cbo worst) worst 1)) ∧
      (¬ CouplingLimits.ExceededByClass ⟨2, 1⟩ graph ∧ CouplingLimits.ExceededByPair ⟨2, 1⟩ graph ∧
        ∃ worst, LastHighest (·.score) graph.pairScores worst ∧
          (CouplingAnalysis.ofGraph graph).violation? ⟨2, 1⟩ =
            some (.pairCbo worst.score worst.first worst.second 1)) ∧
      CohesionAnalysis.Exceeded 1 scatteredClasses ∧
        ∃ worst, Foremost (fun classFile => (Cohesion.ofClass classFile).lcom) ClassFile.key
            (scatteredClasses.filter Cohesion.isMeasured) worst ∧
          (CohesionAnalysis.ofClasses scatteredClasses).violation? 1 =
            some (.lcom (Cohesion.ofClass worst).lcom worst.key 1) := by
  intro graph
  have scores : graph.cbo "a" = 2 ∧ graph.cbo "b" = 2 ∧ graph.cbo "c" = 0 := by
    simp only [cbo_eq_card]
    decide +kernel
  have byClass : CouplingLimits.ExceededByClass ⟨1, 1⟩ graph :=
    ⟨by decide, "a", by decide +kernel, by rw [scores.1]; decide⟩
  have noClass : ¬ CouplingLimits.ExceededByClass ⟨2, 1⟩ graph := by
    rintro ⟨_, name, listed, exceeds⟩
    have vertices : graph.vertices = #["b", "a", "c"] := by decide +kernel
    have exceeds : 2 < graph.cbo name := exceeds
    simp only [vertices, List.mem_toArray, List.mem_cons, List.not_mem_nil, or_false] at listed
    rcases listed with rfl | rfl | rfl <;> omega
  have byPair : CouplingLimits.ExceededByPair ⟨2, 1⟩ graph :=
    ⟨by decide, "b", by decide +kernel, "c", by decide +kernel, by decide, by decide +kernel⟩
  have scattered : CohesionAnalysis.Exceeded 1 scatteredClasses :=
    ⟨by decide, _, List.mem_cons_self, by decide, by decide, by decide +kernel⟩
  obtain ⟨_, classes, _, _, cohesion⟩ := reported_of_worst tiedAdditions ⟨1, 1⟩ scatteredClasses 1
  obtain ⟨_, _, pairs, _⟩ := reported_of_worst tiedAdditions ⟨2, 1⟩ scatteredClasses 1
  exact ⟨⟨byClass, classes byClass⟩, ⟨noClass, byPair, pairs noClass byPair⟩, scattered, cohesion scattered⟩

end Violation

end ClassMetrics
