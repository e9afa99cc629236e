import ClassMetrics.Proofs.ClassFile.Keys
import ClassMetrics.Proofs.Coupling.Exclusion
import ClassMetrics.Proofs.Reordering

namespace ClassMetrics

/-!
Which classes the two analyses look at. Both pass over module descriptors. Beyond that coupling asks for a key
and cohesion for a name, and a name need not have a key: an array of something that is no class has none. Such
classes are measured under the empty key and are no vertices, and nothing else keeps the analyses apart.
-/

/-- The keys of the classes that are measured, in the order in which they are. -/
def Cohesion.observed (classFiles : List ClassFile) : List String :=
  (ofClasses classFiles).map (·.className)

/-- A class that is measured and has no key. -/
def ClassFile.Keyless (classFile : ClassFile) : Prop :=
  classFile.isModule = false ∧ InternalName.ArrayOfNoClass classFile.name

namespace Coupling

variable {platform : Platform} {classFile : ClassFile} {classFiles : List ClassFile} {graph : CouplingGraph}

theorem isAnalysed_eq_isMeasured (classFile : ClassFile) :
    classFile.isAnalysed = (Cohesion.isMeasured classFile && classFile.key != "") := by
  have named : classFile.key ≠ "" → classFile.name ≠ "" := by
    intro keyed unnamed
    exact keyed (InternalName.classKey_eq_empty_iff.mpr (.inl unnamed))
  rw [Bool.eq_iff_iff]
  simp only [ClassFile.isAnalysed, Cohesion.isMeasured, Bool.and_eq_true, Bool.not_eq_true', bne_iff_ne]
  tauto

theorem observed_extract_eq_filter (built : graphOf platform classFiles = .ok graph) :
    (extract platform classFiles).1 = (Cohesion.observed classFiles).filter (· != "") := by
  rw [observed_extract built, Cohesion.observed, Cohesion.ofClasses, List.map_map, List.filter_map,
    List.filter_filter]
  congr 1
  apply List.filter_congr
  intro classFile _
  rw [isAnalysed_eq_isMeasured, Bool.and_comm]
  rfl

theorem empty_mem_observed_iff :
    "" ∈ Cohesion.observed classFiles ↔ ∃ classFile ∈ classFiles, classFile.Keyless := by
  have keyless_iff (classFile : ClassFile) :
      Cohesion.isMeasured classFile = true ∧ classFile.key = "" ↔ classFile.Keyless := by
    have named : InternalName.ArrayOfNoClass classFile.name → classFile.name ≠ "" := by
      rintro ⟨depth, element, parts, _⟩ unnamed
      simp [unnamed] at parts
    simp only [Cohesion.isMeasured, ClassFile.Keyless, ClassFile.key, InternalName.classKey_eq_empty_iff,
      Bool.and_eq_true, Bool.not_eq_true', bne_iff_ne]
    tauto
  simp only [Cohesion.observed, Cohesion.ofClasses, List.map_map, List.mem_map, List.mem_filter, ← keyless_iff,
    Function.comp_apply, Cohesion.ofClass, and_assoc]

theorem named_of_mem_vertices (built : graphOf platform classFiles = .ok graph) {name : String}
    (member : name ∈ graph.vertices) : name ≠ "" := by
  rw [(records_graphOf built).mem_vertices] at member
  obtain ⟨classFile, analysed, mentioned⟩ := List.mem_flatMap.mp member
  rcases mem_namesOf_iff.mp mentioned with rfl | ⟨relation, related, rfl⟩
  · exact (isAnalysed_iff.mp (List.mem_filter.mp analysed).2).2
  · obtain ⟨_, counts, _⟩ := mem_relationsOf_iff.mp related
    cases kind : relation.kind <;> rw [kind] at counts <;> exact counts.1

theorem mem_vertices_of_observed (built : graphOf platform classFiles = .ok graph) {name : String}
    (observed : name ∈ (extract platform classFiles).1) : name ∈ graph.vertices := by
  rw [observed_extract built] at observed
  obtain ⟨classFile, analysed, rfl⟩ := List.mem_map.mp observed
  rw [(records_graphOf built).mem_vertices]
  exact List.mem_flatMap.mpr ⟨classFile, analysed, mem_namesOf_iff.mpr (.inl rfl)⟩

end Coupling

namespace CombinedAnalysis

open Coupling

variable {platform : Platform} {classFiles : List ClassFile} {graph : CouplingGraph} {name : String}

theorem mem_couplingNames :
    name ∈ (CouplingAnalysis.ofGraph graph).classes.map (·.className) ↔ name ∈ graph.vertices := by
  simp [CouplingAnalysis.ofGraph, ClassCoupling.ofGraph]

theorem mem_cohesionNames :
    name ∈ (CohesionAnalysis.ofClasses classFiles).classes.map (·.className) ↔
      name ∈ Cohesion.observed classFiles := by
  simp [CohesionAnalysis.ofClasses, Cohesion.observed]

/-- Coupling observes what cohesion observes less the empty key. So the two observe the same, and every class of
the cohesion part is one of the coupling part, exactly if no class is named as an array of no class. -/
theorem classes_shared_iff_keyed (built : graphOf platform classFiles = .ok graph) :
    (extract platform classFiles).1 = (Cohesion.observed classFiles).filter (· != "") ∧
      ((extract platform classFiles).1 = Cohesion.observed classFiles ↔
        ¬ ∃ classFile ∈ classFiles, classFile.Keyless) ∧
      ∃ analysis, ofClasses platform classFiles = .ok analysis ∧
        ((∀ entry ∈ analysis.cohesion.classes,
            entry.className ∈ analysis.coupling.classes.map (·.className)) ↔
          ¬ ∃ classFile ∈ classFiles, classFile.Keyless) := by
  have filtered := observed_extract_eq_filter built
  refine ⟨filtered, ?_, _, ofClasses_eq_ok built, ?_⟩
  · rw [filtered, List.filter_eq_self, ← empty_mem_observed_iff]
    constructor
    · intro keyed empty
      simpa using keyed "" empty
    · intro keyed name observed
      rw [bne_iff_ne]
      rintro rfl
      exact keyed observed
  · rw [← empty_mem_observed_iff, ← List.forall_mem_map (P := (· ∈ _))]
    simp only [mem_couplingNames, mem_cohesionNames]
    constructor
    · intro shared empty
      exact named_of_mem_vertices built (shared "" empty) rfl
    · intro keyed name observed
      apply mem_vertices_of_observed built
      rw [filtered, List.mem_filter, bne_iff_ne]
      refine ⟨observed, ?_⟩
      rintro rfl
      exact keyed observed

/-- A class of its own, an array of numbers and an array of a class. -/
def arrayClasses : List ClassFile := [
  { name := "p/A", superclass := some "p/B", accessFlags := 0, fields := [], methods := [] },
  { name := "[[I", superclass := none, accessFlags := 0, fields := [], methods := [] },
  { name := "[Lp/C;", superclass := none, accessFlags := 0, fields := [], methods := [] }]

def arrayGraph : CouplingGraph := .recording ["p/A", "p/B", "p/C"] [⟨"p/A", "p/B", .superclass⟩]

theorem arrayClasses_shared_iff_keyed :
    graphOf ⟨["java/"], "java/lang/Object"⟩ arrayClasses = .ok arrayGraph ∧
      Cohesion.observed arrayClasses = ["p/A", "", "p/C"] ∧
      (extract ⟨["java/"], "java/lang/Object"⟩ arrayClasses).1 =
        (Cohesion.observed arrayClasses).filter (· != "") ∧
      ((extract ⟨["java/"], "java/lang/Object"⟩ arrayClasses).1 = Cohesion.observed arrayClasses ↔
        ¬ ∃ classFile ∈ arrayClasses, classFile.Keyless) ∧
      ∃ analysis, ofClasses ⟨["java/"], "java/lang/Object"⟩ arrayClasses = .ok analysis ∧
        ((∀ entry ∈ analysis.cohesion.classes,
            entry.className ∈ analysis.coupling.classes.map (·.className)) ↔
          ¬ ∃ classFile ∈ arrayClasses, classFile.Keyless) :=
  have built : graphOf ⟨["java/"], "java/lang/Object"⟩ arrayClasses = .ok arrayGraph := by decide +kernel
  ⟨built, by decide +kernel, classes_shared_iff_keyed built⟩

/-- The array of numbers is observed by cohesion alone, and is a class of the cohesion part alone. -/
theorem array_of_numbers_only_measured :
    graphOf ⟨["java/"], "java/lang/Object"⟩ arrayClasses = .ok arrayGraph ∧
      (extract ⟨["java/"], "java/lang/Object"⟩ arrayClasses).1 ≠ Cohesion.observed arrayClasses ∧
      ∃ analysis, ofClasses ⟨["java/"], "java/lang/Object"⟩ arrayClasses = .ok analysis ∧
        ∃ entry ∈ analysis.cohesion.classes,
          entry.className ∉ analysis.coupling.classes.map (·.className) := by
  have built : graphOf ⟨["java/"], "java/lang/Object"⟩ arrayClasses = .ok arrayGraph := by decide +kernel
  have measured : "" ∈ (CohesionAnalysis.ofClasses arrayClasses).classes.map (·.className) := by
    rw [mem_cohesionNames]
    decide +kernel
  obtain ⟨entry, member, unnamed⟩ := List.mem_map.mp measured
  refine ⟨built, by decide +kernel, _, ofClasses_eq_ok built, entry, member, ?_⟩
  rw [unnamed, mem_couplingNames]
  decide +kernel

end CombinedAnalysis

end ClassMetrics
