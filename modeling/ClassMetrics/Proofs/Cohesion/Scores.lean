import ClassMetrics.Cohesion.Analysis
import ClassMetrics.Proofs.Data.Keyed
import ClassMetrics.Proofs.Data.Ranking

namespace ClassMetrics

/-!
Scores by class when several classes have one key. Both ways to collect them let the last entry of a key count. The
classes as they are given end with the last one of the key; the ranked classes fall in LCOM, so that they end with the
least one of the key.
-/

section Descending

variable {numbers others : List Nat}

theorem getLast?_eq_min? (descending : numbers.Pairwise (· ≥ ·)) : numbers.getLast? = numbers.min? := by
  cases last : numbers.getLast? with
  | none =>
      rw [List.getLast?_eq_none_iff.mp last]
      rfl
  | some least =>
      obtain ⟨front, rfl⟩ := List.getLast?_eq_some_iff.mp last
      apply Eq.symm
      rw [List.min?_eq_some_iff]
      refine ⟨by simp, ?_⟩
      intro number member
      rcases List.mem_append.mp member with earlier | isLast
      · exact (List.pairwise_append.mp descending).2.2 number earlier least (List.mem_singleton_self least)
      · exact Nat.le_of_eq (List.mem_singleton.mp isLast).symm

theorem min?_perm (reordered : numbers.Perm others) : numbers.min? = others.min? := by
  cases least : others.min? with
  | none =>
      rw [List.min?_eq_none_iff] at least ⊢
      exact (least ▸ reordered).eq_nil
  | some number =>
      rw [List.min?_eq_some_iff] at least ⊢
      simpa only [reordered.mem_iff] using least

end Descending

namespace Cohesion

variable {classFiles : List ClassFile} {key : String}

/-- The measured classes of one key, in the order given. -/
def namesakes (classFiles : List ClassFile) (key : String) : List ClassFile :=
  (classFiles.filter isMeasured).filter fun classFile => classFile.key == key

def lcomOf (classFile : ClassFile) : Nat :=
  (ofClass classFile).lcom

theorem get?_scores (key : String) (entries : List ClassCohesion) :
    Keyed.get? key (scores entries) =
      ((entries.filter fun entry => entry.className == key).map (·.lcom)).getLast? := by
  rw [scores, Keyed.get?_ofList, List.filter_map, List.getLast?_map, List.getLast?_map, Option.map_map]
  rfl

theorem filter_ofClasses (classFiles : List ClassFile) (key : String) :
    ((ofClasses classFiles).filter fun entry => entry.className == key).map (·.lcom) =
      (namesakes classFiles key).map lcomOf := by
  rw [ofClasses, List.filter_map, List.map_map]
  rfl

/-- Classes of one key that are ranked fall in LCOM. -/
theorem descending_ranked (entries : List ClassCohesion) (key : String) :
    (((entries.mergeSort precedes).filter fun entry => entry.className == key).map (·.lcom)).Pairwise (· ≥ ·) := by
  have ranked : (entries.mergeSort precedes).Pairwise fun first second => precedes first second = true :=
    List.pairwise_mergeSort (fun _ _ _ => ranks_trans) ranks_total entries
  rw [List.pairwise_map]
  apply (ranked.filter _).imp
  intro first second ahead
  rcases ranks_iff.mp ahead with higher | ⟨level, _⟩
  · exact Nat.le_of_lt higher
  · exact Nat.le_of_eq level.symm

theorem get?_scores_ofClasses (classFiles : List ClassFile) (key : String) :
    Keyed.get? key (scores (ofClasses classFiles)) = (namesakes classFiles key).getLast?.map lcomOf := by
  rw [get?_scores, filter_ofClasses, List.getLast?_map]

theorem get?_scores_ranked (classFiles : List ClassFile) (key : String) :
    Keyed.get? key (CohesionAnalysis.ofClasses classFiles).scores =
      ((namesakes classFiles key).map lcomOf).min? := by
  have reordered : (((ofClasses classFiles).mergeSort precedes).filter fun entry => entry.className == key).Perm
      ((ofClasses classFiles).filter fun entry => entry.className == key) :=
    (List.mergeSort_perm _ _).filter _
  rw [← filter_ofClasses, ← min?_perm (reordered.map _), ← getLast?_eq_min? (descending_ranked _ key), ← get?_scores]
  rfl

theorem mem_of_get?_scores {last : Nat} (found : Keyed.get? key (scores (ofClasses classFiles)) = some last) :
    last ∈ (namesakes classFiles key).map lcomOf := by
  rw [get?_scores_ofClasses, Option.map_eq_some_iff] at found
  obtain ⟨classFile, isLast, rfl⟩ := found
  exact List.mem_map_of_mem (List.mem_of_getLast? isLast)

theorem ranked_le_of_get?_scores {last least : Nat}
    (found : Keyed.get? key (scores (ofClasses classFiles)) = some last)
    (foundRanked : Keyed.get? key (CohesionAnalysis.ofClasses classFiles).scores = some least) : least ≤ last := by
  rw [get?_scores_ranked, List.min?_eq_some_iff] at foundRanked
  exact foundRanked.2 last (mem_of_get?_scores found)

theorem isSome_get?_scores (classFiles : List ClassFile) (key : String) :
    (Keyed.get? key (CohesionAnalysis.ofClasses classFiles).scores).isSome =
      (Keyed.get? key (scores (ofClasses classFiles))).isSome := by
  rw [get?_scores_ranked, get?_scores_ofClasses]
  cases namesakes classFiles key with
  | nil => rfl
  | cons first rest => simp [List.min?_cons]

theorem namesakes_unique (distinct : ((classFiles.filter isMeasured).map (·.key)).Nodup) {first second : ClassFile}
    (firstNamed : first ∈ namesakes classFiles key) (secondNamed : second ∈ namesakes classFiles key) :
    first = second := by
  obtain ⟨firstIn, firstKey⟩ := List.mem_filter.mp firstNamed
  obtain ⟨secondIn, secondKey⟩ := List.mem_filter.mp secondNamed
  exact List.inj_on_of_nodup_map distinct firstIn secondIn
    ((beq_iff_eq.mp firstKey).trans (beq_iff_eq.mp secondKey).symm)

theorem get?_scores_of_distinct (distinct : ((classFiles.filter isMeasured).map (·.key)).Nodup) (key : String) :
    Keyed.get? key (CohesionAnalysis.ofClasses classFiles).scores =
      Keyed.get? key (scores (ofClasses classFiles)) := by
  cases found : Keyed.get? key (scores (ofClasses classFiles)) with
  | none =>
      rw [← Option.not_isSome_iff_eq_none, isSome_get?_scores, found]
      simp
  | some last =>
      rw [get?_scores_ranked, List.min?_eq_some_iff]
      refine ⟨mem_of_get?_scores found, ?_⟩
      intro lcom member
      obtain ⟨lastFile, lastNamed, rfl⟩ := List.mem_map.mp (mem_of_get?_scores found)
      obtain ⟨classFile, named, rfl⟩ := List.mem_map.mp member
      exact Nat.le_of_eq (congrArg lcomOf (namesakes_unique distinct lastNamed named))

/-- Of classes with one key the scores as given hold the last one's LCOM and those of the analysis the least. So both
have the same keys, the analysis never holds the greater score, and they agree if no key repeats. -/
theorem scores_last_and_least (classFiles : List ClassFile) :
    (∀ key, Keyed.get? key (scores (ofClasses classFiles)) = (namesakes classFiles key).getLast?.map lcomOf) ∧
      (∀ key, Keyed.get? key (CohesionAnalysis.ofClasses classFiles).scores =
        ((namesakes classFiles key).map lcomOf).min?) ∧
      (CohesionAnalysis.ofClasses classFiles).scores.map (·.1) = (scores (ofClasses classFiles)).map (·.1) ∧
      (∀ key last least, Keyed.get? key (scores (ofClasses classFiles)) = some last →
        Keyed.get? key (CohesionAnalysis.ofClasses classFiles).scores = some least → least ≤ last) ∧
      (((classFiles.filter isMeasured).map (·.key)).Nodup →
        (CohesionAnalysis.ofClasses classFiles).scores = scores (ofClasses classFiles)) := by
  have increasing : Keyed.Increasing (scores (ofClasses classFiles)) := Keyed.increasing_ofList _
  have rankedIncreasing : Keyed.Increasing (CohesionAnalysis.ofClasses classFiles).scores :=
    Keyed.increasing_ofList _
  have keys := Keyed.keys_eq_of_isSome_eq rankedIncreasing increasing (isSome_get?_scores classFiles)
  refine ⟨get?_scores_ofClasses classFiles, get?_scores_ranked classFiles, keys, ?_, ?_⟩
  · intro key last least
    exact ranked_le_of_get?_scores
  · intro distinct
    exact Keyed.eq_of_get?_eq rankedIncreasing increasing (get?_scores_of_distinct distinct)

/-- A class with methods that have nothing to do with each other. -/
def unrelatedMethods (name : String) (methods : List String) : ClassFile where
  name := name
  superclass := none
  accessFlags := 0
  fields := []
  methods := methods.map fun method => { name := method, descriptor := "()V", instructions := [], locals := [] }

/-- A nested class and one that is named like its key: the last of the two is not the least. -/
theorem repeatedKey_scores_last_and_least :
    Keyed.get? "p/A_B" (scores (ofClasses
        [unrelatedMethods "p/A$B" ["m"], unrelatedMethods "p/A_B" ["m", "n"]])) = some 2 ∧
      Keyed.get? "p/A_B" (CohesionAnalysis.ofClasses
        [unrelatedMethods "p/A$B" ["m"], unrelatedMethods "p/A_B" ["m", "n"]]).scores = some 1 ∧
      (([unrelatedMethods "p/A$B" ["m"], unrelatedMethods "p/C" ["m", "n"]].filter isMeasured).map (·.key)).Nodup ∧
      (CohesionAnalysis.ofClasses [unrelatedMethods "p/A$B" ["m"], unrelatedMethods "p/C" ["m", "n"]]).scores =
        scores (ofClasses [unrelatedMethods "p/A$B" ["m"], unrelatedMethods "p/C" ["m", "n"]]) := by
  have distinct :
      (([unrelatedMethods "p/A$B" ["m"], unrelatedMethods "p/C" ["m", "n"]].filter isMeasured).map (·.key)).Nodup := by
    decide +kernel
  obtain ⟨last, least, _⟩ :=
    scores_last_and_least [unrelatedMethods "p/A$B" ["m"], unrelatedMethods "p/A_B" ["m", "n"]]
  refine ⟨?_, ?_, distinct, (scores_last_and_least _).2.2.2.2 distinct⟩
  · rw [last]
    decide +kernel
  · rw [least]
    decide +kernel

end Cohesion

end ClassMetrics
