import ClassMetrics.Proofs.Dot.Unambiguous
import ClassMetrics.Proofs.Run.ResultFiles
import ClassMetrics.Proofs.Text.Utf8
import Mathlib.Data.List.Forall2
import Mathlib.Data.Set.Card

namespace ClassMetrics.Artifact

/-!
Method graphs in an empty directory. A class name gives its file a name by losing the difference between `/` and `_`,
and a file that is written twice keeps what was written last. So each class keeps its graph exactly if no two class
names are the same but for these marks; the scores stand in a file of their own whatever the names are.
-/

open FileSystem (Leads)
open ClassMetrics.Path (Fits PlainName)

def scoresName : String := "sca-cohesion-results.json"

def scoresFile (analysis : CohesionAnalysis) : Artifact :=
  ⟨scoresName, (scoresValue analysis.scores).pretty⟩

def graphFile (entry : ClassCohesion) : Artifact :=
  ⟨methodGraphName entry.className, Dot.ofMethods entry.className entry.methods entry.links⟩

theorem ofCohesion_eq (analysis : CohesionAnalysis) :
    ofCohesion analysis = scoresFile analysis :: analysis.classes.map graphFile := rfl

section Names

def IsDivider (mark : Char) : Prop :=
  mark = '/' ∨ mark = '_'

/-- Class names that are the same but for their dividers. -/
def SameButDividers (first second : String) : Prop :=
  List.Forall₂ (fun mark other => mark = other ∨ IsDivider mark ∧ IsDivider other) first.toList second.toList

theorem divided_eq_iff {mark other : Char} :
    (if mark = '/' then '_' else mark) = (if other = '/' then '_' else other) ↔
      mark = other ∨ IsDivider mark ∧ IsDivider other := by
  unfold IsDivider
  by_cases slash : mark = '/'
  · by_cases otherSlash : other = '/'
    · simp [slash, otherSlash]
    · simp [slash, otherSlash, eq_comm]
  · by_cases otherSlash : other = '/'
    · simp [slash, otherSlash]
    · simp only [slash, otherSlash, if_false, false_or, iff_self_or]
      intro dividers
      exact dividers.1.trans dividers.2.symm

theorem methodGraphName_eq_iff {first second : String} :
    methodGraphName first = methodGraphName second ↔ SameButDividers first second := by
  rw [← String.toList_inj, toList_methodGraphName, toList_methodGraphName, List.append_left_inj,
    ← List.forall₂_eq_eq_eq, List.forall₂_map_left_iff, List.forall₂_map_right_iff]
  simp only [divided_eq_iff]
  rfl

theorem methodGraphName_ne_scoresName (className : String) : methodGraphName className ≠ scoresName := by
  have other : ¬ "_lcom_graph.dot".toList <:+ scoresName.toList := by decide
  intro same
  rw [← same, toList_methodGraphName] at other
  exact other (List.suffix_append _ _)

end Names

section Keeping

variable {artifacts : List Artifact} {artifact : Artifact} {files : FileSystem} {location : Location} {name : String}

theorem exists_held (member : artifact ∈ artifacts) :
    ∃ last ∈ artifacts, last.name = artifact.name ∧ held artifacts artifact.name = some last.asFile := by
  cases found : artifacts.reverse.find? (·.name == artifact.name) with
  | none =>
      have absent := List.find?_eq_none.mp found artifact (List.mem_reverse.mpr member)
      simp at absent
  | some last =>
      have among : last ∈ artifacts := List.mem_reverse.mp (List.mem_of_find?_eq_some found)
      exact ⟨last, among, by simpa using List.find?_some found, by rw [held, found]; rfl⟩

theorem held_of_distinct (distinct : (artifacts.map (·.name)).Nodup) (member : artifact ∈ artifacts) :
    held artifacts artifact.name = some artifact.asFile := by
  obtain ⟨last, among, named, kept⟩ := exists_held member
  rw [kept, List.inj_on_of_nodup_map distinct among member named]

theorem held_file_iff : (∃ content, held artifacts name = some (.file content)) ↔ name ∈ artifacts.map (·.name) := by
  constructor
  · intro found
    obtain ⟨content, kept⟩ := found
    obtain ⟨artifact, member, named⟩ := exists_of_held kept
    exact List.mem_map.mpr ⟨artifact, member, named⟩
  · intro listed
    obtain ⟨artifact, member, rfl⟩ := List.mem_map.mp listed
    obtain ⟨last, _, _, kept⟩ := exists_held member
    exact ⟨_, kept⟩

/-- The files at any depth below a directory, as seen from it. -/
def filesBelow (files : FileSystem) (location : Location) : Set Location :=
  {rest | rest ≠ [] ∧ ∃ content, files.entry? (location ++ rest) = some (.file content)}

theorem filesBelow_deposited (empty : ∀ rest, rest ≠ [] → files.entry? (location ++ rest) = none)
    (artifacts : List Artifact) :
    filesBelow (deposited location files artifacts) location =
      (fun name => [name]) '' {name | name ∈ artifacts.map (·.name)} := by
  ext rest
  simp only [filesBelow, Set.mem_ofPred_eq, Set.mem_image]
  constructor
  · intro holds
    obtain ⟨inside, content, found⟩ := holds
    rw [entry?_deposited_below empty artifacts inside] at found
    rcases rest with _ | ⟨name, _ | ⟨below, deeper⟩⟩
    · exact absurd rfl inside
    · exact ⟨name, held_file_iff.mp ⟨content, found⟩, rfl⟩
    · cases found
  · intro listed
    obtain ⟨name, member, rfl⟩ := listed
    obtain ⟨content, found⟩ := held_file_iff.mpr member
    exact ⟨by simp, content, by rw [entry?_deposited_below empty artifacts (by simp)]; exact found⟩

theorem ncard_filesBelow_eq_iff (empty : ∀ rest, rest ≠ [] → files.entry? (location ++ rest) = none)
    (artifacts : List Artifact) :
    (filesBelow (deposited location files artifacts) location).ncard = artifacts.length ↔
      (artifacts.map (·.name)).Nodup := by
  have single : Function.Injective fun name : String => [name] := by
    intro name other same
    exact List.head_eq_of_cons_eq same
  have count : {name | name ∈ artifacts.map (·.name)}.ncard = (artifacts.map (·.name)).dedup.length := by
    rw [← List.coe_toFinset, Set.ncard_coe_finset, List.card_toFinset]
  have length : artifacts.length = (artifacts.map (·.name)).length := (List.length_map _).symm
  rw [filesBelow_deposited empty, Set.ncard_image_of_injective _ single, count, length]
  constructor
  · intro all
    rw [← List.dedup_eq_self]
    exact (List.dedup_sublist _).eq_of_length all
  · intro distinct
    rw [distinct.dedup]

end Keeping

section Graphs

variable {analysis : CohesionAnalysis} {directory : String} {location : Location} {files after : FileSystem}
  {written : List String}

/-- No two class names are the same but for their dividers. -/
def NamesApart (analysis : CohesionAnalysis) : Prop :=
  analysis.classes.Pairwise fun first second => ¬ SameButDividers first.className second.className

theorem nodup_names_iff : ((ofCohesion analysis).map (·.name)).Nodup ↔ NamesApart analysis := by
  have graphNames : (analysis.classes.map graphFile).map (·.name) =
      analysis.classes.map fun entry => methodGraphName entry.className := by
    rw [List.map_map]
    rfl
  have scoresApart : scoresName ∉ analysis.classes.map fun entry => methodGraphName entry.className := by
    intro member
    obtain ⟨entry, _, same⟩ := List.mem_map.mp member
    exact methodGraphName_ne_scoresName entry.className same
  rw [ofCohesion_eq, List.map_cons, graphNames, List.nodup_cons, NamesApart]
  simp only [← methodGraphName_eq_iff]
  exact (and_iff_right scoresApart).trans List.pairwise_map

/-- What two classes leave in one file tells them apart. -/
theorem asFile_graphFile_inj {first second : ClassCohesion}
    (same : (graphFile first).asFile = (graphFile second).asFile) : first.className = second.className := by
  have document := Text.toUTF8_toList_inj.mp (Entry.file.inj same)
  exact (Dot.ofMethods_inj.mp document).1

theorem kept_iff_namesApart (distinct : (analysis.classes.map (·.className)).Nodup) :
    (∀ entry ∈ analysis.classes,
        held (ofCohesion analysis) (methodGraphName entry.className) = some (graphFile entry).asFile) ↔
      NamesApart analysis := by
  constructor
  · intro kept
    apply (List.pairwise_map.mp distinct).imp_of_mem
    intro first second firstIn secondIn apart shared
    have same : some (graphFile first).asFile = some (graphFile second).asFile := by
      rw [← kept first firstIn, ← kept second secondIn, methodGraphName_eq_iff.mpr shared]
    exact apart (asFile_graphFile_inj (Option.some.inj same))
  · intro apart entry member
    have among : graphFile entry ∈ ofCohesion analysis := List.mem_cons_of_mem _ (List.mem_map_of_mem member)
    exact held_of_distinct (nodup_names_iff.mpr apart) among

theorem held_scoresName (analysis : CohesionAnalysis) :
    held (ofCohesion analysis) scoresName = some (scoresFile analysis).asFile := by
  obtain ⟨last, among, named, kept⟩ := exists_held (ofCohesion_eq analysis ▸ List.mem_cons_self)
  rw [ofCohesion_eq, List.mem_cons] at among
  rcases among with rfl | isGraph
  · exact kept
  · obtain ⟨entry, _, rfl⟩ := List.mem_map.mp isGraph
    exact absurd named (methodGraphName_ne_scoresName entry.className)

/-- Saving into an empty directory leaves the scores, and nothing but the scores and a file for each file name of a
class, all in the directory itself. Each class keeps its own graph, and there are as many files as classes and one
more, exactly if no two class names are the same but for their dividers. -/
theorem graphs_kept_iff_namesApart (leads : files.Leads directory location)
    (empty : ∀ rest, rest ≠ [] → files.entry? (location ++ rest) = none)
    (distinct : (analysis.classes.map (·.className)).Nodup)
    (saved : writeAll directory files (ofCohesion analysis) = (after, .ok written)) :
    after.entry? (location ++ [scoresName]) = some (scoresFile analysis).asFile ∧
      filesBelow after location =
        {rest | rest = [scoresName] ∨ ∃ entry ∈ analysis.classes, rest = [methodGraphName entry.className]} ∧
      ((∀ entry ∈ analysis.classes,
          after.entry? (location ++ [methodGraphName entry.className]) = some (graphFile entry).asFile) ↔
        NamesApart analysis) ∧
      ((filesBelow after location).ncard = analysis.classes.length + 1 ↔ NamesApart analysis) := by
  obtain ⟨rfl, _⟩ := deposited_of_writeAll leads (fun _ => plainName_ofCohesion) saved
  have found (name : String) : FileSystem.entry? (deposited location files (ofCohesion analysis)) (location ++ [name]) =
      held (ofCohesion analysis) name :=
    entry?_deposited_below empty (ofCohesion analysis) (List.cons_ne_nil name [])
  simp only [found]
  refine ⟨held_scoresName analysis, ?_, kept_iff_namesApart distinct, ?_⟩
  · rw [filesBelow_deposited empty, ofCohesion_eq]
    ext rest
    simp [graphFile, scoresFile, eq_comm]
  · rw [← nodup_names_iff, ← ncard_filesBelow_eq_iff empty, ofCohesion_eq]
    simp

/-- Two classes whose names differ in a divider. -/
def sharingAnalysis : CohesionAnalysis := .ofClasses [
  { name := "p/A_B"
    superclass := none
    accessFlags := 0
    fields := []
    methods := [{ name := "m", descriptor := "()V", instructions := [], locals := [] }] },
  { name := "p/A/B", superclass := none, accessFlags := 0, fields := [], methods := [] }]

def emptyOutput : FileSystem where
  entries := [(["out"], .directory)]
  workingDirectory := []

theorem classes_sharingAnalysis :
    sharingAnalysis.classes = [⟨"p/A_B", 1, ["m"], []⟩, ⟨"p/A/B", 0, [], []⟩] :=
  (List.mergeSort_of_pairwise (by decide +kernel)).trans (by decide +kernel)

theorem leads_emptyOutput : emptyOutput.Leads "out" ["out"] :=
  ⟨by decide +kernel, by decide +kernel⟩

theorem emptyOutput_empty (rest : Location) (inside : rest ≠ []) : emptyOutput.entry? (["out"] ++ rest) = none := by
  cases rest with
  | nil => exact absurd rfl inside
  | cons name rest => simp [emptyOutput, List.lookup_cons, FileSystem.entry?]

theorem distinct_sharingAnalysis : (sharingAnalysis.classes.map (·.className)).Nodup := by
  rw [classes_sharingAnalysis]
  decide

theorem saved_sharingAnalysis :
    writeAll "out" emptyOutput (ofCohesion sharingAnalysis) =
      (deposited ["out"] emptyOutput (ofCohesion sharingAnalysis),
        .ok [scoresName, "p_A_B_lcom_graph.dot", "p_A_B_lcom_graph.dot"]) := by
  have names : (ofCohesion sharingAnalysis).map (·.name) =
      [scoresName, "p_A_B_lcom_graph.dot", "p_A_B_lcom_graph.dot"] := by
    rw [ofCohesion_eq, classes_sharingAnalysis]
    decide +kernel
  have short : ∀ name ∈ [scoresName, "p_A_B_lcom_graph.dot", "p_A_B_lcom_graph.dot"],
      '\x00' ∉ name.toList ∧ name.utf8ByteSize ≤ longestName := by decide
  have fits : ∀ artifact ∈ ofCohesion sharingAnalysis, Fits artifact.name := by
    intro artifact member
    exact short _ (names ▸ List.mem_map_of_mem member)
  have free (name : String) : emptyOutput.holdsDirectory (["out"] ++ [name]) = false := by
    rw [FileSystem.holdsDirectory, emptyOutput_empty _ (by simp)]
    rfl
  rw [← names]
  exact writeAll_of_fits (by decide) leads_emptyOutput (fun _ => plainName_ofCohesion) fits free

theorem sharingAnalysis_kept_iff_namesApart :
    emptyOutput.Leads "out" ["out"] ∧
      (∀ rest, rest ≠ [] → emptyOutput.entry? (["out"] ++ rest) = none) ∧
      (sharingAnalysis.classes.map (·.className)).Nodup ∧
      ∃ after written, writeAll "out" emptyOutput (ofCohesion sharingAnalysis) = (after, .ok written) ∧
        after.entry? (["out"] ++ [scoresName]) = some (scoresFile sharingAnalysis).asFile ∧
        ((∀ entry ∈ sharingAnalysis.classes,
            after.entry? (["out"] ++ [methodGraphName entry.className]) = some (graphFile entry).asFile) ↔
          NamesApart sharingAnalysis) ∧
        ((filesBelow after ["out"]).ncard = sharingAnalysis.classes.length + 1 ↔ NamesApart sharingAnalysis) := by
  obtain ⟨scores, _, kept, count⟩ :=
    graphs_kept_iff_namesApart leads_emptyOutput emptyOutput_empty distinct_sharingAnalysis saved_sharingAnalysis
  exact ⟨leads_emptyOutput, emptyOutput_empty, distinct_sharingAnalysis, _, _, saved_sharingAnalysis, scores, kept,
    count⟩

/-- Saving reports three files and leaves two: one of the classes has lost its graph. -/
theorem shared_file_loses_graph :
    (sharingAnalysis.classes.map (·.className)).Nodup ∧
      ∃ after written, writeAll "out" emptyOutput (ofCohesion sharingAnalysis) = (after, .ok written) ∧
        written.length = sharingAnalysis.classes.length + 1 ∧
        (filesBelow after ["out"]).ncard ≠ sharingAnalysis.classes.length + 1 ∧
        ∃ entry ∈ sharingAnalysis.classes,
          after.entry? (["out"] ++ [methodGraphName entry.className]) ≠ some (graphFile entry).asFile := by
  have shared : ¬ NamesApart sharingAnalysis := by
    rw [NamesApart, classes_sharingAnalysis]
    intro apart
    exact List.rel_of_pairwise_cons apart List.mem_cons_self (methodGraphName_eq_iff.mp (by decide +kernel))
  refine ⟨distinct_sharingAnalysis, _, _, saved_sharingAnalysis, ?_, ?_, ?_⟩
  · rw [classes_sharingAnalysis]
    rfl
  · intro all
    apply shared
    rw [← nodup_names_iff, ← ncard_filesBelow_eq_iff emptyOutput_empty, all, ofCohesion_eq]
    simp
  · by_contra lost
    apply shared
    rw [← kept_iff_namesApart distinct_sharingAnalysis]
    intro entry member
    by_contra missing
    refine lost ⟨entry, member, ?_⟩
    rwa [entry?_deposited_below emptyOutput_empty _ (by simp)]

end Graphs

end ClassMetrics.Artifact
