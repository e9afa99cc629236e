import ClassMetrics.Proofs.Files.Writing

namespace ClassMetrics.Artifact

open FileSystem (Leads)
open ClassMetrics.Path (Fits PlainName)

section Names

theorem toList_methodGraphName (className : String) :
    (methodGraphName className).toList =
      (className.toList.map fun mark => if mark = '/' then '_' else mark) ++ "_lcom_graph.dot".toList := by
  simp [methodGraphName]

theorem plainName_methodGraphName (className : String) : PlainName (methodGraphName className) := by
  apply PlainName.of_long
  · rw [toList_methodGraphName, List.mem_append, not_or]
    refine ⟨fun member => ?_, by decide⟩
    obtain ⟨mark, _, same⟩ := List.mem_map.mp member
    split at same
    · exact absurd same (by decide)
    · exact absurd same ‹_›
  · have size : "_lcom_graph.dot".toList.length = 15 := by decide
    rw [toList_methodGraphName, List.length_append, size]
    omega

def couplingNames : List String :=
  ["sca-coupling-cbo-results.json", "sca-coupling-pair-cbo-results.json", "coupling_graph.dot"]

theorem name_mem_couplingNames {analysis : CouplingAnalysis} {artifact : Artifact}
    (member : artifact ∈ ofCoupling analysis) : artifact.name ∈ couplingNames := by
  have names : (ofCoupling analysis).map (·.name) = couplingNames := rfl
  rw [← names]
  exact List.mem_map_of_mem member

theorem name_cases {analysis : CohesionAnalysis} {artifact : Artifact} (member : artifact ∈ ofCohesion analysis) :
    artifact.name = "sca-cohesion-results.json" ∨ ∃ className, artifact.name = methodGraphName className := by
  simp only [ofCohesion, List.mem_cons, List.mem_map] at member
  rcases member with rfl | ⟨entry, _, rfl⟩
  · exact .inl rfl
  · exact .inr ⟨entry.className, rfl⟩

theorem plainName_ofCoupling {analysis : CouplingAnalysis} {artifact : Artifact}
    (member : artifact ∈ ofCoupling analysis) : PlainName artifact.name := by
  have plain : ∀ name ∈ couplingNames, '/' ∉ name.toList ∧ 2 < name.toList.length := by decide
  obtain ⟨noSlash, long⟩ := plain _ (name_mem_couplingNames member)
  exact .of_long noSlash long

theorem plainName_ofCohesion {analysis : CohesionAnalysis} {artifact : Artifact}
    (member : artifact ∈ ofCohesion analysis) : PlainName artifact.name := by
  rcases name_cases member with scores | ⟨className, graph⟩
  · rw [scores]
    exact .of_long (by decide) (by decide)
  · rw [graph]
    exact plainName_methodGraphName className

theorem name_ne_of_coupling_of_cohesion {coupling : CouplingAnalysis} {cohesion : CohesionAnalysis}
    {first second : Artifact} (among : first ∈ ofCoupling coupling) (member : second ∈ ofCohesion cohesion) :
    first.name ≠ second.name := by
  have other : ∀ name ∈ couplingNames,
      name ≠ "sca-cohesion-results.json" ∧ ¬ "_lcom_graph.dot".toList <:+ name.toList := by decide
  obtain ⟨notScores, notGraph⟩ := other _ (name_mem_couplingNames among)
  intro same
  rcases name_cases member with scores | ⟨className, graph⟩
  · exact notScores (same.trans scores)
  · rw [same, graph, toList_methodGraphName] at notGraph
    exact notGraph (List.suffix_append _ _)

end Names

section Saving

variable {directory : String} {location : Location} {files after : FileSystem} {artifacts more : List Artifact}
  {name : String}

def asFile (artifact : Artifact) : Entry :=
  .file artifact.content.toUTF8.toList

/-- The files with the artifacts among them. -/
def deposited (location : Location) (files : FileSystem) (artifacts : List Artifact) : FileSystem :=
  artifacts.foldl (fun files artifact => files.put (location ++ [artifact.name]) artifact.asFile) files

/-- Of artifacts with one name, the last stays. -/
def held (artifacts : List Artifact) (name : String) : Option Entry :=
  (artifacts.reverse.find? (·.name == name)).map asFile

theorem held_append (artifacts more : List Artifact) (name : String) :
    held (artifacts ++ more) name = (held more name).or (held artifacts name) := by
  simp [held, List.find?_append, Option.map_or]

theorem held_singleton (artifact : Artifact) (name : String) :
    held [artifact] name = if artifact.name = name then some artifact.asFile else none := by
  by_cases same : artifact.name = name <;> simp [held, same]

theorem exists_of_held {entry : Entry} (found : held artifacts name = some entry) :
    ∃ artifact ∈ artifacts, artifact.name = name := by
  obtain ⟨artifact, last, _⟩ := Option.map_eq_some_iff.mp found
  exact ⟨artifact, List.mem_reverse.mp (List.mem_of_find?_eq_some last), by simpa using List.find?_some last⟩

theorem entry?_deposited (location : Location) (files : FileSystem) (artifacts : List Artifact) (name : String) :
    FileSystem.entry? (deposited location files artifacts) (location ++ [name]) =
      (held artifacts name).or (files.entry? (location ++ [name])) := by
  induction artifacts generalizing files with
  | nil => simp [deposited, held]
  | cons artifact rest ih =>
      rw [← List.singleton_append, held_append, held_singleton, List.singleton_append]
      change FileSystem.entry? (deposited location (files.put (location ++ [artifact.name]) artifact.asFile) rest) _ = _
      rw [ih]
      by_cases same : artifact.name = name
      · simp [same, FileSystem.entry?_put_self]
      · have different : location ++ [name] ≠ location ++ [artifact.name] := by simpa using Ne.symm same
        simp [same, FileSystem.entry?_put_other different]

theorem entry?_deposited_other {place : Location} (outside : ∀ name, place ≠ location ++ [name]) (files : FileSystem)
    (artifacts : List Artifact) :
    FileSystem.entry? (deposited location files artifacts) place = files.entry? place := by
  induction artifacts generalizing files with
  | nil => rfl
  | cons artifact rest ih =>
      have first := @FileSystem.entry?_put_other files _ _ (outside artifact.name) artifact.asFile
      exact (ih _).trans first

/-- What artifacts leave at a place below their directory. -/
def heldAt (artifacts : List Artifact) : Location → Option Entry
  | [name] => held artifacts name
  | _ => none

theorem entry?_deposited_below (empty : ∀ rest, rest ≠ [] → files.entry? (location ++ rest) = none)
    (artifacts : List Artifact) {rest : Location} (inside : rest ≠ []) :
    FileSystem.entry? (deposited location files artifacts) (location ++ rest) = heldAt artifacts rest := by
  rcases rest with _ | ⟨name, _ | ⟨below, deeper⟩⟩
  · exact absurd rfl inside
  · rw [entry?_deposited, empty _ inside, Option.or_none]
    rfl
  · rw [entry?_deposited_other (by simp), empty _ inside]
    rfl

theorem heldAt_append (apart : ∀ artifact ∈ artifacts, ∀ other ∈ more, artifact.name ≠ other.name) (rest : Location) :
    heldAt (artifacts ++ more) rest = (heldAt artifacts rest).or (heldAt more rest) ∧
      (heldAt artifacts rest = none ∨ heldAt more rest = none) := by
  rcases rest with _ | ⟨name, _ | ⟨below, deeper⟩⟩
  · simp [heldAt]
  · simp only [heldAt]
    rw [held_append]
    cases first : held artifacts name with
    | none => simp
    | some entry =>
        cases second : held more name with
        | none => simp
        | some later =>
            obtain ⟨artifact, among, named⟩ := exists_of_held first
            obtain ⟨other, member, alike⟩ := exists_of_held second
            exact absurd (named.trans alike.symm) (apart artifact among other member)
  · simp [heldAt]

theorem writeAll_refused {artifact : Artifact} {reason : IoError} (rest : List Artifact)
    (refused : files.writeText (Path.join directory artifact.name) artifact.content = .error reason) :
    writeAll directory files (artifact :: rest) = (files, .error (.io reason)) := by
  unfold writeAll
  rw [refused]

theorem writeAll_written {artifact : Artifact} (rest : List Artifact)
    (wrote : files.writeText (Path.join directory artifact.name) artifact.content = .ok after) :
    writeAll directory files (artifact :: rest) =
      ((writeAll directory after rest).1, (writeAll directory after rest).2.map (artifact.name :: ·)) := by
  conv_lhs => unfold writeAll
  rw [wrote]

theorem writeAll_of_fits (clean : '\x00' ∉ directory.toList) (leads : files.Leads directory location)
    (plain : ∀ artifact ∈ artifacts, PlainName artifact.name) (fits : ∀ artifact ∈ artifacts, Fits artifact.name)
    (free : ∀ name, files.holdsDirectory (location ++ [name]) = false) :
    writeAll directory files artifacts = (deposited location files artifacts, .ok (artifacts.map (·.name))) := by
  induction artifacts generalizing files with
  | nil => rfl
  | cons artifact rest ih =>
      obtain ⟨firstPlain, restPlain⟩ := List.forall_mem_cons.mp plain
      obtain ⟨firstFits, restFits⟩ := List.forall_mem_cons.mp fits
      have firstFree := free artifact.name
      have wrote : files.writeText (Path.join directory artifact.name) artifact.content =
          .ok (files.put (location ++ [artifact.name]) artifact.asFile) :=
        (FileSystem.writeText_join_eq_ok_iff leads firstPlain).mpr ⟨clean, firstFits, firstFree, rfl⟩
      have others := ih (leads.put_file firstFree artifact.content.toUTF8.toList) restPlain restFits fun name => by
        rw [FileSystem.holdsDirectory_put_file firstFree, free name]
      rw [writeAll_written rest wrote, asFile, others]
      rfl

theorem deposited_of_writeAll {names : List String} (leads : files.Leads directory location)
    (plain : ∀ artifact ∈ artifacts, PlainName artifact.name)
    (written : writeAll directory files artifacts = (after, .ok names)) :
    after = deposited location files artifacts ∧ ∀ artifact ∈ artifacts, Fits artifact.name := by
  induction artifacts generalizing files names with
  | nil =>
      cases written
      exact ⟨rfl, by simp⟩
  | cons artifact rest ih =>
      obtain ⟨firstPlain, restPlain⟩ := List.forall_mem_cons.mp plain
      cases wrote : files.writeText (Path.join directory artifact.name) artifact.content with
      | error reason =>
          rw [writeAll_refused rest wrote] at written
          cases written
      | ok next =>
          obtain ⟨_, firstFits, firstFree, rfl⟩ := (FileSystem.writeText_join_eq_ok_iff leads firstPlain).mp wrote
          cases others : writeAll directory (files.put (location ++ [artifact.name]) artifact.asFile) rest with
          | mk final outcome =>
              rw [writeAll_written rest wrote, ← asFile, others] at written
              cases outcome with
              | error failure => cases written
              | ok written =>
                  cases written
                  obtain ⟨same, restFits⟩ := ih (leads.put_file firstFree _) restPlain others
                  exact ⟨same, List.forall_mem_cons.mpr ⟨firstFits, restFits⟩⟩

theorem writeAll_ne_threshold (directory : String) (files : FileSystem) (artifacts : List Artifact)
    (violation : Violation) : (writeAll directory files artifacts).2 ≠ .error (.threshold violation) := by
  induction artifacts generalizing files with
  | nil => intro same; cases same
  | cons artifact rest ih =>
      cases wrote : files.writeText (Path.join directory artifact.name) artifact.content with
      | error reason =>
          rw [writeAll_refused rest wrote]
          intro same
          cases same
      | ok next =>
          rw [writeAll_written rest wrote]
          cases others : (writeAll directory next rest).2 with
          | error failure =>
              intro same
              cases same
              exact ih next others
          | ok names => intro same; cases same

end Saving

end ClassMetrics.Artifact
