import ClassMetrics.Analyzer
import ClassMetrics.Proofs.Coupling.Occurrences

namespace ClassMetrics

section Walks

variable {ε α β : Type} {passes : α → Prop} {first entry : α} {entries before rest : List α}

/-- The entry at which a walk stops: the first that does not pass. -/
structure StopsAt (passes : α → Prop) (entries before : List α) (entry : α) : Prop where
  placed : ∃ after, entries = before ++ entry :: after
  earlier : ∀ other ∈ before, passes other
  refused : ¬ passes entry

theorem stopsAt_first (refused : ¬ passes first) : StopsAt passes (first :: rest) [] first :=
  ⟨⟨rest, rfl⟩, by simp, refused⟩

theorem StopsAt.cons (stops : StopsAt passes rest before entry) (passed : passes first) :
    StopsAt passes (first :: rest) (first :: before) entry := by
  obtain ⟨after, rfl⟩ := stops.placed
  exact ⟨⟨after, rfl⟩, List.forall_mem_cons.mpr ⟨passed, stops.earlier⟩, stops.refused⟩

/-- A walk that passes over some entries is a walk through all of them in which those pass. -/
theorem StopsAt.of_filter {keeps : α → Bool} (stops : StopsAt passes (entries.filter keeps) before entry) :
    ∃ all, before = all.filter keeps ∧ StopsAt (fun other => keeps other = true → passes other) entries all entry := by
  obtain ⟨after, split⟩ := stops.placed
  obtain ⟨kept, remaining, rfl, rfl, ofRemaining⟩ := List.filter_eq_append_iff.mp split
  obtain ⟨skipped, later, rfl, noneKept, entryKept, _⟩ := List.filter_eq_cons_iff.mp ofRemaining
  refine ⟨kept ++ skipped, ?_, ⟨later, by simp⟩, ?_, fun passed => stops.refused (passed entryKept)⟩
  · simpa using noneKept
  · intro other member isKept
    rcases List.mem_append.mp member with amongKept | amongSkipped
    · exact stops.earlier other (List.mem_filter.mpr ⟨amongKept, isKept⟩)
    · exact absurd isKept (noneKept other amongSkipped)

theorem eq_error_of_bind_pure {result : Except ε α} {next : α → β} {fault : ε}
    (failed : (result >>= fun value => pure (next value)) = .error fault) : result = .error fault := by
  cases result with
  | error reason =>
      cases failed
      rfl
  | ok value => cases failed

theorem exists_stop_of_mapM {read : α → Except ε β} {fault : ε} (failed : entries.mapM read = .error fault) :
    ∃ before entry, StopsAt (fun other => ∃ value, read other = .ok value) entries before entry ∧
      read entry = .error fault := by
  induction entries with
  | nil => cases failed
  | cons first rest ih =>
      rw [List.mapM_cons] at failed
      cases found : read first with
      | error reason =>
          rw [found] at failed
          cases failed
          exact ⟨[], first, stopsAt_first (by simp [found]), found⟩
      | ok value =>
          rw [found] at failed
          obtain ⟨before, entry, stops, refused⟩ := ih (eq_error_of_bind_pure failed)
          exact ⟨first :: before, entry, stops.cons ⟨value, found⟩, refused⟩

end Walks

namespace Coupling

variable {platform : Platform} {graph : CouplingGraph} {classFile : ClassFile} {classFiles : List ClassFile}
  {fault : MethodFault}

/-- The first method of a class that has no parameter list, and what is reported of it. -/
structure FirstFault (classFile : ClassFile) (earlier : List Method) (method : Method) (reason : FormatError)
    (fault : MethodFault) : Prop where
  stops : StopsAt Method.Readable classFile.methods earlier method
  refused : Descriptor.parameters method.descriptor = .error reason
  reported : fault = { className := classFile.name, methodName := method.name, reason }

theorem methodMentions_eq_error {method : Method} (failed : methodMentions classFile method = .error fault) :
    ∃ reason, Descriptor.parameters method.descriptor = .error reason ∧
      fault = { className := classFile.name, methodName := method.name, reason } := by
  unfold methodMentions at failed
  cases found : Descriptor.parameters method.descriptor with
  | error reason =>
      simp only [found] at failed
      exact ⟨reason, rfl, (Except.error.inj failed).symm⟩
  | ok parameters => simp [found] at failed

theorem firstFault_of_addClass (failed : addClass platform graph classFile = .error fault) :
    ∃ earlier method reason, FirstFault classFile earlier method reason fault := by
  have walked : classFile.methods.mapM (methodMentions classFile) = .error fault :=
    eq_error_of_bind_pure (eq_error_of_bind_pure failed)
  obtain ⟨earlier, method, stops, refused⟩ := exists_stop_of_mapM walked
  obtain ⟨reason, rejects, reported⟩ := methodMentions_eq_error refused
  simp only [(methodMentions_succeeds classFile _).exists_ok_iff] at stops
  exact ⟨earlier, method, reason, stops, rejects, reported⟩

theorem exists_stop_of_extractInto (failed : (extractInto platform graph classFiles).2 = .error fault) :
    ∃ before classFile, StopsAt ClassFile.Readable classFiles before classFile ∧
      (∃ earlier method reason, FirstFault classFile earlier method reason fault) ∧
      (extractInto platform graph classFiles).1 = (before ++ [classFile]).map (·.key) := by
  induction classFiles generalizing graph with
  | nil => cases failed
  | cons first rest ih =>
      unfold extractInto at failed ⊢
      rcases addClass_succeeds platform graph first with ⟨readable, added⟩ | ⟨unreadable, reason, added⟩
      · rw [added] at failed ⊢
        obtain ⟨before, classFile, stops, found, observed⟩ := ih failed
        exact ⟨first :: before, classFile, stops.cons readable, found, congrArg (first.key :: ·) observed⟩
      · rw [added] at failed ⊢
        cases failed
        exact ⟨[], first, stopsAt_first unreadable, firstFault_of_addClass added, rfl⟩

theorem not_readable_iff {method : Method} :
    ¬ method.Readable ↔ ∃ reason, Descriptor.parameters method.descriptor = .error reason := by
  unfold Method.Readable
  cases Descriptor.parameters method.descriptor <;> simp

theorem graphOf_fails_iff_refused :
    (∃ fault, graphOf platform classFiles = .error fault) ↔
      ∃ classFile ∈ classFiles, classFile.isModule = false ∧ classFile.key ≠ "" ∧
        ∃ method ∈ classFile.methods, ∃ reason, Descriptor.parameters method.descriptor = .error reason := by
  rw [(graphOf_succeeds platform classFiles).eq_error_iff]
  simp only [← not_readable_iff, ClassFile.Readable, isAnalysed_iff, not_forall, exists_prop, and_assoc]

/-- Extraction fails exactly if an analysed class has a method without a parameter list. It then reports the
first such method and has observed the analysed classes up to that one; otherwise it has observed them all. -/
theorem extract_stops_at_first_fault (platform : Platform) (classFiles : List ClassFile) :
    let extracted := extract platform classFiles
    ((∃ fault, extracted.2 = .error fault) ↔
        ∃ classFile ∈ classFiles, classFile.isModule = false ∧ classFile.key ≠ "" ∧
          ∃ method ∈ classFile.methods, ∃ reason, Descriptor.parameters method.descriptor = .error reason) ∧
      (∀ fault, extracted.2 = .error fault → ∃ before classFile earlier method reason,
        StopsAt (fun other => other.isAnalysed = true → other.Readable) classFiles before classFile ∧
          StopsAt Method.Readable classFile.methods earlier method ∧
          Descriptor.parameters method.descriptor = .error reason ∧
          CouplingAnalysis.ofClasses platform classFiles = .error (.method fault) ∧
          fault.message = classFile.name ++ "." ++ method.name ++ ": " ++ reason.message ∧
          extracted.1 = (before.filter (·.isAnalysed) ++ [classFile]).map (·.key)) ∧
      ∀ graph, extracted.2 = .ok graph → extracted.1 = (classFiles.filter (·.isAnalysed)).map (·.key) := by
  refine ⟨graphOf_fails_iff_refused, fun fault failed => ?_, fun graph => observed_extract⟩
  obtain ⟨kept, classFile, stops, ⟨earlier, method, reason, found⟩, observed⟩ := exists_stop_of_extractInto failed
  obtain ⟨before, rfl, stopsAmongAll⟩ := stops.of_filter
  refine ⟨before, classFile, earlier, method, reason, stopsAmongAll, found.stops, found.refused, ?_, ?_, observed⟩
  · rw [CouplingAnalysis.ofClasses, show graphOf platform classFiles = .error fault from failed]
  · rw [found.reported]
    rfl

/-- A module descriptor that is passed over, and behind it a class with two methods at fault. -/
def faultyClasses : List ClassFile := [
  { name := "p/A", superclass := none, accessFlags := 0, fields := [], methods := [⟨"m", "()V", [], []⟩] },
  { name := "module-info", superclass := none, accessFlags := 0x8000, fields := [],
    methods := [⟨"m", "(Q)V", [], []⟩] },
  { name := "p/A$B", superclass := none, accessFlags := 0, fields := [],
    methods := [⟨"good", "(I[Lp/C;)V", [], []⟩, ⟨"broken", "(Q)V", [], []⟩, ⟨"worse", "", [], []⟩] },
  { name := "p/C", superclass := none, accessFlags := 0, fields := [], methods := [⟨"m", "(", [], []⟩] }]

theorem faultyClasses_stop_at_first_fault :
    (extract ⟨["java/"], "java/lang/Object"⟩ faultyClasses).2 =
        .error ⟨"p/A$B", "broken", .invalidDescriptor "(Q)V"⟩ ∧
      (extract ⟨["java/"], "java/lang/Object"⟩ faultyClasses).1 = ["p/A", "p/A_B"] ∧
      ∃ before classFile earlier method reason,
        StopsAt (fun other => other.isAnalysed = true → other.Readable) faultyClasses before classFile ∧
          StopsAt Method.Readable classFile.methods earlier method ∧
          Descriptor.parameters method.descriptor = .error reason ∧
          CouplingAnalysis.ofClasses ⟨["java/"], "java/lang/Object"⟩ faultyClasses =
            .error (.method ⟨"p/A$B", "broken", .invalidDescriptor "(Q)V"⟩) ∧
          MethodFault.message ⟨"p/A$B", "broken", .invalidDescriptor "(Q)V"⟩ =
            classFile.name ++ "." ++ method.name ++ ": " ++ reason.message ∧
          ["p/A", "p/A_B"] = (before.filter (·.isAnalysed) ++ [classFile]).map (·.key) := by
  have failed : (extract ⟨["java/"], "java/lang/Object"⟩ faultyClasses).2 =
      .error ⟨"p/A$B", "broken", .invalidDescriptor "(Q)V"⟩ := by decide +kernel
  have observed : (extract ⟨["java/"], "java/lang/Object"⟩ faultyClasses).1 = ["p/A", "p/A_B"] := by
    decide +kernel
  refine ⟨failed, observed, ?_⟩
  rw [← observed]
  exact (extract_stops_at_first_fault ⟨["java/"], "java/lang/Object"⟩ faultyClasses).2.1 _ failed

end Coupling

end ClassMetrics
