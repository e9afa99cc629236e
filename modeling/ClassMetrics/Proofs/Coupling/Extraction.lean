import ClassMetrics.Coupling.Extraction
import ClassMetrics.Proofs.Coupling.Graph

namespace ClassMetrics

section Outcomes

variable {ε α β : Type} {valid : Prop} {value : α} {result : Except ε α}

/-- The result is `value` if `valid` holds, and a failure otherwise. -/
def SucceedsIff (valid : Prop) (value : α) (result : Except ε α) : Prop :=
  (valid ∧ result = .ok value) ∨ (¬ valid ∧ ∃ reason, result = .error reason)

namespace SucceedsIff

theorem eq_ok_iff (succeeds : SucceedsIff valid value result) {outcome : α} :
    result = .ok outcome ↔ valid ∧ outcome = value := by
  rcases succeeds with ⟨holds, rfl⟩ | ⟨fails, reason, rfl⟩
  · simp [holds, eq_comm]
  · simp [fails]

theorem eq_error_iff (succeeds : SucceedsIff valid value result) :
    (∃ reason, result = .error reason) ↔ ¬ valid := by
  rcases succeeds with ⟨holds, rfl⟩ | ⟨fails, reason, rfl⟩
  · simp [holds]
  · simp [fails]

theorem exists_ok_iff (succeeds : SucceedsIff valid value result) :
    (∃ outcome, result = .ok outcome) ↔ valid := by
  simp [succeeds.eq_ok_iff]

theorem bind_pure (succeeds : SucceedsIff valid value result) (next : α → β) :
    SucceedsIff valid (next value) (result >>= fun outcome => pure (next outcome)) := by
  rcases succeeds with ⟨holds, rfl⟩ | ⟨fails, reason, rfl⟩
  · exact .inl ⟨holds, rfl⟩
  · exact .inr ⟨fails, reason, rfl⟩

theorem mapM {read : α → Except ε β} {Valid : α → Prop} {value : α → β}
    (reads : ∀ entry, SucceedsIff (Valid entry) (value entry) (read entry)) (entries : List α) :
    SucceedsIff (∀ entry ∈ entries, Valid entry) (entries.map value) (entries.mapM read) := by
  induction entries with
  | nil => exact .inl ⟨by simp, rfl⟩
  | cons entry rest ih =>
      rw [List.mapM_cons]
      rcases reads entry with ⟨first, read⟩ | ⟨first, reason, read⟩
      · rcases ih with ⟨later, readRest⟩ | ⟨later, reason, readRest⟩
        · exact .inl ⟨List.forall_mem_cons.mpr ⟨first, later⟩, by rw [read, readRest]; rfl⟩
        · exact .inr ⟨fun all => later (List.forall_mem_cons.mp all).2, reason, by rw [read, readRest]; rfl⟩
      · exact .inr ⟨fun all => first (List.forall_mem_cons.mp all).1, reason, by rw [read]; rfl⟩

end SucceedsIff

end Outcomes

def Method.Readable (method : Method) : Prop :=
  ∃ parameters, Descriptor.parameters method.descriptor = .ok parameters

def Method.parameters (method : Method) : List String :=
  (Descriptor.parameters method.descriptor).toOption.getD []

def ClassFile.Readable (classFile : ClassFile) : Prop :=
  ∀ method ∈ classFile.methods, method.Readable

namespace Coupling

def mentionsOf (method : Method) : List (String × RelationKind) :=
  method.instructions.filterMap mentioned? ++
    method.locals.map (fun entry => (Descriptor.classKey entry.descriptor, .localVariable)) ++
    method.parameters.map (fun parameter => (Descriptor.classKey parameter, .parameterType))

def relationsOf (platform : Platform) (classFile : ClassFile) : List Relation :=
  superclassRelation platform classFile ++
    admitted platform classFile.key (fieldMentions classFile ++ classFile.methods.flatMap mentionsOf)

/-- The graph with a class and its relations. -/
def place (platform : Platform) (graph : CouplingGraph) (classFile : ClassFile) : CouplingGraph :=
  (relationsOf platform classFile).foldl CouplingGraph.relate (graph.ensure classFile.key)

theorem methodMentions_succeeds (classFile : ClassFile) (method : Method) :
    SucceedsIff method.Readable (mentionsOf method) (methodMentions classFile method) := by
  unfold SucceedsIff methodMentions Method.Readable mentionsOf Method.parameters
  cases Descriptor.parameters method.descriptor with
  | error reason => exact .inr ⟨by simp, _, rfl⟩
  | ok parameters => exact .inl ⟨⟨parameters, rfl⟩, rfl⟩

theorem classRelations_succeeds (platform : Platform) (classFile : ClassFile) :
    SucceedsIff classFile.Readable (relationsOf platform classFile) (classRelations platform classFile) := by
  have mentions := SucceedsIff.mapM (methodMentions_succeeds classFile) classFile.methods
  have relations := mentions.bind_pure fun mentions => superclassRelation platform classFile ++
    admitted platform classFile.key (fieldMentions classFile ++ mentions.flatten)
  rwa [← List.flatMap_def] at relations

theorem addClass_succeeds (platform : Platform) (graph : CouplingGraph) (classFile : ClassFile) :
    SucceedsIff classFile.Readable (place platform graph classFile) (addClass platform graph classFile) :=
  (classRelations_succeeds platform classFile).bind_pure _

theorem extractInto_succeeds (platform : Platform) (graph : CouplingGraph) (classFiles : List ClassFile) :
    SucceedsIff (∀ classFile ∈ classFiles, classFile.Readable) (classFiles.foldl (place platform) graph)
      (extractInto platform graph classFiles).2 := by
  induction classFiles generalizing graph with
  | nil => exact .inl ⟨by simp, rfl⟩
  | cons classFile rest ih =>
      unfold extractInto
      rcases addClass_succeeds platform graph classFile with ⟨first, added⟩ | ⟨first, fault, added⟩
      · rw [added]
        rcases ih (place platform graph classFile) with ⟨later, extracted⟩ | ⟨later, failed⟩
        · exact .inl ⟨List.forall_mem_cons.mpr ⟨first, later⟩, extracted⟩
        · exact .inr ⟨fun all => later (List.forall_mem_cons.mp all).2, failed⟩
      · rw [added]
        exact .inr ⟨fun all => first (List.forall_mem_cons.mp all).1, fault, rfl⟩

/-- The graph of the analysed classes, one after another. -/
theorem graphOf_succeeds (platform : Platform) (classFiles : List ClassFile) :
    SucceedsIff (∀ classFile ∈ classFiles, classFile.isAnalysed → classFile.Readable)
      ((classFiles.filter (·.isAnalysed)).foldl (place platform) .empty)
      (graphOf platform classFiles) := by
  have extracted := extractInto_succeeds platform .empty (classFiles.filter (·.isAnalysed))
  simp only [List.forall_mem_filter] at extracted
  exact extracted

section Observed

variable {platform : Platform} {graph : CouplingGraph} {classFiles : List ClassFile}

theorem observed_extractInto {start : CouplingGraph}
    (built : (extractInto platform start classFiles).2 = .ok graph) :
    (extractInto platform start classFiles).1 = classFiles.map (·.key) := by
  induction classFiles generalizing start with
  | nil => rfl
  | cons classFile rest ih =>
      unfold extractInto at built ⊢
      cases added : addClass platform start classFile with
      | error fault => simp [added] at built
      | ok next =>
          simp only [added] at built ⊢
          rw [ih built, List.map_cons]

theorem observed_extract (built : graphOf platform classFiles = .ok graph) :
    (extract platform classFiles).1 = (classFiles.filter (·.isAnalysed)).map (·.key) :=
  observed_extractInto built

end Observed

/-- The names that placing a class mentions: its own, then the ends of its relations. -/
def namesOf (platform : Platform) (classFile : ClassFile) : List String :=
  classFile.key :: (relationsOf platform classFile).flatMap fun relation => [relation.source, relation.target]

section Records

variable {platform : Platform} {graph : CouplingGraph} {names : List String} {relations : List Relation}

theorem records_place (records : graph.Records names relations) (classFile : ClassFile) :
    (place platform graph classFile).Records (names ++ namesOf platform classFile)
      (relations ++ relationsOf platform classFile) := by
  have placed := (records.ensure classFile.key).foldl_relate (relationsOf platform classFile)
  rwa [List.append_assoc] at placed

theorem records_foldl_place (records : graph.Records names relations) (classFiles : List ClassFile) :
    (classFiles.foldl (place platform) graph).Records (names ++ classFiles.flatMap (namesOf platform))
      (relations ++ classFiles.flatMap (relationsOf platform)) := by
  induction classFiles generalizing graph names relations with
  | nil => simpa using records
  | cons classFile rest ih => simpa using ih (records_place records classFile)

theorem records_graphOf {classFiles : List ClassFile} (built : graphOf platform classFiles = .ok graph) :
    graph.Records ((classFiles.filter (·.isAnalysed)).flatMap (namesOf platform))
      ((classFiles.filter (·.isAnalysed)).flatMap (relationsOf platform)) := by
  obtain ⟨_, rfl⟩ := (graphOf_succeeds platform classFiles).eq_ok_iff.mp built
  exact records_foldl_place .empty _

end Records

end Coupling

end ClassMetrics
