import ClassMetrics.Proofs.Coupling.Extraction

namespace ClassMetrics

/-!
The edges of the coupling graph, counted without it. For every kind of relation the places where a class
mentions another are listed straight from the class file, and the graph has one edge for each place whose
target counts for that kind.
-/

def calledOwner? : Instruction → Option String
  | .invoke _ method => some (InternalName.classKey method.owner)
  | _ => none

def accessedOwner? : Instruction → Option String
  | .access _ field => some (InternalName.classKey field.owner)
  | _ => none

def Method.mentions (method : Method) : RelationKind → List String
  | .callsMethod => method.instructions.filterMap calledOwner?
  | .accessPublicVariable => method.instructions.filterMap accessedOwner?
  | .localVariable => method.locals.map fun entry => Descriptor.classKey entry.descriptor
  | .parameterType => method.parameters.map Descriptor.classKey
  | _ => []

/-- The class keys that a class mentions in one way, once for each place. -/
def ClassFile.mentions (classFile : ClassFile) : RelationKind → List String
  | .superclass => classFile.superclass.toList.map InternalName.classKey
  | .instanceVariable => classFile.fields.map fun field => Descriptor.classKey field.descriptor
  | kind => classFile.methods.flatMap (·.mentions kind)

namespace Coupling

/-- Which mentions count. Superclasses are held back by the root class alone, all else by the class itself and
by the platform. -/
def Counts (platform : Platform) (source target : String) : RelationKind → Prop
  | .superclass => target ≠ "" ∧ target ≠ InternalName.classKey platform.root
  | _ => target ≠ "" ∧ target ≠ source ∧ ∀ start ∈ platform.starts, ¬ start.toList <+: target.toList

instance (platform : Platform) (source target : String) :
    (kind : RelationKind) → Decidable (Counts platform source target kind)
  | .superclass => inferInstanceAs (Decidable (_ ∧ _))
  | .instanceVariable | .callsMethod | .localVariable | .parameterType | .accessPublicVariable =>
      inferInstanceAs (Decidable (_ ∧ _ ∧ _))

def occurrences (platform : Platform) (classFiles : List ClassFile) (source target : String)
    (kind : RelationKind) : Nat :=
  if Counts platform source target kind then
    ((classFiles.filter fun classFile => !classFile.isModule && source != "" && classFile.key == source).flatMap
      (·.mentions kind)).count target
  else 0

variable {platform : Platform} {classFile : ClassFile} {source target : String} {kind : RelationKind}

section Kinds

def ofKind (kind : RelationKind) (mentions : List (String × RelationKind)) : List String :=
  mentions.filterMap fun mention => if mention.2 = kind then some mention.1 else none

theorem count_ofKind (mentions : List (String × RelationKind)) :
    (ofKind kind mentions).count target = mentions.count (target, kind) := by
  unfold ofKind
  rw [List.count_filterMap, List.count]
  apply List.countP_congr
  intro mention _
  obtain ⟨mentioned, mentionKind⟩ := mention
  by_cases same : mentionKind = kind <;> simp [same]

theorem ofKind_append (first second : List (String × RelationKind)) :
    ofKind kind (first ++ second) = ofKind kind first ++ ofKind kind second :=
  List.filterMap_append

theorem ofKind_map {α : Type} (entries : List α) (key : α → String) (other : RelationKind) :
    ofKind kind (entries.map fun entry => (key entry, other)) =
      if other = kind then entries.map key else [] := by
  unfold ofKind
  by_cases same : other = kind <;> simp [same]

theorem ofKind_instructions (instructions : List Instruction) :
    ofKind kind (instructions.filterMap mentioned?) =
      match kind with
      | .callsMethod => instructions.filterMap calledOwner?
      | .accessPublicVariable => instructions.filterMap accessedOwner?
      | _ => [] := by
  unfold ofKind
  rw [List.filterMap_filterMap]
  cases kind with
  | callsMethod | accessPublicVariable =>
      apply List.filterMap_congr
      intro instruction _
      cases instruction <;> rfl
  | superclass | instanceVariable | localVariable | parameterType =>
      apply List.filterMap_eq_nil_iff.mpr
      intro instruction _
      cases instruction <;> rfl

theorem ofKind_mentionsOf (method : Method) : ofKind kind (mentionsOf method) = method.mentions kind := by
  unfold mentionsOf
  rw [ofKind_append, ofKind_append, ofKind_instructions, ofKind_map, ofKind_map]
  cases kind <;> simp [Method.mentions]

theorem ofKind_flatMap_mentionsOf (methods : List Method) :
    ofKind kind (methods.flatMap mentionsOf) = methods.flatMap (·.mentions kind) := by
  induction methods with
  | nil => rfl
  | cons method rest ih => rw [List.flatMap_cons, List.flatMap_cons, ofKind_append, ofKind_mentionsOf, ih]

/-- Everything but the superclass, by kind. -/
theorem ofKind_members (classFile : ClassFile) :
    ofKind kind (fieldMentions classFile ++ classFile.methods.flatMap mentionsOf) =
      if kind = .superclass then [] else classFile.mentions kind := by
  rw [ofKind_append, ofKind_flatMap_mentionsOf, fieldMentions, ofKind_map]
  cases kind <;> simp [ClassFile.mentions, Method.mentions]

end Kinds

section Counting

/-- The edges that `CouplingGraph.countOfKind` counts. -/
def isEdge (source target : String) (kind : RelationKind) (edge : Relation) : Bool :=
  edge.source == source && edge.target == target && edge.kind == kind

theorem admits_iff (other : kind ≠ .superclass) :
    platform.admits source target = true ↔ Counts platform source target kind := by
  have starts : platform.covers target = false ↔ ∀ start ∈ platform.starts, ¬ start.toList <+: target.toList := by
    simp [Platform.covers]
  simp only [Platform.admits, Bool.and_eq_true, Bool.not_eq_true', bne_iff_ne, starts, and_assoc]
  cases kind with
  | superclass => exact absurd rfl other
  | instanceVariable | callsMethod | localVariable | parameterType | accessPublicVariable => exact .rfl

theorem countP_admitted (this : String) (mentions : List (String × RelationKind)) :
    (admitted platform this mentions).countP (isEdge source target kind) =
      if this = source ∧ platform.admits source target = true then (ofKind kind mentions).count target
      else 0 := by
  rw [admitted, List.countP_map, List.countP_filter, count_ofKind]
  split
  · rename_i both
    obtain ⟨rfl, admits⟩ := both
    apply List.countP_congr
    intro mention _
    obtain ⟨mentioned, mentionKind⟩ := mention
    constructor
    · intro counted
      simp only [Function.comp_apply, isEdge, Bool.and_eq_true, beq_iff_eq] at counted
      simp [counted.1]
    · intro same
      simp only [beq_iff_eq, Prod.mk.injEq] at same
      simp [isEdge, same, admits]
  · rename_i neither
    apply List.countP_eq_zero.mpr
    intro mention _ counted
    simp only [Function.comp_apply, isEdge, Bool.and_eq_true, beq_iff_eq] at counted
    obtain ⟨⟨⟨rfl, rfl⟩, _⟩, admits⟩ := counted
    exact neither ⟨rfl, admits⟩

theorem countP_superclassRelation (classFile : ClassFile) :
    (superclassRelation platform classFile).countP (isEdge source target kind) =
      if kind = .superclass ∧ classFile.key = source ∧ Counts platform source target .superclass then
        (classFile.mentions .superclass).count target
      else 0 := by
  unfold superclassRelation ClassFile.mentions Counts
  cases classFile.superclass with
  | none => simp
  | some name =>
      by_cases worth : InternalName.classKey name ≠ "" ∧
          InternalName.classKey name ≠ InternalName.classKey platform.root
      · by_cases same : InternalName.classKey name = target
        · subst same
          by_cases ofKind : kind = .superclass
          · by_cases own : classFile.key = source <;> simp [isEdge, worth, ofKind, own]
          · simp [isEdge, worth, ofKind, Ne.symm ofKind]
        · simp [isEdge, worth, same]
      · by_cases same : InternalName.classKey name = target
        · subst same
          simp [worth]
        · simp [worth, same]

/-- One class has as many edges to a target as it has places that count. -/
theorem countP_relationsOf (classFile : ClassFile) :
    (relationsOf platform classFile).countP (isEdge source target kind) =
      if classFile.key = source ∧ Counts platform source target kind then
        (classFile.mentions kind).count target
      else 0 := by
  rw [relationsOf, List.countP_append, countP_superclassRelation, countP_admitted, ofKind_members]
  by_cases superclass : kind = .superclass
  · subst superclass
    simp
  · simp [superclass, admits_iff superclass]

theorem countP_flatMap_relationsOf (classFiles : List ClassFile) :
    (classFiles.flatMap (relationsOf platform)).countP (isEdge source target kind) =
      if Counts platform source target kind then
        ((classFiles.filter fun classFile => classFile.key == source).flatMap (·.mentions kind)).count target
      else 0 := by
  induction classFiles with
  | nil => simp
  | cons classFile rest ih =>
      rw [List.flatMap_cons, List.countP_append, countP_relationsOf, ih]
      by_cases counts : Counts platform source target kind
      · by_cases own : classFile.key = source <;> simp [counts, own]
      · simp [counts]

end Counting

theorem isAnalysed_iff : classFile.isAnalysed = true ↔ classFile.isModule = false ∧ classFile.key ≠ "" := by
  simp [ClassFile.isAnalysed]

theorem source_of_mem_relationsOf {relation : Relation} (member : relation ∈ relationsOf platform classFile) :
    relation.source = classFile.key := by
  rcases List.mem_append.mp member with ofSuperclass | ofMember
  · unfold superclassRelation at ofSuperclass
    split at ofSuperclass
    · simp at ofSuperclass
    · simp only [List.mem_ite_nil_right, List.mem_singleton] at ofSuperclass
      rw [ofSuperclass.2]
  · obtain ⟨mention, _, rfl⟩ := List.mem_map.mp ofMember
    rfl

theorem mem_namesOf_iff {name : String} :
    name ∈ namesOf platform classFile ↔
      classFile.key = name ∨ ∃ relation ∈ relationsOf platform classFile, relation.target = name := by
  simp only [namesOf, List.mem_cons, List.mem_flatMap, List.not_mem_nil, or_false]
  constructor
  · intro mentioned
    rcases mentioned with rfl | ⟨relation, member, rfl | rfl⟩
    · exact .inl rfl
    · exact .inl (source_of_mem_relationsOf member).symm
    · exact .inr ⟨relation, member, rfl⟩
  · intro mentioned
    rcases mentioned with rfl | ⟨relation, member, rfl⟩
    · exact .inl rfl
    · exact .inr ⟨relation, member, .inr rfl⟩

theorem countOfKind_graphOf {classFiles : List ClassFile} {graph : CouplingGraph}
    (built : graphOf platform classFiles = .ok graph) :
    graph.countOfKind source target kind = occurrences platform classFiles source target kind := by
  have selected : (classFiles.filter (·.isAnalysed)).filter (fun classFile => classFile.key == source) =
      classFiles.filter fun classFile => !classFile.isModule && source != "" && classFile.key == source := by
    rw [List.filter_filter]
    apply List.filter_congr
    intro classFile _
    rw [Bool.eq_iff_iff]
    simp only [ClassFile.isAnalysed, Bool.and_eq_true, beq_iff_eq]
    constructor
    · intro both
      obtain ⟨rfl, analysed⟩ := both
      exact ⟨analysed, rfl⟩
    · intro both
      obtain ⟨analysed, rfl⟩ := both
      exact ⟨rfl, analysed⟩
  rw [graph.countOfKind_eq, CouplingGraph.countEdges, occurrences, (records_graphOf built).edges, ← selected]
  exact countP_flatMap_relationsOf _

/-- The graph has one edge for each place that counts, and for vertices the analysed classes and what their
edges lead to. -/
theorem graphOf_counts_occurrences {classFiles : List ClassFile} {graph : CouplingGraph}
    (built : graphOf platform classFiles = .ok graph) :
    (∀ source target kind,
      graph.countOfKind source target kind = occurrences platform classFiles source target kind) ∧
      graph.vertices.toList.Nodup ∧
      ∀ name, name ∈ graph.vertices ↔
        (∃ classFile ∈ classFiles, classFile.isModule = false ∧ classFile.key ≠ "" ∧ classFile.key = name) ∨
          ∃ edge ∈ graph.edges, edge.target = name := by
  have records := records_graphOf built
  refine ⟨fun _ _ _ => countOfKind_graphOf built, graph.vertices_nodup, fun name => ?_⟩
  simp only [records.mem_vertices, records.mem_edges, List.mem_flatMap, mem_namesOf_iff, List.mem_filter,
    isAnalysed_iff]
  constructor
  · intro mentioned
    rcases mentioned with ⟨classFile, ⟨given, notModule, named⟩, rfl | ⟨relation, member, rfl⟩⟩
    · exact .inl ⟨classFile, given, notModule, named, rfl⟩
    · exact .inr ⟨relation, ⟨classFile, ⟨given, notModule, named⟩, member⟩, rfl⟩
  · intro mentioned
    rcases mentioned with ⟨classFile, given, notModule, named, rfl⟩ | ⟨edge, ⟨classFile, analysed, member⟩, rfl⟩
    · exact ⟨classFile, ⟨given, notModule, named⟩, .inl rfl⟩
    · exact ⟨classFile, analysed, .inr ⟨edge, member, rfl⟩⟩

/-- A class that relates to `p/C` in five ways and descends from a platform class, a module descriptor, and a
class that names itself as its superclass. -/
def mixedClasses : List ClassFile := [
  { name := "p/A$B"
    superclass := some "java/lang/Throwable"
    accessFlags := 0
    fields := [⟨"f", "[Lp/C;"⟩, ⟨"n", "I"⟩]
    methods := [
      { name := "m"
        descriptor := "(Lp/C;Ljava/util/List;Lp/A_B;)V"
        instructions := [.invoke .virtual ⟨"p/C", "g", "()V"⟩, .invoke .static ⟨"p/C", "h", "()V"⟩,
          .access .getField ⟨"p/C", "x", "I"⟩, .other 177]
        locals := [⟨"c", "Lp/C;"⟩] }] },
  { name := "module-info", superclass := none, accessFlags := 0x8000, fields := [⟨"f", "Lp/C;"⟩], methods := [] },
  { name := "p/C", superclass := some "p/C", accessFlags := 0, fields := [], methods := [] }]

def mixedGraph : CouplingGraph :=
  .recording ["p/A_B", "java/lang/Throwable", "p/C"] [
    ⟨"p/A_B", "java/lang/Throwable", .superclass⟩, ⟨"p/A_B", "p/C", .instanceVariable⟩,
    ⟨"p/A_B", "p/C", .callsMethod⟩, ⟨"p/A_B", "p/C", .callsMethod⟩,
    ⟨"p/A_B", "p/C", .accessPublicVariable⟩, ⟨"p/A_B", "p/C", .localVariable⟩,
    ⟨"p/A_B", "p/C", .parameterType⟩, ⟨"p/C", "p/C", .superclass⟩]

theorem mixedGraph_counts_occurrences :
    graphOf ⟨["java/"], "java/lang/Object"⟩ mixedClasses = .ok mixedGraph ∧
      occurrences ⟨["java/"], "java/lang/Object"⟩ mixedClasses "p/A_B" "p/C" .callsMethod = 2 ∧
      ("p/C" ∈ mixedGraph.vertices ↔
        (∃ classFile ∈ mixedClasses, classFile.isModule = false ∧ classFile.key ≠ "" ∧
          classFile.key = "p/C") ∨ ∃ edge ∈ mixedGraph.edges, edge.target = "p/C") := by
  have built : graphOf ⟨["java/"], "java/lang/Object"⟩ mixedClasses = .ok mixedGraph := by decide +kernel
  obtain ⟨counts, _, vertices⟩ := graphOf_counts_occurrences built
  have calls : mixedGraph.countOfKind "p/A_B" "p/C" .callsMethod = 2 := by decide +kernel
  exact ⟨built, (counts _ _ _).symm.trans calls, vertices "p/C"⟩

end Coupling

end ClassMetrics
