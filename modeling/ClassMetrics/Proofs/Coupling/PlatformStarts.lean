import ClassMetrics.Proofs.ClassFile.Spellings
import ClassMetrics.Proofs.Coupling.Exclusion

namespace ClassMetrics

/-!
The platform by the names that class files store. The starts of its names are compared with keys, in which `_` stands
for every `$`, and are themselves taken as they are. So a start with a `$` matches no key, and the classes that it
names are kept out only if another start matches the key of the start itself.
-/

/-- The class that a descriptor names, as it is stored; empty if that is no class. -/
def Descriptor.storedName (descriptor : String) : String :=
  let element := descriptor.toList.dropWhile (· == '[')
  if element.head? = some 'L' then String.ofList (withoutTerminator element.tail) else ""

def InternalName.storedName (name : String) : String :=
  if name.toList.head? = some '[' then Descriptor.storedName name else name

def keyOfStored (name : String) : String :=
  String.ofList (collapseNested name.toList)

/-- The places where a class mentions another, its superclass apart, with the name that is stored there. -/
inductive ClassFile.Stores (classFile : ClassFile) : RelationKind → String → Prop where
  | field {field : TypedName} (declared : field ∈ classFile.fields) :
      Stores classFile .instanceVariable (Descriptor.storedName field.descriptor)
  | call {method : Method} (declared : method ∈ classFile.methods) {dispatch : Dispatch} {called : MemberRef}
      (coded : .invoke dispatch called ∈ method.instructions) :
      Stores classFile .callsMethod (InternalName.storedName called.owner)
  | access {method : Method} (declared : method ∈ classFile.methods) {kind : FieldAccess} {accessed : MemberRef}
      (coded : .access kind accessed ∈ method.instructions) :
      Stores classFile .accessPublicVariable (InternalName.storedName accessed.owner)
  | localVariable {method : Method} (declared : method ∈ classFile.methods) {entry : TypedName}
      (listed : entry ∈ method.locals) :
      Stores classFile .localVariable (Descriptor.storedName entry.descriptor)
  | parameter {method : Method} (declared : method ∈ classFile.methods) {parameter : String}
      (listed : parameter ∈ method.parameters) :
      Stores classFile .parameterType (Descriptor.storedName parameter)

def Platform.unmarked (platform : Platform) : Platform :=
  { platform with starts := platform.starts.filter fun start => '$' ∉ start.toList }

section StoredNames

theorem keyOfStored_descriptor (descriptor : String) :
    keyOfStored (Descriptor.storedName descriptor) = Descriptor.classKey descriptor := by
  unfold keyOfStored Descriptor.storedName Descriptor.classKey Descriptor.keyChars
  generalize descriptor.toList.dropWhile (· == '[') = element
  split
  · rename_i object
    simp
  · rename_i noClass
    have unmarked : element.head? ≠ some 'L' := by
      intro marked
      obtain ⟨object, rfl⟩ := List.head?_eq_some_iff.mp marked
      exact noClass object rfl
    simp [unmarked, collapseNested]

theorem keyOfStored_internalName (name : String) :
    keyOfStored (InternalName.storedName name) = InternalName.classKey name := by
  unfold InternalName.storedName
  split
  · rename_i marked
    rw [keyOfStored_descriptor, InternalName.classKey_of_marked marked]
  · rename_i bare
    rw [InternalName.classKey_of_bare bare, keyOfStored]

theorem keyOfStored_starts {start name : String} (begins : start.toList <+: name.toList) :
    (keyOfStored start).toList <+: (keyOfStored name).toList := by
  simpa [keyOfStored, collapseNested] using begins.map _

theorem keyOfStored_eq_empty_iff {name : String} : keyOfStored name = "" ↔ name = "" := by
  simp [keyOfStored, collapseNested]

theorem storedName_ofClass (name : String) : Descriptor.storedName (Descriptor.ofClass 0 name) = name := by
  simp [Descriptor.storedName, Descriptor.ofClass, withoutTerminator]

theorem ClassFile.Stores.mentioned {classFile : ClassFile} {kind : RelationKind} {name : String}
    (stores : classFile.Stores kind name) : kind ≠ .superclass ∧ keyOfStored name ∈ classFile.mentions kind := by
  cases stores with
  | field declared =>
      refine ⟨by simp, List.mem_map.mpr ⟨_, declared, ?_⟩⟩
      rw [keyOfStored_descriptor]
  | call declared coded =>
      refine ⟨by simp, List.mem_flatMap.mpr ⟨_, declared, List.mem_filterMap.mpr ⟨_, coded, ?_⟩⟩⟩
      rw [keyOfStored_internalName, calledOwner?]
  | access declared coded =>
      refine ⟨by simp, List.mem_flatMap.mpr ⟨_, declared, List.mem_filterMap.mpr ⟨_, coded, ?_⟩⟩⟩
      rw [keyOfStored_internalName, accessedOwner?]
  | localVariable declared listed =>
      refine ⟨by simp, List.mem_flatMap.mpr ⟨_, declared, List.mem_map.mpr ⟨_, listed, ?_⟩⟩⟩
      rw [keyOfStored_descriptor]
  | parameter declared listed =>
      refine ⟨by simp, List.mem_flatMap.mpr ⟨_, declared, List.mem_map.mpr ⟨_, listed, ?_⟩⟩⟩
      rw [keyOfStored_descriptor]

end StoredNames

namespace Coupling

variable {platform : Platform} {classFile : ClassFile} {classFiles : List ClassFile} {graph : CouplingGraph}
  {kind : RelationKind} {name : String}

section MarkedStarts

theorem covers_unmarked {key : String} (plain : '$' ∉ key.toList) :
    platform.unmarked.covers key = platform.covers key := by
  unfold Platform.covers Platform.unmarked
  rw [Bool.eq_iff_iff, List.any_eq_true, List.any_eq_true]
  simp only [List.mem_filter, decide_eq_true_eq, List.isPrefixOf_iff_prefix]
  constructor
  · intro matched
    obtain ⟨start, ⟨given, _⟩, begins⟩ := matched
    exact ⟨start, given, begins⟩
  · intro matched
    obtain ⟨start, given, begins⟩ := matched
    exact ⟨start, ⟨given, fun marked => plain (begins.subset marked)⟩, begins⟩

theorem admitted_unmarked (platform : Platform) {mentions : List (String × RelationKind)} (this : String)
    (plain : ∀ mention ∈ mentions, '$' ∉ mention.1.toList) :
    admitted platform.unmarked this mentions = admitted platform this mentions := by
  unfold admitted
  congr 1
  apply List.filter_congr
  intro mention member
  rw [Platform.admits, Platform.admits, covers_unmarked (plain mention member)]

theorem no_mark_mention {mention : String × RelationKind}
    (member : mention ∈ fieldMentions classFile ++ classFile.methods.flatMap mentionsOf) :
    '$' ∉ mention.1.toList := by
  rcases List.mem_append.mp member with ofField | ofMethod
  · obtain ⟨field, _, rfl⟩ := List.mem_map.mp ofField
    exact InternalName.no_mark_descriptorKey _
  · obtain ⟨method, _, mentioned⟩ := List.mem_flatMap.mp ofMethod
    rcases List.mem_append.mp mentioned with early | ofParameter
    · rcases List.mem_append.mp early with ofInstruction | ofLocal
      · obtain ⟨instruction, _, found⟩ := List.mem_filterMap.mp ofInstruction
        cases instruction with
        | invoke | access =>
            cases found
            exact InternalName.no_mark_classKey _
        | other => cases found
      · obtain ⟨entry, _, rfl⟩ := List.mem_map.mp ofLocal
        exact InternalName.no_mark_descriptorKey _
    · obtain ⟨parameter, _, rfl⟩ := List.mem_map.mp ofParameter
      exact InternalName.no_mark_descriptorKey _

theorem classRelations_unmarked (classFile : ClassFile) :
    classRelations platform.unmarked classFile = classRelations platform classFile := by
  unfold classRelations
  -- A fault comes before the platform is asked.
  rcases SucceedsIff.mapM (methodMentions_succeeds classFile) classFile.methods with
    ⟨_, mentioned⟩ | ⟨_, fault, failed⟩
  · have same := admitted_unmarked platform classFile.key fun mention => @no_mark_mention classFile mention
    rw [List.flatMap_def] at same
    rw [mentioned]
    exact congrArg (fun relations => Except.ok (superclassRelation platform classFile ++ relations)) same
  · rw [failed]
    rfl

theorem extractInto_unmarked (graph : CouplingGraph) (classFiles : List ClassFile) :
    extractInto platform.unmarked graph classFiles = extractInto platform graph classFiles := by
  have addClass_eq : addClass platform.unmarked = addClass platform := by
    funext graph classFile
    rw [addClass, addClass, classRelations_unmarked]
  induction classFiles generalizing graph with
  | nil => rfl
  | cons classFile rest ih =>
      unfold extractInto
      rw [addClass_eq]
      cases addClass platform graph classFile with
      | error fault => rfl
      | ok next => simp only [ih]

end MarkedStarts

theorem not_mem_edges_of_covered (built : graphOf platform classFiles = .ok graph)
    (stores : classFile.Stores kind name)
    (matched : ∃ other ∈ platform.starts, other.toList <+: (keyOfStored name).toList) :
    ⟨classFile.key, keyOfStored name, kind⟩ ∉ graph.edges := by
  intro member
  obtain ⟨_, _, _, _, counts, _⟩ := (mem_edges_graphOf_iff built).mp member
  exact counts.not_excludes stores.mentioned.1 (.inr matched)

theorem mem_edges_of_uncovered (built : graphOf platform classFiles = .ok graph) (given : classFile ∈ classFiles)
    (analysed : classFile.isAnalysed = true) (stores : classFile.Stores kind name) (named : name ≠ "")
    (different : keyOfStored name ≠ classFile.key)
    (unmatched : ∀ other ∈ platform.starts, ¬ other.toList <+: (keyOfStored name).toList) :
    ⟨classFile.key, keyOfStored name, kind⟩ ∈ graph.edges := by
  obtain ⟨notSuperclass, mentioned⟩ := stores.mentioned
  have counts : platform.admits classFile.key (keyOfStored name) = true := by
    simpa [Platform.admits, Platform.covers, keyOfStored_eq_empty_iff] using ⟨⟨named, different⟩, unmatched⟩
  exact (mem_edges_graphOf_iff built).mpr
    ⟨classFile, given, isAnalysed_iff.mp analysed, rfl, (admits_iff notSuperclass).mp counts, mentioned⟩

def holderOf (name stored : String) : ClassFile :=
  { name, superclass := none, accessFlags := 0, fields := [⟨"held", Descriptor.ofClass 0 stored⟩], methods := [] }

theorem stores_holderOf (name stored : String) : (holderOf name stored).Stores .instanceVariable stored := by
  have declared : ⟨"held", Descriptor.ofClass 0 stored⟩ ∈ (holderOf name stored).fields := List.mem_singleton_self _
  have stores := ClassFile.Stores.field declared
  rwa [storedName_ofClass] at stores

theorem exists_holder (stored : String) :
    ∃ name, (holderOf name stored).isAnalysed = true ∧ keyOfStored stored ≠ (holderOf name stored).key := by
  have keys : InternalName.classKey "A" = "A" ∧ InternalName.classKey "B" = "B" := by decide
  by_cases same : keyOfStored stored = "A"
  · exact ⟨"B", by simp [ClassFile.isAnalysed, ClassFile.isModule, ClassFile.key, holderOf, keys],
      by simp [ClassFile.key, holderOf, keys, same]⟩
  · exact ⟨"A", by simp [ClassFile.isAnalysed, ClassFile.isModule, ClassFile.key, holderOf, keys],
      by simpa [ClassFile.key, holderOf, keys] using same⟩

/-- A start keeps out all classes that are stored under it exactly if some start, itself or another, matches its key.
Starts with a nested-class mark match nothing: without them all classes are extracted as with them. -/
theorem starts_kept_out_iff (platform : Platform) :
    (∀ start ∈ platform.starts,
      ((∀ classFiles graph, graphOf platform classFiles = .ok graph → ∀ classFile ∈ classFiles, ∀ kind name,
          classFile.Stores kind name → start.toList <+: name.toList →
            ⟨classFile.key, keyOfStored name, kind⟩ ∉ graph.edges) ↔
        ∃ other ∈ platform.starts, other.toList <+: (keyOfStored start).toList)) ∧
      ∀ classFiles, extract platform.unmarked classFiles = extract platform classFiles := by
  refine ⟨fun start given => ⟨fun keptOut => ?_, ?_⟩, fun classFiles => extractInto_unmarked _ _⟩
  · -- The start itself, as the type of a field, is a name under it that nothing keeps out.
    by_contra unmatched
    push Not at unmatched
    obtain ⟨name, analysed, different⟩ := exists_holder start
    have readable : ∃ graph, graphOf platform [holderOf name start] = .ok graph :=
      (graphOf_succeeds platform _).exists_ok_iff.mpr (by simp [ClassFile.Readable, holderOf])
    obtain ⟨graph, built⟩ := readable
    have named : start ≠ "" := by
      intro empty
      exact unmatched start given (by simp [empty])
    have stores := stores_holderOf name start
    exact keptOut _ graph built _ (List.mem_singleton_self _) _ _ stores List.prefix_rfl
      (mem_edges_of_uncovered built (List.mem_singleton_self _) analysed stores named different unmatched)
  · intro matched classFiles graph built classFile _ kind name stores startsName
    obtain ⟨other, otherGiven, begins⟩ := matched
    exact not_mem_edges_of_covered built stores ⟨other, otherGiven, begins.trans (keyOfStored_starts startsName)⟩

def mixedStarts : Platform := ⟨["q/Outer$", "java/"], "java/lang/Object"⟩

def nestedMethod : Method where
  name := "m"
  descriptor := "(Lq/Outer$Inner;)V"
  instructions := [.invoke .virtual ⟨"q/Outer$Inner", "g", "()V"⟩, .access .getField ⟨"q/Outer$Inner", "x", "I"⟩]
  locals := [⟨"v", "[Lq/Outer$Inner;"⟩]

def nestedUser : ClassFile :=
  { name := "p/A", superclass := none, accessFlags := 0, fields := [⟨"f", "Lq/Outer$Inner;"⟩],
    methods := [nestedMethod] }

def nestedGraph : CouplingGraph :=
  .recording ["p/A", "q/Outer_Inner"] [
    ⟨"p/A", "q/Outer_Inner", .instanceVariable⟩, ⟨"p/A", "q/Outer_Inner", .callsMethod⟩,
    ⟨"p/A", "q/Outer_Inner", .accessPublicVariable⟩, ⟨"p/A", "q/Outer_Inner", .localVariable⟩,
    ⟨"p/A", "q/Outer_Inner", .parameterType⟩]

theorem mixedStarts_kept_out_iff :
    graphOf mixedStarts [nestedUser] = .ok nestedGraph ∧
      extract mixedStarts.unmarked [nestedUser] = extract mixedStarts [nestedUser] ∧
      ∀ classFiles graph, graphOf mixedStarts classFiles = .ok graph → ∀ classFile ∈ classFiles, ∀ kind name,
        classFile.Stores kind name → "java/".toList <+: name.toList →
          ⟨classFile.key, keyOfStored name, kind⟩ ∉ graph.edges := by
  obtain ⟨keptOut, withoutMarked⟩ := starts_kept_out_iff mixedStarts
  have built : graphOf mixedStarts [nestedUser] = .ok nestedGraph := by decide +kernel
  exact ⟨built, withoutMarked _, (keptOut "java/" (by decide)).mpr ⟨"java/", by decide, by decide⟩⟩

/-- Under settings that are accepted, all five places make an edge to a class whose stored name starts as the
platform's names do. -/
theorem nestedUser_escapes_starts :
    { Settings.default with platform := mixedStarts }.platform? = .ok mixedStarts ∧
      graphOf mixedStarts [nestedUser] = .ok nestedGraph ∧
      ∀ kind, kind ≠ .superclass → ∃ name, nestedUser.Stores kind name ∧
        (∃ start ∈ mixedStarts.starts, start.toList <+: name.toList) ∧
          ⟨nestedUser.key, keyOfStored name, kind⟩ ∈ nestedGraph.edges := by
  have ofField : Descriptor.storedName "Lq/Outer$Inner;" = "q/Outer$Inner" := by decide
  have ofLocal : Descriptor.storedName "[Lq/Outer$Inner;" = "q/Outer$Inner" := by decide
  have ofOwner : InternalName.storedName "q/Outer$Inner" = "q/Outer$Inner" := by decide
  have field : ⟨"f", "Lq/Outer$Inner;"⟩ ∈ nestedUser.fields := List.mem_singleton_self _
  have method : nestedMethod ∈ nestedUser.methods := List.mem_singleton_self _
  have stores (kind : RelationKind) (other : kind ≠ .superclass) : nestedUser.Stores kind "q/Outer$Inner" := by
    cases kind with
    | superclass => exact absurd rfl other
    | instanceVariable => exact ofField ▸ .field field
    | callsMethod => exact ofOwner ▸ .call method (List.mem_cons_self ..)
    | localVariable => exact ofLocal ▸ .localVariable method (List.mem_singleton_self _)
    | parameterType => exact ofField ▸ .parameter method (by decide +kernel)
    | accessPublicVariable => exact ofOwner ▸ .access method (List.mem_cons_of_mem _ (List.mem_cons_self ..))
  have built : graphOf mixedStarts [nestedUser] = .ok nestedGraph := by decide +kernel
  refine ⟨by decide, built, fun kind other => ⟨_, stores kind other, ⟨"q/Outer$", by decide, by decide⟩, ?_⟩⟩
  exact mem_edges_of_uncovered built (List.mem_singleton_self _) (by decide) (stores kind other) (by decide)
    (by decide) (by decide)

end Coupling

end ClassMetrics
