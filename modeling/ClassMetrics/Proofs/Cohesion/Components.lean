import ClassMetrics.Proofs.Cohesion.Usage
import ClassMetrics.Proofs.Data.Pairs
import ClassMetrics.Proofs.Data.Partition

namespace ClassMetrics.Cohesion

/-!
The lack of cohesion of a class counts the classes of an equivalence on its method names. The relation that
generates it speaks of methods and instructions only; a name stands for all methods that carry it.
-/

def Accesses (method : Method) (field : String) : Prop :=
  ∃ kind reference, .access kind reference ∈ method.instructions ∧ reference.name = field

def Invokes (classFile : ClassFile) (method : Method) (name : String) : Prop :=
  ∃ dispatch reference, .invoke dispatch reference ∈ method.instructions ∧
    InternalName.classKey reference.owner = classFile.key ∧ reference.name = name

inductive Related (classFile : ClassFile) (first second : String) : Prop where
  | sharedField {one other : Method} {field : String}
      (oneDeclared : one ∈ classFile.methods) (oneName : one.name = first)
      (otherDeclared : other ∈ classFile.methods) (otherName : other.name = second)
      (oneAccesses : Accesses one field) (otherAccesses : Accesses other field)
  | calls {caller : Method} (declared : caller ∈ classFile.methods) (name : caller.name = first)
      (invokes : Invokes classFile caller second)
  | called {caller : Method} (declared : caller ∈ classFile.methods) (name : caller.name = second)
      (invokes : Invokes classFile caller first)

def Declares (classFile : ClassFile) (name : String) : Prop :=
  ∃ method ∈ classFile.methods, method.name = name

variable {classFile : ClassFile} {first second name : String}

theorem Related.symm (related : Related classFile first second) : Related classFile second first := by
  cases related with
  | sharedField oneDeclared oneName otherDeclared otherName oneAccesses otherAccesses =>
      exact .sharedField otherDeclared otherName oneDeclared oneName otherAccesses oneAccesses
  | calls declared name invokes => exact .called declared name invokes
  | called declared name invokes => exact .calls declared name invokes

theorem accessedField?_eq_some_iff {instruction : Instruction} {field : String} :
    accessedField? instruction = some field ↔
      ∃ kind reference, instruction = .access kind reference ∧ reference.name = field := by
  cases instruction <;> simp [accessedField?]

theorem ownCall?_eq_some_iff {instruction : Instruction} {this called : String} :
    ownCall? this instruction = some called ↔ ∃ dispatch reference,
      instruction = .invoke dispatch reference ∧
        InternalName.classKey reference.owner = this ∧ reference.name = called := by
  cases instruction <;> simp [ownCall?]

theorem mem_fieldsOf_iff {field : String} :
    field ∈ fieldsOf classFile name ↔
      ∃ method ∈ classFile.methods, method.name = name ∧ Accesses method field := by
  simp only [fieldsOf, List.mem_filterMap, mem_bodyOf_iff, accessedField?_eq_some_iff, Accesses]
  constructor
  · intro found
    obtain ⟨_, ⟨method, declared, named, member⟩, kind, reference, rfl, same⟩ := found
    exact ⟨method, declared, named, kind, reference, member, same⟩
  · intro found
    obtain ⟨method, declared, named, kind, reference, member, same⟩ := found
    exact ⟨_, ⟨method, declared, named, member⟩, kind, reference, rfl, same⟩

theorem mem_callsOf_iff {called : String} :
    called ∈ callsOf classFile name ↔
      ∃ method ∈ classFile.methods, method.name = name ∧ Invokes classFile method called := by
  simp only [callsOf, List.mem_filterMap, mem_bodyOf_iff, ownCall?_eq_some_iff, Invokes]
  constructor
  · intro found
    obtain ⟨_, ⟨method, declared, named, member⟩, dispatch, reference, rfl, own, same⟩ := found
    exact ⟨method, declared, named, dispatch, reference, member, own, same⟩
  · intro found
    obtain ⟨method, declared, named, dispatch, reference, member, own, same⟩ := found
    exact ⟨_, ⟨method, declared, named, member⟩, dispatch, reference, rfl, own, same⟩

theorem linked_iff_uses :
    (UsageTable.ofClass classFile).linked first second = true ↔
      ((∃ field, field ∈ fieldsOf classFile first ∧ field ∈ fieldsOf classFile second) ∨
        second ∈ callsOf classFile first) ∨ first ∈ callsOf classFile second := by
  simp only [UsageTable.linked, Bool.or_eq_true, List.any_eq_true, List.contains_iff_mem,
    UsageTable.mem_fields_ofClass, UsageTable.mem_calls_ofClass]

theorem linked_iff : (UsageTable.ofClass classFile).linked first second = true ↔ Related classFile first second := by
  simp only [linked_iff_uses, mem_fieldsOf_iff, mem_callsOf_iff]
  constructor
  · intro linked
    rcases linked with (⟨field, ofFirst, ofSecond⟩ | call) | call
    · obtain ⟨one, oneDeclared, oneName, oneAccesses⟩ := ofFirst
      obtain ⟨other, otherDeclared, otherName, otherAccesses⟩ := ofSecond
      exact .sharedField oneDeclared oneName otherDeclared otherName oneAccesses otherAccesses
    · obtain ⟨caller, declared, named, invokes⟩ := call
      exact .calls declared named invokes
    · obtain ⟨caller, declared, named, invokes⟩ := call
      exact .called declared named invokes
  · intro related
    cases related with
    | sharedField oneDeclared oneName otherDeclared otherName oneAccesses otherAccesses =>
        exact .inl (.inl ⟨_, ⟨_, oneDeclared, oneName, oneAccesses⟩, _, otherDeclared, otherName,
          otherAccesses⟩)
    | calls declared named invokes => exact .inl (.inr ⟨_, declared, named, invokes⟩)
    | called declared named invokes => exact .inr ⟨_, declared, named, invokes⟩

theorem mem_methodNames_iff : name ∈ methodNames classFile ↔ Declares classFile name := by
  simp [methodNames, List.mem_eraseDups, Declares]

theorem mem_links_iff :
    (first, second) ∈ (ofClass classFile).links ↔
      (first, second) ∈ pairs (methodNames classFile) ∧ Related classFile first second := by
  rw [ofClass, UsageTable.links, List.mem_filter, linked_iff, UsageTable.methods_ofClass]

theorem related_of_link {link : String × String} (member : link ∈ (ofClass classFile).links) :
    ∃ first second : {name // Declares classFile name},
      Related classFile first.1 second.1 ∧ link = (first.1, second.1) := by
  obtain ⟨pair, related⟩ := mem_links_iff.mp member
  obtain ⟨firstIn, secondIn⟩ := mem_of_mem_pairs pair
  exact ⟨⟨link.1, mem_methodNames_iff.mp firstIn⟩, ⟨link.2, mem_methodNames_iff.mp secondIn⟩,
    related, rfl⟩

theorem link_of_related (first second : {name // Declares classFile name})
    (related : Related classFile first.1 second.1) :
    first = second ∨ (first.1, second.1) ∈ (ofClass classFile).links ∨
      (second.1, first.1) ∈ (ofClass classFile).links := by
  by_cases same : first.1 = second.1
  · exact .inl (Subtype.ext same)
  · rcases mem_pairs_or_mem_pairs (mem_methodNames_iff.mpr first.2) (mem_methodNames_iff.mpr second.2)
      same with forth | back
    · exact .inr (.inl (mem_links_iff.mpr ⟨forth, related⟩))
    · exact .inr (.inr (mem_links_iff.mpr ⟨back, related.symm⟩))

/-- Every link stands for related names, and related names are one name or linked either way. -/
theorem lcom_eq_card (classFile : ClassFile) :
    (ofClass classFile).lcom = Nat.card (Quotient (Relation.EqvGen.setoid
      fun first second : {name // Declares classFile name} => Related classFile first.1 second.1)) := by
  have counted : (ofClass classFile).lcom =
      (Partition.ofLinks (methodNames classFile) (ofClass classFile).links).count := by
    rw [← UsageTable.methods_ofClass]
    rfl
  rw [counted]
  exact Partition.count_ofLinks (fun _ => mem_methodNames_iff) (fun _ => related_of_link) link_of_related

/-- The method graph has the distinct method names in the order of their declaration, links exactly the
related names, and falls into as many parts as the relation generates classes. -/
theorem ofClass_counts_related_classes (classFile : ClassFile) :
    let declared := classFile.methods.map (·.name)
    let cohesion := ofClass classFile
    cohesion.lcom = Nat.card (Quotient (Relation.EqvGen.setoid
        fun first second : {name // Declares classFile name} => Related classFile first.1 second.1)) ∧
      cohesion.methods.Nodup ∧ (∀ name, name ∈ cohesion.methods ↔ Declares classFile name) ∧
      (cohesion.methods.Pairwise fun first second => declared.idxOf first < declared.idxOf second) ∧
      (∀ first second, (first, second) ∈ cohesion.links ↔
        ∃ i j : Nat, i < j ∧ cohesion.methods[i]? = some first ∧ cohesion.methods[j]? = some second ∧
          Related classFile first second) ∧
      cohesion.links.Pairwise fun one other =>
        positions cohesion.methods one < positions cohesion.methods other := by
  intro declared cohesion
  have names : cohesion.methods = methodNames classFile := UsageTable.methods_ofClass classFile
  have distinct : (methodNames classFile).Nodup := nodup_eraseDups _
  have links (first second : String) : (first, second) ∈ (ofClass classFile).links ↔
      ∃ i j : Nat, i < j ∧ (methodNames classFile)[i]? = some first ∧
        (methodNames classFile)[j]? = some second ∧ Related classFile first second := by
    rw [mem_links_iff, mem_pairs_iff]
    simp only [← exists_and_right, and_assoc]
  have ordered : cohesion.links.Pairwise fun one other =>
      positions cohesion.methods one < positions cohesion.methods other :=
    (pairwise_positions_pairs (names ▸ distinct)).filter _
  refine ⟨lcom_eq_card classFile, ?_, ?_, ?_, ?_, ordered⟩
  all_goals rw [names]
  · exact distinct
  · exact fun _ => mem_methodNames_iff
  · exact pairwise_idxOf_eraseDups _
  · exact links

end ClassMetrics.Cohesion
