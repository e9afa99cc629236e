import ClassMetrics.Cohesion.MethodGraph
import ClassMetrics.Proofs.Data.Distinct

namespace ClassMetrics

namespace Cohesion

def accessedField? : Instruction → Option String
  | .access _ field => some field.name
  | _ => none

/-- The name of a method that is called on the class with the key `this`. -/
def ownCall? (this : String) : Instruction → Option String
  | .invoke _ method => if InternalName.classKey method.owner = this then some method.name else none
  | _ => none

def methodNames (classFile : ClassFile) : List String :=
  (classFile.methods.map (·.name)).eraseDups

/-- The instructions of all methods of one name. -/
def bodyOf (classFile : ClassFile) (name : String) : List Instruction :=
  (classFile.methods.filter fun method => method.name == name).flatMap (·.instructions)

def fieldsOf (classFile : ClassFile) (name : String) : List String :=
  (bodyOf classFile name).filterMap accessedField?

def callsOf (classFile : ClassFile) (name : String) : List String :=
  (bodyOf classFile name).filterMap (ownCall? classFile.key)

theorem mem_bodyOf_iff {classFile : ClassFile} {name : String} {instruction : Instruction} :
    instruction ∈ bodyOf classFile name ↔
      ∃ method ∈ classFile.methods, method.name = name ∧ instruction ∈ method.instructions := by
  simp [bodyOf, and_assoc]

end Cohesion

open Cohesion

variable {this name used : String} {classFile : ClassFile}

namespace MethodUsage

theorem mem_fields_note (usage : MethodUsage) (instruction : Instruction) :
    used ∈ (usage.note this instruction).fields ↔ used ∈ usage.fields ∨ accessedField? instruction = some used := by
  cases instruction with
  | access kind field => simp [note, accessedField?, or_comm, eq_comm]
  | invoke dispatch method =>
      simp only [note, accessedField?]
      split <;> simp
  | _ => simp [note, accessedField?]

theorem mem_calls_note (usage : MethodUsage) (instruction : Instruction) :
    used ∈ (usage.note this instruction).calls ↔ used ∈ usage.calls ∨ ownCall? this instruction = some used := by
  cases instruction with
  | invoke dispatch method =>
      simp only [note, ownCall?]
      split <;> simp [or_comm, eq_comm]
  | _ => simp [note, ownCall?]

/-- Where every instruction adds what is found in it, all of them add what is found in any. -/
theorem mem_foldl_note {part : MethodUsage → List String} {find : Instruction → Option String}
    (step : ∀ usage instruction, used ∈ part (usage.note this instruction) ↔
      used ∈ part usage ∨ find instruction = some used) (usage : MethodUsage) (instructions : List Instruction) :
    used ∈ part (instructions.foldl (note this) usage) ↔
      used ∈ part usage ∨ ∃ instruction ∈ instructions, find instruction = some used := by
  induction instructions generalizing usage with
  | nil => simp
  | cons instruction rest ih => simp only [List.foldl_cons, ih, step, or_assoc, List.mem_cons, exists_eq_or_imp]

end MethodUsage

/-- A table that was filled from methods, all of one class. -/
structure UsageTable.Collects (this : String) (table : UsageTable) (declared : List Method) : Prop where
  names : table.methods = (declared.map (·.name)).eraseDups
  known : ∀ name, (Keyed.get? name table.usages).isSome ↔ name ∈ declared.map (·.name)
  fields : ∀ name used, used ∈ (table.usageOf name).fields ↔
    ∃ method ∈ declared, method.name = name ∧
      ∃ instruction ∈ method.instructions, accessedField? instruction = some used
  calls : ∀ name used, used ∈ (table.usageOf name).calls ↔
    ∃ method ∈ declared, method.name = name ∧
      ∃ instruction ∈ method.instructions, ownCall? this instruction = some used

namespace UsageTable

theorem usageOf_enter (table : UsageTable) (method : Method) (name : String) :
    (table.enter this method).usageOf name =
      if method.name = name then method.instructions.foldl (MethodUsage.note this) (table.usageOf name)
      else table.usageOf name := by
  by_cases same : method.name = name
  · subst same
    simp [usageOf, enter, Keyed.get?_insert]
  · simp [usageOf, enter, Keyed.get?_insert, same]

namespace Collects

variable {table : UsageTable} {declared : List Method}

protected theorem empty (this : String) : Collects this .empty [] where
  names := rfl
  known _ := by simp [UsageTable.empty, Keyed.get?]
  fields _ _ := by simp [UsageTable.empty, usageOf, Keyed.get?, MethodUsage.empty]
  calls _ _ := by simp [UsageTable.empty, usageOf, Keyed.get?, MethodUsage.empty]

/-- What a method adds to a part of the entry of its name is what is found in it. -/
private theorem mem_part_enter {part : MethodUsage → List String} {find : Instruction → Option String}
    (step : ∀ usage instruction, used ∈ part (MethodUsage.note this usage instruction) ↔
      used ∈ part usage ∨ find instruction = some used)
    (before : used ∈ part (table.usageOf name) ↔
      ∃ method ∈ declared, method.name = name ∧ ∃ instruction ∈ method.instructions, find instruction = some used)
    (added : Method) :
    used ∈ part ((table.enter this added).usageOf name) ↔ ∃ method ∈ declared ++ [added],
      method.name = name ∧ ∃ instruction ∈ method.instructions, find instruction = some used := by
  rw [usageOf_enter]
  simp only [List.mem_append, List.mem_singleton, or_and_right, exists_or, exists_eq_left, ← before]
  by_cases same : added.name = name
  · simp [same, MethodUsage.mem_foldl_note step]
  · simp [same]

protected theorem enter (collects : table.Collects this declared) (method : Method) :
    (table.enter this method).Collects this (declared ++ [method]) where
  names := by
    have known := collects.known method.name
    rw [List.map_append, List.map_singleton, eraseDups_concat, ← collects.names]
    by_cases again : method.name ∈ declared.map (·.name)
    · simp [enter, known.mpr again, again]
    · simp [enter, mt known.mp again, again]
  known name := by
    have known := collects.known name
    by_cases same : method.name = name
    · simp [enter, Keyed.get?_insert, same]
    · simpa [enter, Keyed.get?_insert, same, Ne.symm same] using known
  fields name used := mem_part_enter MethodUsage.mem_fields_note (collects.fields name used) method
  calls name used := mem_part_enter MethodUsage.mem_calls_note (collects.calls name used) method

theorem foldl_enter (collects : table.Collects this declared) (more : List Method) :
    (more.foldl (UsageTable.enter this) table).Collects this (declared ++ more) := by
  induction more generalizing table declared with
  | nil => simpa using collects
  | cons method rest ih => simpa using ih (collects.enter method)

end Collects

theorem collects_ofClass (classFile : ClassFile) : (ofClass classFile).Collects classFile.key classFile.methods :=
  (Collects.empty classFile.key).foldl_enter classFile.methods

theorem methods_ofClass (classFile : ClassFile) : (ofClass classFile).methods = methodNames classFile :=
  (collects_ofClass classFile).names

/-- What is found in methods of a name is found in the instructions of the name. -/
private theorem mem_filterMap_bodyOf {find : Instruction → Option String} :
    used ∈ (bodyOf classFile name).filterMap find ↔ ∃ method ∈ classFile.methods,
      method.name = name ∧ ∃ instruction ∈ method.instructions, find instruction = some used := by
  simp only [List.mem_filterMap, mem_bodyOf_iff]
  constructor
  · intro ⟨instruction, ⟨method, declared, named, member⟩, found⟩
    exact ⟨method, declared, named, instruction, member, found⟩
  · intro ⟨method, declared, named, instruction, member, found⟩
    exact ⟨instruction, ⟨method, declared, named, member⟩, found⟩

theorem mem_fields_ofClass : used ∈ ((ofClass classFile).usageOf name).fields ↔ used ∈ fieldsOf classFile name := by
  rw [(collects_ofClass classFile).fields, fieldsOf, mem_filterMap_bodyOf]

theorem mem_calls_ofClass : used ∈ ((ofClass classFile).usageOf name).calls ↔ used ∈ callsOf classFile name := by
  rw [(collects_ofClass classFile).calls, callsOf, mem_filterMap_bodyOf]

end UsageTable

end ClassMetrics
