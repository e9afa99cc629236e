import ClassMetrics.ClassFile.Basic
import ClassMetrics.Data.Lists
import ClassMetrics.Data.Partition

namespace ClassMetrics

/-!
The method graph of a class: its method names, two of which are linked if they access a field of one
name or if one calls the other on the class itself. Methods of one name count as one. The lack of
cohesion (LCOM) is the number of parts into which the graph falls.
-/

structure ClassCohesion where
  className : String
  lcom : Nat
  /-- Names in the order of their first declaration. -/
  methods : List String
  /-- Linked pairs, in the order of `methods`. -/
  links : List (String × String)
deriving Repr, DecidableEq

/-- What methods of one name use, each name once. -/
structure MethodUsage where
  fields : List String
  /-- Methods called on the class itself. -/
  calls : List String
deriving Repr, DecidableEq

namespace MethodUsage

def empty : MethodUsage := ⟨[], []⟩

/-- Takes note of an instruction in the class with the key `this`. -/
def note (this : String) (usage : MethodUsage) : Instruction → MethodUsage
  | .access _ field => { usage with fields := usage.fields.insert field.name }
  | .invoke _ method =>
      if InternalName.classKey method.owner = this then
        { usage with calls := usage.calls.insert method.name }
      else usage
  | _ => usage

end MethodUsage

structure UsageTable where
  /-- Names in the order of their first declaration. -/
  methods : List String
  usages : List (String × MethodUsage)
deriving Repr, DecidableEq

namespace UsageTable

def empty : UsageTable := ⟨[], []⟩

def usageOf (table : UsageTable) (name : String) : MethodUsage :=
  (Keyed.get? name table.usages).getD .empty

/-- Adds what a method uses to what others of its name do. -/
def enter (this : String) (table : UsageTable) (method : Method) : UsageTable where
  methods := if (Keyed.get? method.name table.usages).isSome then table.methods else table.methods ++ [method.name]
  usages :=
    let usage := method.instructions.foldl (MethodUsage.note this) (table.usageOf method.name)
    Keyed.insert method.name usage table.usages

def ofClass (classFile : ClassFile) : UsageTable :=
  classFile.methods.foldl (enter classFile.key) empty

def linked (table : UsageTable) (first second : String) : Bool :=
  let one := table.usageOf first
  let other := table.usageOf second
  one.fields.any other.fields.contains || one.calls.contains second || other.calls.contains first

def links (table : UsageTable) : List (String × String) :=
  (pairs table.methods).filter fun (first, second) => table.linked first second

end UsageTable

def Cohesion.ofClass (classFile : ClassFile) : ClassCohesion :=
  let table := UsageTable.ofClass classFile
  let links := table.links
  { className := classFile.key, lcom := (Partition.ofLinks table.methods links).count, methods := table.methods, links }

end ClassMetrics
