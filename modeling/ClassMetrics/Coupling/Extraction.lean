import ClassMetrics.ClassFile.Basic
import ClassMetrics.Coupling.Graph

namespace ClassMetrics

/-- Which classes count as given. -/
structure Platform where
  /-- Class keys that start with one of these are no targets of relations. -/
  starts : List String
  /-- The superclass of all classes, which is no superclass worth a relation. -/
  root : String
deriving Repr, DecidableEq

/-- A method whose descriptor has no parameter list. -/
structure MethodFault where
  className : String
  methodName : String
  reason : FormatError
deriving Repr, DecidableEq

def MethodFault.message (fault : MethodFault) : String :=
  s!"{fault.className}.{fault.methodName}: {fault.reason.message}"

namespace Platform

def covers (platform : Platform) (key : String) : Bool :=
  platform.starts.any fun start => start.toList.isPrefixOf key.toList

/-- Empty keys, the class itself and platform classes are no targets. -/
def admits (platform : Platform) (this target : String) : Bool :=
  target != "" && target != this && !platform.covers target

end Platform

/-- Module descriptors and classes without a key are passed over. -/
def ClassFile.isAnalysed (classFile : ClassFile) : Bool :=
  !classFile.isModule && classFile.key != ""

namespace Coupling

variable (platform : Platform)

def superclassRelation (classFile : ClassFile) : List Relation :=
  match classFile.superclass with
  | none => []
  | some name =>
      let target := InternalName.classKey name
      if target != "" && target != InternalName.classKey platform.root then
        [{ source := classFile.key, target, kind := .superclass }]
      else []

/-- The class and the kind of relation that an instruction mentions. -/
def mentioned? : Instruction → Option (String × RelationKind)
  | .invoke _ method => some (InternalName.classKey method.owner, .callsMethod)
  | .access _ field => some (InternalName.classKey field.owner, .accessPublicVariable)
  | .other _ => none

def admitted (this : String) (mentions : List (String × RelationKind)) : List Relation :=
  (mentions.filter fun mention => platform.admits this mention.1).map fun (target, kind) =>
    { source := this, target, kind }

/-- What a method mentions: instructions, then locals, then parameters. -/
def methodMentions (classFile : ClassFile) (method : Method) :
    Except MethodFault (List (String × RelationKind)) :=
  match Descriptor.parameters method.descriptor with
  | .error reason => .error { className := classFile.name, methodName := method.name, reason }
  | .ok parameters =>
      .ok <| method.instructions.filterMap mentioned? ++
        method.locals.map (fun entry => (Descriptor.classKey entry.descriptor, .localVariable)) ++
        parameters.map (fun parameter => (Descriptor.classKey parameter, .parameterType))

def fieldMentions (classFile : ClassFile) : List (String × RelationKind) :=
  classFile.fields.map fun field => (Descriptor.classKey field.descriptor, .instanceVariable)

/-- All relations of a class, in the order of their occurrence. -/
def classRelations (classFile : ClassFile) : Except MethodFault (List Relation) := do
  let mentions ← classFile.methods.mapM (methodMentions classFile)
  return superclassRelation platform classFile ++
    admitted platform classFile.key (fieldMentions classFile ++ mentions.flatten)

def addClass (graph : CouplingGraph) (classFile : ClassFile) : Except MethodFault CouplingGraph := do
  let relations ← classRelations platform classFile
  return relations.foldl CouplingGraph.relate (graph.ensure classFile.key)

/-- Adds classes one after another. Beside the graph, the keys of the classes that were looked at: all of
them, or those up to the one at fault. -/
def extractInto (graph : CouplingGraph) : List ClassFile → List String × Except MethodFault CouplingGraph
  | [] => ([], .ok graph)
  | classFile :: rest =>
      match addClass platform graph classFile with
      | .error fault => ([classFile.key], .error fault)
      | .ok graph =>
          let (observed, outcome) := extractInto graph rest
          (classFile.key :: observed, outcome)

def extract (classFiles : List ClassFile) : List String × Except MethodFault CouplingGraph :=
  extractInto platform .empty (classFiles.filter (·.isAnalysed))

/-- The graph alone. -/
def graphOf (classFiles : List ClassFile) : Except MethodFault CouplingGraph :=
  (extract platform classFiles).2

end Coupling

end ClassMetrics
