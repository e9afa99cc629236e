import ClassMetrics.ClassFile.Descriptor

namespace ClassMetrics

/-- A field or a local variable. -/
structure TypedName where
  name : String
  descriptor : String
deriving Repr, DecidableEq

/-- A field or method as an instruction names it. -/
structure MemberRef where
  owner : String
  name : String
  descriptor : String
deriving Repr, DecidableEq

inductive Dispatch where
  | virtual
  | special
  | static
  | interface
deriving Repr, DecidableEq

inductive FieldAccess where
  | getField
  | putField
  | getStatic
  | putStatic
deriving Repr, DecidableEq

/-- Only calls and field accesses keep their operand. -/
inductive Instruction where
  | invoke (dispatch : Dispatch) (method : MemberRef)
  | access (kind : FieldAccess) (field : MemberRef)
  | other (opcode : UInt8)
deriving Repr, DecidableEq

structure Method where
  name : String
  descriptor : String
  instructions : List Instruction
  locals : List TypedName
deriving Repr, DecidableEq

structure ClassFile where
  name : String
  superclass : Option String
  accessFlags : UInt16
  fields : List TypedName
  methods : List Method
deriving Repr, DecidableEq

/-- The name under which graphs and scores know the class. -/
def ClassFile.key (classFile : ClassFile) : String :=
  InternalName.classKey classFile.name

/-- Module descriptors are stored like classes and are none. -/
def ClassFile.isModule (classFile : ClassFile) : Bool :=
  classFile.name == "module-info" || classFile.accessFlags &&& 0x8000 != 0

end ClassMetrics
