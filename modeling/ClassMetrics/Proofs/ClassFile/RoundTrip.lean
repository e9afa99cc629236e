import ClassMetrics.Proofs.ClassFile.CodeArray

namespace ClassMetrics

/-- A reference is a slot number that is looked up at once. -/
theorem Reads.resolve {α β : Type} {slot : UInt16} {lookup : Nat → Except FormatError α} {value : α}
    {next : α → Reader β} {bytes : List UInt8} {result : β} (found : lookup slot.toNat = .ok value)
    (second : Reads (next value) bytes result) :
    Reads (Reader.u16 >>= fun index => liftM (lookup index) >>= next) (u16Bytes slot.toNat ++ bytes)
      result :=
  (Reads.u16 slot.toNat_lt).bind ((Reads.lift found).bind_nil second)

theorem yields_field (field : TypedName) :
    Yields (encodeField field) fun bytes final =>
      Reads (ClassFile.readField (storedPool final)) bytes field := by
  refine (yields_text field.name).bind fun nameSlot => ?_
  refine (yields_text field.descriptor).bind fun descriptorSlot => ?_
  refine .pure fun final _ descriptor name => ?_
  simp only [List.append_assoc]
  refine (Reads.skip_number 2 1).bind (Reads.resolve name (Reads.resolve descriptor ?_))
  exact (Reads.u16 (by decide)).bind_last ((Reads.pure ()).bind_nil (.pure field))

namespace Method

def codeSize (method : Method) : Nat := Instruction.totalSize method.instructions

/-- Number of bytes that the attributes of the code take, their count included. -/
def codeAttributesSize (locals : List TypedName) : Nat :=
  if locals.isEmpty then 2 else 10 + 10 * locals.length

/-- Number of bytes that the code attribute holds. -/
def codeAttributeSize (method : Method) : Nat :=
  10 + method.codeSize + codeAttributesSize method.locals

/-- What the format can hold of a method, beyond its constants. -/
@[mk_iff]
structure Encodable (method : Method) : Prop where
  instructions : ∀ instruction ∈ method.instructions, instruction.Plain
  locals : method.locals.length ≤ 65535
  size : method.codeAttributeSize < 4294967296

instance : DecidablePred Encodable := fun method => decidable_of_iff' _ (encodable_iff method)

theorem yields_locals (codeLength slot : Nat) (locals : List TypedName) :
    Yields (encodeLocals codeLength slot locals) fun bytes final =>
      ReadsAll (ClassFile.readLocal (storedPool final)) bytes locals ∧
        bytes.length = 10 * locals.length := by
  induction locals generalizing slot with
  | nil => exact .pure fun final _ => ⟨.nil, rfl⟩
  | cons entry rest ih =>
      refine (yields_text entry.name).bind fun nameSlot => ?_
      refine (yields_text entry.descriptor).bind fun descriptorSlot => ?_
      refine (ih (slot + 1)).bind fun others => .pure fun final _ readsOthers descriptor name => ?_
      constructor
      · refine ReadsAll.cons ?_ readsOthers.1
        simp only [List.append_assoc]
        refine (Reads.skip_number 2 0).bind ((Reads.skip_number 2 codeLength).bind ?_)
        refine Reads.resolve name (Reads.resolve descriptor ?_)
        exact (Reads.skip_number 2 slot).bind_last (.pure entry)
      · simp only [List.length_append, length_bigEndianBytes, readsOthers.2, List.length_cons]
        omega

theorem yields_codeAttributes {locals : List TypedName} (codeLength : Nat)
    (fits : locals.length ≤ 65535) :
    Yields (encodeCodeAttributes codeLength locals) fun bytes final =>
      (∀ method : Method, method.locals = [] →
        Reads (Reader.u16 >>= fun count => ClassFile.readCodeAttributes (storedPool final) count method)
          bytes { method with locals }) ∧
        bytes.length = codeAttributesSize locals := by
  unfold encodeCodeAttributes codeAttributesSize
  cases locals with
  | nil =>
      refine .pure fun final _ => ⟨fun method none => ?_, rfl⟩
      rw [← none]
      exact (Reads.u16 (by decide)).bind_last (.pure method)
  | cons entry rest =>
      refine (yields_text _).bind fun nameSlot => ?_
      refine (yields_locals codeLength 0 (entry :: rest)).bind fun entries => ?_
      refine .pure fun final _ readsEntries name => ⟨fun method none => ?_, ?_⟩
      · simp only [List.append_assoc]
        refine (Reads.u16 (by decide)).bind (Reads.resolve name ?_)
        refine (Reads.u32 (by omega)).bind ((Reads.u16 (by omega)).bind ?_)
        refine readsEntries.1.times.bind_last ?_
        rw [none]
        exact .pure _
      · simp only [List.length_append, length_bigEndianBytes, readsEntries.2, List.isEmpty_cons,
          Bool.false_eq_true, if_false]

theorem yields_codeAttribute {method : Method} (encodable : method.Encodable) :
    Yields method.encodeCode fun bytes final =>
      Reads (ClassFile.readCode (storedPool final) { method with instructions := [], locals := [] })
        bytes method ∧ bytes.length = method.codeAttributeSize := by
  have small : method.codeSize < 4294967296 := by
    have size := encodable.size
    unfold codeAttributeSize at size
    omega
  refine (yields_code encodable.instructions).bind fun code => ?_
  refine (yields_codeAttributes code.length encodable.locals).bind fun attributes => ?_
  refine .pure fun final _ readsAttributes decodes => ?_
  have codeLength : code.length = method.codeSize := decodes.2
  constructor
  · simp only [List.append_assoc]
    refine (Reads.skip_number 2 8).bind ((Reads.skip_number 2 8).bind ?_)
    refine (Reads.u32 (codeLength ▸ small)).bind ((Reads.take rfl).bind ?_)
    refine (Reads.lift decodes.1.decode).bind_nil ((Reads.u16 (by decide)).bind ?_)
    refine (Reads.skip rfl).bind_nil ?_
    exact readsAttributes.1 { method with locals := [] } rfl
  · simp only [List.length_append, length_bigEndianBytes, readsAttributes.2, codeLength,
      codeAttributeSize]
    omega

theorem yields_attributes {method : Method} (encodable : method.Encodable) :
    Yields method.encodeAttributes fun bytes final =>
      Reads (Reader.u16 >>= fun count => ClassFile.readMethodAttributes (storedPool final) count
        { method with instructions := [], locals := [] }) bytes method := by
  unfold encodeAttributes
  split
  · refine (yields_codeAttribute encodable).bind fun body => ?_
    refine (yields_text "Code").bind fun nameSlot => .pure fun final _ name readsBody => ?_
    have small : body.length < 4294967296 := readsBody.2 ▸ encodable.size
    simp only [List.append_assoc]
    refine (Reads.u16 (by decide)).bind (Reads.resolve name ((Reads.u32 small).bind ?_))
    refine Reads.bind_offset fun start => (Reads.take rfl).bind_last ?_
    exact readsBody.1.within.bind_nil (.pure method)
  · rename_i withoutCode
    have bare : { method with instructions := [], locals := [] } = method := by
      cases method
      simp_all [hasCode]
    refine .pure fun final _ => ?_
    rw [bare]
    exact (Reads.u16 (by decide)).bind_last (.pure method)

theorem yields_method {method : Method} (encodable : method.Encodable) :
    Yields method.encode fun bytes final =>
      Reads (ClassFile.readMethod (storedPool final)) bytes method := by
  refine (yields_text method.name).bind fun nameSlot => ?_
  refine (yields_text method.descriptor).bind fun descriptorSlot => ?_
  refine (yields_attributes encodable).bind fun attributes => ?_
  refine .pure fun final _ readsAttributes descriptor name => ?_
  simp only [List.append_assoc]
  refine (Reads.skip_number 2 _).bind ?_
  exact Reads.resolve name (Reads.resolve descriptor readsAttributes)

end Method

namespace ClassFile

/-- What the format can hold. -/
@[mk_iff]
structure Encodable (classFile : ClassFile) : Prop where
  constants : PoolFits classFile.constants
  fields : classFile.fields.length ≤ 65535
  methods : classFile.methods.length ≤ 65535
  method : ∀ method ∈ classFile.methods, method.Encodable

instance : DecidablePred Encodable := fun classFile => decidable_of_iff' _ (encodable_iff classFile)

/-- Members as they are written are a table of as many members. -/
theorem yields_table {α : Type} {write : α → PoolWriter (List UInt8)}
    {reader : ConstantPool → Reader α} {items : List α}
    (every : ∀ item ∈ items, Yields (write item) fun bytes final =>
      Reads (reader (storedPool final)) bytes item) :
    Yields (PoolWriter.each write items) fun bytes final =>
      Reads (Reader.times items.length (reader (storedPool final))) bytes items := by
  have all : Yields (PoolWriter.each write items) fun bytes final =>
      ReadsAll (reader (storedPool final)) bytes items :=
    Yields.each (fun items bytes final => ReadsAll (reader (storedPool final)) bytes items)
      (fun _ => .nil) (fun _ _ _ _ _ first others => .cons first others) every
  exact all.imp fun _ _ _ reads => reads.times

/-- Slot zero is no constant, so it cannot be taken for a superclass. -/
theorem yields_superclass (superclass : Option String) :
    Yields (encodeSuperclass superclass) fun slot final =>
      ∀ {next : Option String → Reader ClassFile} {bytes : List UInt8} {result : ClassFile},
        Reads (next superclass) bytes result →
        Reads (if slot.toNat = 0 then pure none >>= next
          else some <$> liftM ((storedPool final).className slot.toNat) >>= next) bytes result := by
  cases superclass with
  | none =>
      refine .pure fun final _ next bytes result reads => ?_
      exact (Reads.pure none).bind_nil reads
  | some name =>
      refine (yields_className name).imp fun slot final _ found next bytes result reads => ?_
      rw [if_neg (by omega), found.2]
      exact reads

theorem yields_body {classFile : ClassFile} (encodable : classFile.Encodable) :
    Yields classFile.encodeBody fun bytes final =>
      Reads read (u32Bytes magic ++ u16Bytes 0 ++ u16Bytes 52 ++
        (u16Bytes (final.length + 1) ++ final.flatMap PoolEntry.encode) ++ bytes) classFile := by
  have fields := encodable.fields
  have methods := encodable.methods
  refine (yields_className classFile.name).bind fun nameSlot => ?_
  refine (yields_superclass classFile.superclass).bind fun parentSlot => ?_
  refine (yields_table fun field _ => yields_field field).bind fun fieldBytes => ?_
  refine (yields_table fun method member => Method.yields_method
    (encodable.method method member)).bind fun methodBytes => ?_
  refine .pure fun final fits readsMethods readsFields parent name => ?_
  have flags : UInt16.ofNat classFile.accessFlags.toNat = classFile.accessFlags := by simp
  -- Kept in one piece: the pool is read whole, before anything that refers to it.
  have pool := reads_pool fits
  generalize u16Bytes (final.length + 1) ++ final.flatMap PoolEntry.encode = poolBytes at pool ⊢
  simp only [List.append_assoc]
  refine (Reads.u32 (by decide)).bind ((Reads.skip_number 2 0).bind ((Reads.skip_number 2 52).bind ?_))
  refine pool.bind ((Reads.u16 classFile.accessFlags.toNat_lt).bind (Reads.resolve name.2 ?_))
  refine (Reads.u16 parentSlot.toNat_lt).bind (parent ?_)
  refine (Reads.u16 (by decide)).bind ((Reads.skip rfl).bind_nil ((Reads.u16 (by omega)).bind ?_))
  refine readsFields.bind ((Reads.u16 (by omega)).bind (readsMethods.bind ?_))
  refine (Reads.u16 (by decide)).bind_last ((Reads.pure ()).bind_nil ?_)
  rw [flags]
  exact .pure classFile

/-- Writing a class and reading the bytes gives the class, for every class that the format can hold. -/
theorem decode_encode {classFile : ClassFile} (encodable : classFile.Encodable) :
    decode classFile.encode = .ok classFile := by
  -- The pool in the file is the one that writing the body leaves, so no constant is still to come.
  have reads := (yields_body encodable []).2 classFile.constants encodable.constants List.prefix_rfl
  have whole := reads 0 []
  simp only [List.append_nil, List.append_assoc] at whole
  simp only [decode, encode, List.append_assoc, constants] at whole ⊢
  rw [whole]
  rfl

/-- A class named like an attribute, with shared constants and every way a method can be stored. -/
def codeClass : ClassFile where
  name := "Code"
  superclass := some "java/lang/Object"
  accessFlags := 0x8421
  fields := [⟨"größe", "I"⟩, ⟨"Code", "LCode;"⟩]
  methods := [
    ⟨"abstract", "()V", [], []⟩,
    ⟨"unnamed", "(I)V", [], [⟨"this", "LCode;"⟩, ⟨"größe", "I"⟩]⟩,
    ⟨"run", "()V",
      [.other 0x2a, .access .getField ⟨"Code", "größe", "I"⟩, .access .putStatic ⟨"Code", "größe", "I"⟩,
        .invoke .interface ⟨"Code", "run", "()V"⟩, .invoke .special ⟨"Code", "run", "()V"⟩, .other 0xb1],
      [⟨"this", "LCode;"⟩]⟩]

theorem decode_encode_codeClass :
    codeClass.Encodable ∧ decode codeClass.encode = .ok codeClass :=
  have encodable : codeClass.Encodable := by decide +kernel
  ⟨encodable, decode_encode encodable⟩

end ClassFile

end ClassMetrics
