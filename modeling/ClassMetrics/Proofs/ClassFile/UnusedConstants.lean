import ClassMetrics.Proofs.ClassFile.Prefixes
import ClassMetrics.Proofs.ClassFile.Simulation
import ClassMetrics.Proofs.ClassFile.StoredConstants

namespace ClassMetrics.ClassFile

open StoredConstant (slotCount)

/-- Where the constants stand in the bytes of a class. -/
structure PoolAt (bytes header : List UInt8) (count : Nat) (constants : List StoredConstant)
    (body : List UInt8) : Prop where
  parts : bytes = header ++ u16Bytes count ++ constants.flatMap StoredConstant.bytes ++ body
  headerLength : header.length = 8
  wellFormed : ∀ constant ∈ constants, constant.WellFormed
  counted : count = slotCount constants + 1
  fits : count ≤ 65535

theorem within_poolOf (constants unused : List StoredConstant) :
    (poolOf constants).Within (poolOf (constants ++ unused)) := by
  have longer : (poolOf (constants ++ unused)).slots =
      (poolOf constants).slots ++ (unused.flatMap StoredConstant.slots).toArray := by
    simp [poolOf]
  have within := ConstantPool.within_append (poolOf constants).slots (unused.flatMap StoredConstant.slots).toArray
  rwa [← longer] at within

theorem decode_of_reads {taken : List UInt8} {classFile : ClassFile} (reads : Reads read taken classFile)
    (rest : List UInt8) : decode (taken ++ rest) = .ok classFile :=
  decode_eq_ok_iff.mpr ⟨_, reads 0 rest⟩

section Accepted

variable {bytes : List UInt8} {classFile : ClassFile}

theorem parts_of_decode (decoded : decode bytes = .ok classFile) :
    ∃ header pool behindHeader behindPool final, header.length = 8 ∧ bytes = header ++ behindHeader.rest ∧
      Reads readHeader header () ∧ ConstantPool.read behindHeader = .ok (pool, behindPool) ∧
      readBody pool behindPool = .ok (classFile, final) := by
  obtain ⟨final, reads⟩ := decode_eq_ok_iff.mp decoded
  rw [read_eq] at reads
  obtain ⟨_, behindHeader, headerRead, reads⟩ := Reader.bind_eq_ok_iff.mp reads
  obtain ⟨pool, behindPool, poolRead, bodyRead⟩ := Reader.bind_eq_ok_iff.mp reads
  obtain ⟨header, length, parts, _⟩ := spans_readHeader _ _ _ headerRead
  obtain ⟨taken, takenParts, headerReads⟩ := simulated_readHeader _ _ _ _ headerRead
  have same : taken = header := List.append_cancel_right (takenParts.symm.trans parts)
  exact ⟨header, pool, behindHeader, behindPool, final, length, parts, same ▸ headerReads, poolRead, bodyRead⟩

/-- The name of the class is in the pool, so slot zero is not all there is. -/
theorem two_le_slots_of_readBody {pool : ConstantPool} {cursor final : Cursor}
    (accepted : readBody pool cursor = .ok (classFile, final)) (unused : pool.slots[0]? = some none) :
    2 ≤ pool.slots.size := by
  obtain ⟨_, _, _, rest⟩ := Reader.bind_eq_ok_iff.mp accepted
  obtain ⟨index, _, _, rest⟩ := Reader.bind_eq_ok_iff.mp rest
  obtain ⟨name, _, named, _⟩ := Reader.bind_eq_ok_iff.mp rest
  cases found : pool.className index with
  | error reason =>
      rw [found] at named
      cases named
  | ok name =>
      obtain ⟨constant, held, _⟩ := bind_eq_ok_iff.mp found
      unfold ConstantPool.constant at held
      split at held
      · rename_i value filled
        obtain ⟨inside, _⟩ := Array.getElem?_eq_some_iff.mp filled
        have later : index ≠ 0 := by
          rintro rfl
          rw [unused] at filled
          cases filled
        omega
      · cases held

theorem exists_poolAt (decoded : decode bytes = .ok classFile) :
    ∃ header count constants body, PoolAt bytes header count constants body := by
  obtain ⟨header, pool, behindHeader, behindPool, final, length, parts, _, poolRead, bodyRead⟩ :=
    parts_of_decode decoded
  obtain ⟨count, behindCount, countRead, rest⟩ := Reader.bind_eq_ok_iff.mp poolRead
  obtain ⟨slots, behindSlots, slotsRead, done⟩ := Reader.bind_eq_ok_iff.mp rest
  cases done
  obtain ⟨small, countParts, _⟩ := Reader.unsigned_eq_ok countRead
  obtain ⟨constants, wellFormed, constantParts, total⟩ := StoredConstant.stored_of_readSlots slotsRead
  have positive : count ≠ 0 := by
    rintro rfl
    rw [ConstantPool.readSlots] at slotsRead
    cases slotsRead
    exact absurd (two_le_slots_of_readBody bodyRead rfl) (by decide)
  refine ⟨header, count, constants, behindPool.rest, ?_, length, wellFormed, ?_, by omega⟩
  · rw [parts, countParts, constantParts]
    simp only [List.append_assoc]
  · simp only [List.size_toArray, List.length_cons, List.length_nil] at total
    omega

end Accepted

/-- Well-formed constants at the end of the pool, counted in, leave the class that is decoded as it was. -/
theorem decode_with_unused_constants {bytes : List UInt8} {classFile : ClassFile}
    (decoded : decode bytes = .ok classFile) :
    (∃ header count constants body, PoolAt bytes header count constants body) ∧
      ∀ header count constants body, PoolAt bytes header count constants body →
        ∀ unused : List StoredConstant, (∀ constant ∈ unused, constant.WellFormed) →
          count + slotCount unused ≤ 65535 →
          decode (header ++ u16Bytes (count + slotCount unused) ++
            (constants.flatMap StoredConstant.bytes ++ unused.flatMap StoredConstant.bytes) ++ body) =
              .ok classFile := by
  refine ⟨exists_poolAt decoded, ?_⟩
  rintro header count constants body ⟨located, length, wellFormed, rfl, fits⟩ unused unusedWellFormed room
  obtain ⟨taken, pool, behindHeader, behindPool, final, takenLength, parts, headerReads, poolRead, bodyRead⟩ :=
    parts_of_decode decoded
  -- The header has a fixed length and the pool says how long it is, so the parts are those that were read.
  rw [located, List.append_assoc, List.append_assoc] at parts
  obtain ⟨rfl, behind⟩ := List.append_inj parts (length.trans takenLength.symm)
  rw [← List.append_assoc] at behind
  have poolReads := reads_poolOf wellFormed fits behindHeader.offset body
  rw [behind] at poolReads
  rw [show behindHeader = ⟨behindHeader.offset, behindHeader.rest⟩ from rfl, poolReads] at poolRead
  cases poolRead
  obtain ⟨bodyTaken, rfl, bodyReads⟩ := simulated_readBody (within_poolOf constants unused) _ _ _ _ bodyRead
  have total : slotCount (constants ++ unused) + 1 = slotCount constants + 1 + slotCount unused := by
    rw [StoredConstant.slotCount_append]
    omega
  have allWellFormed : ∀ constant ∈ constants ++ unused, constant.WellFormed := by
    intro constant member
    rcases List.mem_append.mp member with among | among
    · exact wellFormed constant among
    · exact unusedWellFormed constant among
  have widerReads := reads_poolOf allWellFormed (total ▸ room)
  rw [total, List.flatMap_append] at widerReads
  have reads : Reads read (header ++ ((u16Bytes (slotCount constants + 1 + slotCount unused) ++
      (constants.flatMap StoredConstant.bytes ++ unused.flatMap StoredConstant.bytes)) ++ bodyTaken)) classFile := by
    rw [read_eq]
    exact headerReads.bind (widerReads.bind bodyReads)
  have whole := decode_of_reads reads final.rest
  simpa only [List.append_assoc] using whole

/-- A long number, a text with a two-byte NUL, a handle and a reference to slots that are not there. -/
def strayConstants : List StoredConstant := [
  ⟨5, [0, 0, 0, 0, 0, 0, 0, 42]⟩, ⟨1, [0, 3, 0x61, 0xC0, 0x80]⟩, ⟨15, [6, 0, 1]⟩, ⟨9, [0xFF, 0xFF, 0xFF, 0xFF]⟩]

def returningConstants : List StoredConstant :=
  [⟨1, [0, 1, 0x41]⟩, ⟨7, [0, 1]⟩, ⟨1, [0, 4, 0x43, 0x6F, 0x64, 0x65]⟩]

theorem returningClass_with_unused_constants :
    PoolAt returningClass (returningClass.take 8) 4 returningConstants (returningClass.drop 24) ∧
      (∀ constant ∈ strayConstants, constant.WellFormed) ∧ slotCount strayConstants = 5 ∧
      decode (returningClass.take 8 ++ u16Bytes (4 + slotCount strayConstants) ++
        (returningConstants.flatMap StoredConstant.bytes ++ strayConstants.flatMap StoredConstant.bytes) ++
          returningClass.drop 24) =
        .ok ⟨"A", none, 0x21, [], [⟨"A", "Code", [.other 0xB1], []⟩]⟩ := by
  have decoded : decode returningClass = .ok ⟨"A", none, 0x21, [], [⟨"A", "Code", [.other 0xB1], []⟩]⟩ := by
    decide +kernel
  have located : PoolAt returningClass (returningClass.take 8) 4 returningConstants (returningClass.drop 24) := by
    refine ⟨by decide, rfl, ?_, rfl, by decide⟩
    have name : (ModifiedUtf8.decode? [0x41]).isSome = true := by decide +kernel
    have code : (ModifiedUtf8.decode? [0x43, 0x6F, 0x64, 0x65]).isSome = true := by decide +kernel
    simp only [returningConstants, List.forall_mem_cons]
    exact ⟨.text (by decide) name, .fixed rfl, .text (by decide) code, by simp⟩
  have stray : ∀ constant ∈ strayConstants, constant.WellFormed := by
    have text : (ModifiedUtf8.decode? [0x61, 0xC0, 0x80]).isSome = true := by decide +kernel
    simp only [strayConstants, List.forall_mem_cons]
    exact ⟨.fixed rfl, .text (by decide) text, .fixed rfl, .fixed rfl, by simp⟩
  exact ⟨located, stray, rfl,
    (decode_with_unused_constants decoded).2 _ _ _ _ located strayConstants stray (by decide)⟩

end ClassMetrics.ClassFile
