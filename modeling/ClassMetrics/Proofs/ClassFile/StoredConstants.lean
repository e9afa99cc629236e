import ClassMetrics.Proofs.ClassFile.Reads

namespace ClassMetrics

structure StoredConstant where
  tag : UInt8
  payload : List UInt8
deriving Repr, DecidableEq

namespace StoredConstant

/-- How many bytes follow a tag, unless they are a text of any length. -/
def fixedSize? : Nat → Option Nat
  | 7 | 8 | 16 | 19 | 20 => some 2
  | 15 => some 3
  | 3 | 4 | 9 | 10 | 11 | 12 | 17 | 18 => some 4
  | 5 | 6 => some 8
  | _ => none

inductive WellFormed : StoredConstant → Prop where
  | text {content : List UInt8} (fits : content.length ≤ 65535)
      (decodes : (ModifiedUtf8.decode? content).isSome = true) :
      WellFormed ⟨1, u16Bytes content.length ++ content⟩
  | fixed {tag : UInt8} {payload : List UInt8} (size : fixedSize? tag.toNat = some payload.length) :
      WellFormed ⟨tag, payload⟩

def bytes (constant : StoredConstant) : List UInt8 := [constant.tag] ++ constant.payload

/-- What a constant of this tag and payload is to those who refer to it. -/
def meaning (tag : Nat) (payload : List UInt8) : Constant :=
  match tag with
  | 1 => .text ((ModifiedUtf8.decode? (payload.drop 2)).getD "")
  | 7 => .classRef (bigEndian payload)
  | 9 | 10 | 11 => .memberRef (bigEndian (payload.take 2)) (bigEndian (payload.drop 2))
  | 12 => .nameAndType (bigEndian (payload.take 2)) (bigEndian (payload.drop 2))
  | _ => .other

/-- The slots that a constant fills, the second of which is left empty. -/
def slots (constant : StoredConstant) : List (Option Constant) :=
  some (meaning constant.tag.toNat constant.payload) ::
    if Constant.isWide constant.tag.toNat then [none] else []

/-- Number of slots that constants take. -/
def slotCount (constants : List StoredConstant) : Nat := (constants.flatMap slots).length

section Reading

variable {tag : Nat} {payload : List UInt8}

theorem reads_skipped {size : Nat} (exact : payload.length = size) :
    Reads (Reader.skip size >>= fun _ => pure Constant.other) payload .other :=
  (Reads.skip exact).bind_last (.pure _)

theorem reads_index (exact : payload.length = 2) (build : Nat → Constant) :
    Reads (Reader.u16 >>= fun index => pure (build index)) payload (build (bigEndian payload)) := by
  have number : Reads Reader.u16 payload (bigEndian payload) := (Reads.take exact).bind_last (.pure _)
  exact number.bind_last (.pure _)

theorem reads_indices (exact : payload.length = 4) (build : Nat → Nat → Constant) :
    Reads (Reader.u16 >>= fun first => Reader.u16 >>= fun second => pure (build first second)) payload
      (build (bigEndian (payload.take 2)) (bigEndian (payload.drop 2))) := by
  have early : Reads Reader.u16 (payload.take 2) (bigEndian (payload.take 2)) :=
    (Reads.take (by rw [List.length_take, exact]; rfl)).bind_last (.pure _)
  have two : (payload.drop 2).length = 2 := by rw [List.length_drop, exact]
  have late := reads_index two (build (bigEndian (payload.take 2)))
  have both : Reads (Reader.u16 >>= fun first => Reader.u16 >>= fun second => pure (build first second))
      (payload.take 2 ++ payload.drop 2) (build (bigEndian (payload.take 2)) (bigEndian (payload.drop 2))) :=
    early.bind late
  rwa [List.take_append_drop] at both

theorem reads_fixed (index : Nat) (size : fixedSize? tag = some payload.length)
    (narrow : Constant.isWide tag = false) : Reads (Constant.read tag index) payload (meaning tag payload) := by
  unfold fixedSize? at size
  split at size
  case h_1 => exact reads_index (Option.some.inj size).symm .classRef
  case h_2 | h_3 | h_4 | h_5 | h_6 | h_7 | h_8 | h_13 | h_14 => exact reads_skipped (Option.some.inj size).symm
  case h_9 | h_10 | h_11 => exact reads_indices (Option.some.inj size).symm .memberRef
  case h_12 => exact reads_indices (Option.some.inj size).symm .nameAndType
  case h_15 | h_16 => cases narrow
  case h_17 => cases size

theorem WellFormed.reads {constant : StoredConstant} (wellFormed : constant.WellFormed)
    (narrow : Constant.isWide constant.tag.toNat = false) (index : Nat) :
    Reads (Constant.read constant.tag.toNat index) constant.payload
      (meaning constant.tag.toNat constant.payload) := by
  cases wellFormed with
  | @text content fits decodes =>
      obtain ⟨value, decoded⟩ := Option.isSome_iff_exists.mp decodes
      have content_eq : (u16Bytes content.length ++ content).drop 2 = content :=
        List.drop_left' (length_bigEndianBytes 2 content.length)
      have text : meaning 1 (u16Bytes content.length ++ content) = .text value := by
        simp only [meaning, content_eq, decoded, Option.getD_some]
      refine (Reads.u16 (by omega)).bind ((Reads.take rfl).bind_last ?_)
      rw [decoded]
      change Reads _ [] (meaning 1 (u16Bytes content.length ++ content))
      rw [text]
      exact .pure _
  | fixed size => exact reads_fixed index size narrow

theorem WellFormed.wide {constant : StoredConstant} (wellFormed : constant.WellFormed)
    (wide : Constant.isWide constant.tag.toNat = true) :
    constant.payload.length = 8 ∧ constant.slots = [some .other, none] := by
  cases wellFormed with
  | text => cases wide
  | @fixed tag payload size =>
      have either : tag.toNat = 5 ∨ tag.toNat = 6 := by simpa [Constant.isWide] using wide
      rcases either with five | six
      · rw [five] at size
        exact ⟨(Option.some.inj size).symm, by simp [slots, five, meaning, Constant.isWide]⟩
      · rw [six] at size
        exact ⟨(Option.some.inj size).symm, by simp [slots, six, meaning, Constant.isWide]⟩

theorem slots_of_narrow {constant : StoredConstant} (narrow : Constant.isWide constant.tag.toNat = false) :
    constant.slots = [some (meaning constant.tag.toNat constant.payload)] := by
  simp [slots, narrow]

theorem slotCount_cons (constant : StoredConstant) (constants : List StoredConstant) :
    slotCount (constant :: constants) = constant.slots.length + slotCount constants := by
  simp [slotCount]

theorem slotCount_append (constants more : List StoredConstant) :
    slotCount (constants ++ more) = slotCount constants + slotCount more := by
  simp [slotCount]

theorem reads_stored {constants : List StoredConstant} (wellFormed : ∀ constant ∈ constants, constant.WellFormed)
    (filled : Array (Option Constant)) :
    Reads (ConstantPool.readSlots (filled.size + slotCount constants) filled) (constants.flatMap bytes)
      (filled ++ (constants.flatMap slots).toArray) := by
  induction constants generalizing filled with
  | nil =>
      rw [ConstantPool.readSlots]
      simpa [slotCount] using Reads.pure filled
  | cons constant rest ih =>
      have first := wellFormed constant List.mem_cons_self
      have others := fun filled => ih (fun other among => wellFormed other (List.mem_cons_of_mem _ among)) filled
      have room : filled.size < filled.size + slotCount (constant :: rest) := by
        simp only [slotCount_cons, slots, List.length_cons]
        omega
      rw [ConstantPool.readSlots, if_pos room, List.flatMap_cons, bytes, List.append_assoc]
      refine (Reads.u8 constant.tag).bind ?_
      by_cases wide : Constant.isWide constant.tag.toNat = true
      · obtain ⟨size, fills⟩ := first.wide wide
        have fits : filled.size + 1 < filled.size + slotCount (constant :: rest) := by
          simp only [slotCount_cons, fills, List.length_cons]
          omega
        have later := others (filled.push (some .other) |>.push none)
        rw [if_pos wide, if_pos fits]
        refine (Reads.skip size).bind ?_
        simpa [slotCount_cons, fills, Nat.add_assoc, Nat.add_comm, Nat.add_left_comm] using later
      · have narrow : Constant.isWide constant.tag.toNat = false := by simpa using wide
        have fills := slots_of_narrow narrow
        have later := others (filled.push (some (meaning constant.tag.toNat constant.payload)))
        rw [if_neg wide]
        refine (first.reads narrow _).bind ?_
        simpa [slotCount_cons, fills, Nat.add_assoc, Nat.add_comm, Nat.add_left_comm] using later

end Reading

section Accepting

variable {cursor final : Cursor}

theorem fixed_of_read {tag index : Nat} {value : Constant} (other : tag ≠ 1)
    (accepted : Constant.read tag index cursor = .ok (value, final)) :
    ∃ payload, fixedSize? tag = some payload.length ∧ cursor.rest = payload ++ final.rest := by
  have spans : ∃ size, fixedSize? tag = some size ∧ (Constant.read tag index).Spans size := by
    have skipped (size : Nat) : Reader.Spans (Reader.skip size >>= fun _ => pure Constant.other) size :=
      (Reader.Spans.skip size).bind fun _ => .pure _
    have number : Reader.u16.Spans 2 := .unsigned 2
    unfold Constant.read at accepted ⊢
    split at accepted
    case h_1 => exact absurd rfl other
    case h_2 | h_3 | h_4 | h_5 => exact ⟨4, rfl, skipped 4⟩
    case h_6 => exact ⟨2, rfl, number.bind fun _ => .pure _⟩
    case h_7 | h_8 | h_9 | h_10 => exact ⟨2, rfl, skipped 2⟩
    case h_11 | h_12 | h_13 | h_14 => exact ⟨4, rfl, number.bind fun _ => number.bind fun _ => .pure _⟩
    case h_15 => exact ⟨3, rfl, skipped 3⟩
    case h_16 => cases accepted
  obtain ⟨size, known, spans⟩ := spans
  obtain ⟨payload, rfl, parts, _⟩ := spans _ _ _ accepted
  exact ⟨payload, known, parts⟩

theorem text_of_read {index : Nat} {value : Constant}
    (accepted : Constant.read 1 index cursor = .ok (value, final)) :
    ∃ content : List UInt8, content.length ≤ 65535 ∧ (ModifiedUtf8.decode? content).isSome = true ∧
      cursor.rest = u16Bytes content.length ++ content ++ final.rest := by
  obtain ⟨length, behindLength, lengthRead, rest⟩ := Reader.bind_eq_ok_iff.mp accepted
  obtain ⟨content, behind, contentRead, decoding⟩ := Reader.bind_eq_ok_iff.mp rest
  obtain ⟨small, lengthParts, _⟩ := Reader.unsigned_eq_ok lengthRead
  obtain ⟨rfl, contentParts, _⟩ := Reader.take_eq_ok_iff.mp contentRead
  cases decoded : ModifiedUtf8.decode? content with
  | none =>
      rw [decoded] at decoding
      cases decoding
  | some text =>
      rw [decoded] at decoding
      cases decoding
      refine ⟨content, by omega, by rw [decoded]; rfl, ?_⟩
      rw [lengthParts, contentParts, List.append_assoc]

theorem wellFormed_of_read {tag : UInt8} {index : Nat} {value : Constant}
    (accepted : Constant.read tag.toNat index cursor = .ok (value, final)) :
    ∃ payload, WellFormed ⟨tag, payload⟩ ∧ cursor.rest = payload ++ final.rest := by
  by_cases text : tag.toNat = 1
  · have one : tag = 1 := UInt8.toNat_inj.mp text
    subst one
    obtain ⟨content, fits, decodes, parts⟩ := text_of_read accepted
    exact ⟨u16Bytes content.length ++ content, .text fits decodes, parts⟩
  · obtain ⟨payload, size, parts⟩ := fixed_of_read text accepted
    exact ⟨payload, .fixed size, parts⟩

/-- The bytes of an accepted pool are constants that fill the slots up to the count. -/
theorem stored_of_readSlots {count : Nat} {filled result : Array (Option Constant)}
    (accepted : ConstantPool.readSlots count filled cursor = .ok (result, final)) :
    ∃ constants : List StoredConstant, (∀ constant ∈ constants, constant.WellFormed) ∧
      cursor.rest = constants.flatMap bytes ++ final.rest ∧
      filled.size + slotCount constants = max filled.size count := by
  induction filled using ConstantPool.readSlots.induct count generalizing cursor with
  | case1 filled room wide narrow =>
      rw [ConstantPool.readSlots, if_pos room] at accepted
      obtain ⟨number, behind, tagRead, rest⟩ := Reader.bind_eq_ok_iff.mp accepted
      obtain ⟨tag, rfl, parts⟩ := Reader.u8_eq_ok tagRead
      by_cases isWide : Constant.isWide tag.toNat = true
      · rw [if_pos isWide] at rest
        split at rest
        · rename_i fits
          obtain ⟨_, between, skipped, rest⟩ := Reader.bind_eq_ok_iff.mp rest
          obtain ⟨payload, size, payloadParts, _⟩ := Reader.Spans.skip 8 _ _ _ skipped
          obtain ⟨constants, wellFormed, others, total⟩ := wide fits rest
          have first : WellFormed ⟨tag, payload⟩ := by
            have either : tag.toNat = 5 ∨ tag.toNat = 6 := by simpa [Constant.isWide] using isWide
            rcases either with five | six
            · exact .fixed (by rw [five, size]; rfl)
            · exact .fixed (by rw [six, size]; rfl)
          have fills := (first.wide isWide).2
          refine ⟨⟨tag, payload⟩ :: constants, List.forall_mem_cons.mpr ⟨first, wellFormed⟩, ?_, ?_⟩
          · simp [bytes, parts, payloadParts, others]
          · simp only [Array.size_push] at total
            simp only [slotCount_cons, fills, List.length_cons, List.length_nil]
            omega
        · cases rest
      · rw [if_neg isWide] at rest
        obtain ⟨value, between, read, rest⟩ := Reader.bind_eq_ok_iff.mp rest
        obtain ⟨payload, first, payloadParts⟩ := wellFormed_of_read read
        obtain ⟨constants, wellFormed, others, total⟩ := narrow value rest
        have fills := @slots_of_narrow ⟨tag, payload⟩ (by simpa using isWide)
        refine ⟨⟨tag, payload⟩ :: constants, List.forall_mem_cons.mpr ⟨first, wellFormed⟩, ?_, ?_⟩
        · simp [bytes, parts, payloadParts, others]
        · simp only [Array.size_push] at total
          simp only [slotCount_cons, fills, List.length_cons, List.length_nil]
          omega
  | case2 filled full =>
      rw [ConstantPool.readSlots, if_neg full] at accepted
      cases accepted
      refine ⟨[], by simp, rfl, ?_⟩
      simp only [slotCount, List.flatMap_nil, List.length_nil]
      omega

end Accepting

end StoredConstant

namespace ClassFile

def poolOf (constants : List StoredConstant) : ConstantPool :=
  ⟨#[none] ++ (constants.flatMap StoredConstant.slots).toArray⟩

theorem reads_poolOf {constants : List StoredConstant} (wellFormed : ∀ constant ∈ constants, constant.WellFormed)
    (fits : StoredConstant.slotCount constants + 1 ≤ 65535) :
    Reads ConstantPool.read
      (u16Bytes (StoredConstant.slotCount constants + 1) ++ constants.flatMap StoredConstant.bytes)
      (poolOf constants) := by
  have slots := StoredConstant.reads_stored wellFormed #[none]
  have size : (#[none] : Array (Option Constant)).size + StoredConstant.slotCount constants =
      StoredConstant.slotCount constants + 1 :=
    Nat.add_comm 1 _
  rw [size] at slots
  exact (Reads.u16 (by omega)).bind (slots.bind_last (.pure _))

end ClassFile

end ClassMetrics
