import ClassMetrics.Proofs.ClassFile.UnusedConstants

namespace ClassMetrics

namespace StoredConstant

/-- Longs and doubles. -/
def TakesTwo (constant : StoredConstant) : Prop := constant.tag = 5 ∨ constant.tag = 6

instance : DecidablePred TakesTwo := fun constant =>
  inferInstanceAs (Decidable (constant.tag = 5 ∨ constant.tag = 6))

/-- The slot at which a constant starts that is stored behind these. -/
def slotAfter (before : List StoredConstant) : Nat :=
  1 + before.length + before.countP (TakesTwo ·)

variable {constant : StoredConstant}

theorem isWide_iff_takesTwo : Constant.isWide constant.tag.toNat = true ↔ constant.TakesTwo := by
  have five : constant.tag.toNat = 5 ↔ constant.tag = 5 := UInt8.toNat_inj (b := 5)
  have six : constant.tag.toNat = 6 ↔ constant.tag = 6 := UInt8.toNat_inj (b := 6)
  simp [Constant.isWide, TakesTwo, five, six]

theorem length_slots : constant.slots.length = 1 + if constant.TakesTwo then 1 else 0 := by
  by_cases two : constant.TakesTwo
  · simp [slots, isWide_iff_takesTwo.mpr two, two]
  · simp [slots, mt isWide_iff_takesTwo.mp two, two]

theorem slotAfter_eq (before : List StoredConstant) : slotAfter before = slotCount before + 1 := by
  have counted : slotCount before = before.length + before.countP (TakesTwo ·) := by
    induction before with
    | nil => rfl
    | cons constant rest ih =>
        rw [slotCount_cons, length_slots, ih, List.length_cons, List.countP_cons]
        simp only [decide_eq_true_eq]
        omega
  rw [slotAfter, counted]
  omega

theorem getElem?_slots_iff {offset : Nat} {entry : Option Constant} :
    constant.slots[offset]? = some entry ↔
      offset = 0 ∧ entry = some (meaning constant.tag.toNat constant.payload) ∨
        constant.TakesTwo ∧ offset = 1 ∧ entry = none := by
  rw [← isWide_iff_takesTwo]
  by_cases wide : Constant.isWide constant.tag.toNat = true
  · rcases offset with _ | _ | more <;> simp [slots, wide, eq_comm]
  · rcases offset with _ | more <;> simp [slots, wide, eq_comm]

end StoredConstant

/-- An entry of a concatenation stands in one of its parts, behind the parts before that one. -/
theorem getElem?_flatMap_iff {α β : Type} {items : List α} {part : α → List β} {position : Nat} {entry : β} :
    (items.flatMap part)[position]? = some entry ↔
      ∃ before item after offset, items = before ++ item :: after ∧
        position = (before.flatMap part).length + offset ∧ (part item)[offset]? = some entry := by
  induction items generalizing position with
  | nil => simp
  | cons first rest ih =>
      rw [List.flatMap_cons]
      constructor
      · intro found
        by_cases inside : position < (part first).length
        · rw [List.getElem?_append_left inside] at found
          exact ⟨[], first, rest, position, rfl, by simp, found⟩
        · rw [List.getElem?_append_right (by omega)] at found
          obtain ⟨before, item, after, offset, rfl, place, held⟩ := ih.mp found
          refine ⟨first :: before, item, after, offset, rfl, ?_, held⟩
          rw [List.flatMap_cons, List.length_append]
          omega
      · intro split
        obtain ⟨before, item, after, offset, shape, rfl, held⟩ := split
        cases before with
        | nil =>
            obtain ⟨rfl, rfl⟩ := List.cons.inj shape
            have inside := (List.getElem?_eq_some_iff.mp held).1
            simpa [List.getElem?_append_left inside] using held
        | cons earlier before =>
            obtain ⟨rfl, rfl⟩ := List.cons.inj shape
            rw [List.flatMap_cons, List.length_append, Nat.add_assoc, List.getElem?_append_right (by omega)]
            exact ih.mpr ⟨before, item, after, offset, rfl, by omega, held⟩

namespace ConstantPool

open StoredConstant (slotAfter)
open ClassFile (poolOf)

/-- The bytes are a count, constants that fill the slots up to it, and whatever follows. -/
structure StoredAs (bytes : List UInt8) (count : UInt16) (constants : List StoredConstant)
    (rest : List UInt8) : Prop where
  parts : bytes = u16Bytes count.toNat ++ constants.flatMap StoredConstant.bytes ++ rest
  wellFormed : ∀ constant ∈ constants, constant.WellFormed
  filled : slotAfter constants = max count.toNat 1

/-- Every slot up to the count is accounted for by the constants. -/
structure LaidOut (pool : ConstantPool) (count : UInt16) (constants : List StoredConstant) : Prop where
  size : pool.slots.size = max count.toNat 1
  holds : ∀ index value, pool.Holds index value ↔
    ∃ before constant after, constants = before ++ constant :: after ∧ index = slotAfter before ∧
      value = StoredConstant.meaning constant.tag.toNat constant.payload
  unusable : ∀ index, pool.slots[index]? = some none ↔
    index = 0 ∨ ∃ before constant after, constants = before ++ constant :: after ∧ constant.TakesTwo ∧
      index = slotAfter before + 1
  refused : ∀ index, pool.constant index = .error (.invalidConstantIndex index) ↔
    pool.slots[index]? = some none ∨ max count.toNat 1 ≤ index

variable {count : UInt16} {constants : List StoredConstant} {index : Nat} {entry : Option Constant}

theorem getElem?_poolOf_iff :
    (poolOf constants).slots[index]? = some entry ↔
      index = 0 ∧ entry = none ∨
        ∃ before constant after offset, constants = before ++ constant :: after ∧
          index = slotAfter before + offset ∧ constant.slots[offset]? = some entry := by
  have shape : (poolOf constants).slots = (none :: constants.flatMap StoredConstant.slots).toArray := by
    simp [poolOf]
  rw [shape, List.getElem?_toArray]
  cases index with
  | zero =>
      have later (before : List StoredConstant) (offset : Nat) : 0 ≠ slotAfter before + offset := by
        rw [StoredConstant.slotAfter_eq]
        omega
      simp [later, eq_comm]
  | succ position =>
      rw [List.getElem?_cons_succ, getElem?_flatMap_iff]
      simp only [StoredConstant.slotAfter_eq, StoredConstant.slotCount, Nat.add_right_comm, Nat.add_left_inj,
        Nat.add_eq_zero_iff, Nat.one_ne_zero, and_false, false_and, false_or]

theorem constant_eq_error_iff {pool : ConstantPool} :
    pool.constant index = .error (.invalidConstantIndex index) ↔
      pool.slots[index]? = some none ∨ pool.slots.size ≤ index := by
  unfold ConstantPool.constant
  split
  · rename_i found held
    have inside := (Array.getElem?_eq_some_iff.mp held).1
    simpa [held] using inside
  · rename_i none
    cases held : pool.slots[index]? with
    | none => simpa using held
    | some entry =>
        cases entry with
        | none => simp
        | some found => exact absurd held (none found)

theorem laidOut_poolOf (filled : slotAfter constants = max count.toNat 1) :
    (poolOf constants).LaidOut count constants := by
  have size : (poolOf constants).slots.size = max count.toNat 1 := by
    rw [← filled, StoredConstant.slotAfter_eq, StoredConstant.slotCount]
    simp [poolOf, Nat.add_comm]
  refine ⟨size, fun index value => ?_, fun index => ?_, fun index => ?_⟩
  · rw [Holds, getElem?_poolOf_iff]
    simp only [StoredConstant.getElem?_slots_iff]
    grind
  · rw [getElem?_poolOf_iff]
    simp only [StoredConstant.getElem?_slots_iff]
    grind
  · rw [constant_eq_error_iff, size]

theorem readSlots_max (count : Nat) (filled : Array (Option Constant)) :
    readSlots (max filled.size count) filled = readSlots count filled := by
  by_cases room : filled.size < count
  · rw [Nat.max_eq_right (Nat.le_of_lt room)]
  · -- Either way there are as many slots as are asked for.
    rw [Nat.max_eq_left (Nat.not_lt.mp room), readSlots, if_neg (Nat.lt_irrefl _)]
    rw [readSlots, if_neg room]

theorem StoredAs.reads {bytes rest : List UInt8} (stored : StoredAs bytes count constants rest) :
    Reads read (u16Bytes count.toNat ++ constants.flatMap StoredConstant.bytes) (poolOf constants) := by
  have slots := StoredConstant.reads_stored stored.wellFormed #[none]
  have total : (#[none] : Array (Option Constant)).size + StoredConstant.slotCount constants =
      max (#[none] : Array (Option Constant)).size count.toNat := by
    have filled := stored.filled
    rw [StoredConstant.slotAfter_eq] at filled
    change 1 + StoredConstant.slotCount constants = max 1 count.toNat
    omega
  rw [total, readSlots_max] at slots
  exact (Reads.u16 count.toNat_lt).bind (slots.bind_last (.pure _))

theorem StoredAs.read_eq {cursor : Cursor} {rest : List UInt8} (stored : StoredAs cursor.rest count constants rest) :
    ∃ final, read cursor = .ok (poolOf constants, final) ∧ final.rest = rest := by
  have reads := stored.reads cursor.offset rest
  rw [← stored.parts] at reads
  exact ⟨_, reads, rfl⟩

theorem exists_storedAs {cursor final : Cursor} {pool : ConstantPool} (accepted : read cursor = .ok (pool, final)) :
    ∃ count constants, StoredAs cursor.rest count constants final.rest := by
  obtain ⟨number, behindCount, countRead, rest⟩ := Reader.bind_eq_ok_iff.mp accepted
  obtain ⟨slots, behindSlots, slotsRead, done⟩ := Reader.bind_eq_ok_iff.mp rest
  cases done
  obtain ⟨small, countParts, _⟩ := Reader.unsigned_eq_ok countRead
  obtain ⟨constants, wellFormed, constantParts, total⟩ := StoredConstant.stored_of_readSlots slotsRead
  have exact : (UInt16.ofNat number).toNat = number := UInt16.toNat_ofNat_of_lt small
  refine ⟨UInt16.ofNat number, constants, ?_, wellFormed, ?_⟩
  · rw [exact, countParts, constantParts, List.append_assoc]
  · rw [exact, StoredConstant.slotAfter_eq]
    simp only [List.size_toArray, List.length_cons, List.length_nil] at total
    omega

end ConstantPool

end ClassMetrics
