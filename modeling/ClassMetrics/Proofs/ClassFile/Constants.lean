import ClassMetrics.Proofs.ClassFile.StoredConstants
import Mathlib.Tactic.MkIffOfInductiveProp

namespace ClassMetrics

/-!
Constants from the writer to the reader. A slot keeps its constant while others are added, so what a slot
resolves to is known as soon as it is handed out: it is the same in every pool that the pool at hand can
grow to. `Yields` states a result of a writer in this way, for all pools to come.
-/

namespace PoolEntry

/-- The length of a text is a number of two bytes. -/
def Fits : PoolEntry → Prop
  | .text value => (textBytes value).length ≤ 65535
  | _ => True

instance : DecidablePred Fits
  | .text value => inferInstanceAs (Decidable ((textBytes value).length ≤ 65535))
  | .classRef _ | .nameAndType _ _ | .memberRef _ _ _ => isTrue trivial

/-- What is read for a constant. -/
def constant : PoolEntry → Constant
  | .text value => .text value
  | .classRef name => .classRef name.toNat
  | .nameAndType name descriptor => .nameAndType name.toNat descriptor.toNat
  | .memberRef _ owner signature => .memberRef owner.toNat signature.toNat

end PoolEntry

/-- The limits of the format. The count includes slot zero. -/
@[mk_iff]
structure PoolFits (pool : List PoolEntry) : Prop where
  count : pool.length + 1 ≤ 65535
  entries : ∀ entry ∈ pool, entry.Fits

instance : DecidablePred PoolFits := fun pool => decidable_of_iff' _ (poolFits_iff pool)

def storedPool (pool : List PoolEntry) : ConstantPool :=
  ⟨(none :: pool.map fun entry => some entry.constant).toArray⟩

section Reading

theorem fromUTF8?_eq_some_iff {bytes : List UInt8} {value : String} :
    String.fromUTF8? bytes.toByteArray = some value ↔ bytes = textBytes value := by
  unfold String.fromUTF8?
  constructor
  · intro decoded
    split at decoded
    · rw [← Option.some.inj decoded]
      simp [textBytes, String.fromUTF8, List.data_toByteArray]
    · cases decoded
  · intro same
    have whole : bytes.toByteArray = value.toByteArray := by
      apply ByteArray.ext
      simp [same, textBytes, List.data_toByteArray]
    rw [whole, dif_pos value.isValidUTF8]
    rfl

theorem decode_textBytes (value : String) : ModifiedUtf8.decode? (textBytes value) = some value := by
  rw [ModifiedUtf8.decode?, fromUTF8?_eq_some_iff.mpr rfl]

theorem bigEndian_u16Bytes (number : UInt16) : bigEndian (u16Bytes number.toNat) = number.toNat :=
  bigEndian_bytes number.toNat_lt

namespace PoolEntry

/-- A constant as it is stored. -/
def stored (entry : PoolEntry) : StoredConstant := ⟨entry.tag, entry.payload⟩

theorem wellFormed_stored {entry : PoolEntry} (fits : entry.Fits) : entry.stored.WellFormed := by
  have two (number : Nat) : (u16Bytes number).length = 2 := length_bigEndianBytes 2 number
  cases entry with
  | text value => exact .text fits (by rw [decode_textBytes]; rfl)
  | classRef name => exact .fixed (congrArg some (two name.toNat).symm)
  | nameAndType name descriptor =>
      refine .fixed (congrArg some ?_)
      rw [payload, List.length_append, two, two]
  | memberRef kind owner signature =>
      have four : 4 = (u16Bytes owner.toNat ++ u16Bytes signature.toNat).length := by rw [List.length_append, two, two]
      cases kind <;> exact .fixed (congrArg some four)

theorem slots_stored (entry : PoolEntry) : entry.stored.slots = [some entry.constant] := by
  have first (one other : UInt16) : (u16Bytes one.toNat ++ u16Bytes other.toNat).take 2 = u16Bytes one.toNat :=
    List.take_left' (length_bigEndianBytes 2 one.toNat)
  have second (number : Nat) (rest : List UInt8) : (u16Bytes number ++ rest).drop 2 = rest :=
    List.drop_left' (length_bigEndianBytes 2 number)
  cases entry with
  | text value =>
      rw [StoredConstant.slots_of_narrow rfl]
      change [some (Constant.text ((ModifiedUtf8.decode? ((u16Bytes _ ++ textBytes value).drop 2)).getD ""))] = _
      rw [second, decode_textBytes]
      rfl
  | classRef name =>
      rw [StoredConstant.slots_of_narrow rfl]
      exact congrArg (fun index => [some (Constant.classRef index)]) (bigEndian_u16Bytes name)
  | nameAndType name descriptor =>
      rw [StoredConstant.slots_of_narrow rfl]
      change [some (Constant.nameAndType (bigEndian (List.take 2 (_ ++ _))) (bigEndian (List.drop 2 (_ ++ _))))] = _
      rw [first, second, bigEndian_u16Bytes, bigEndian_u16Bytes]
      rfl
  | memberRef kind owner signature =>
      have numbers : Constant.memberRef (bigEndian ((u16Bytes owner.toNat ++ u16Bytes signature.toNat).take 2))
          (bigEndian ((u16Bytes owner.toNat ++ u16Bytes signature.toNat).drop 2)) =
            .memberRef owner.toNat signature.toNat := by
        rw [first, second, bigEndian_u16Bytes, bigEndian_u16Bytes]
      cases kind <;> exact congrArg (fun constant => [some constant]) numbers

end PoolEntry

theorem reads_pool {pool : List PoolEntry} (fits : PoolFits pool) :
    Reads ConstantPool.read (u16Bytes (pool.length + 1) ++ pool.flatMap PoolEntry.encode)
      (storedPool pool) := by
  have slots : (pool.map PoolEntry.stored).flatMap StoredConstant.slots =
      pool.map fun entry => some entry.constant := by
    rw [List.flatMap_map, List.map_eq_flatMap]
    simp only [PoolEntry.slots_stored]
  have count : StoredConstant.slotCount (pool.map PoolEntry.stored) = pool.length := by
    rw [StoredConstant.slotCount, slots, List.length_map]
  have bytes : (pool.map PoolEntry.stored).flatMap StoredConstant.bytes = pool.flatMap PoolEntry.encode := by
    rw [List.flatMap_map]
    rfl
  have whole : ClassFile.poolOf (pool.map PoolEntry.stored) = storedPool pool := by
    simp [ClassFile.poolOf, storedPool, slots]
  have wellFormed : ∀ constant ∈ pool.map PoolEntry.stored, constant.WellFormed := by
    intro constant member
    obtain ⟨entry, among, rfl⟩ := List.mem_map.mp member
    exact PoolEntry.wellFormed_stored (fits.entries entry among)
  have reads := ClassFile.reads_poolOf wellFormed (count.symm ▸ fits.count)
  rwa [count, bytes, whole] at reads

end Reading

/-- A writer only adds constants, and its result has the property in every pool that may come of them. -/
def Yields {α : Type} (writer : PoolWriter α) (post : α → List PoolEntry → Prop) : Prop :=
  ∀ before, before <+: (writer before).2 ∧
    ∀ final, PoolFits final → (writer before).2 <+: final → post (writer before).1 final

namespace Yields

variable {α β : Type} {writer : PoolWriter α} {post other : α → List PoolEntry → Prop}

protected theorem pure {value : α} (holds : ∀ final, PoolFits final → post value final) :
    Yields (pure value) post :=
  fun _ => ⟨List.prefix_rfl, fun final fits _ => holds final fits⟩

theorem bind {next : α → PoolWriter β} {result : β → List PoolEntry → Prop}
    (first : Yields writer post)
    (second : ∀ value, Yields (next value) fun written final => post value final → result written final) :
    Yields (writer >>= next) result := by
  intro before
  obtain ⟨grown, holds⟩ := first before
  obtain ⟨grownMore, holdsMore⟩ := second (writer before).1 (writer before).2
  refine ⟨grown.trans grownMore, fun final fits extended => ?_⟩
  exact holdsMore final fits extended (holds final fits (grownMore.trans extended))

theorem imp (yields : Yields writer post)
    (stronger : ∀ value final, PoolFits final → post value final → other value final) :
    Yields writer other :=
  fun before => ⟨(yields before).1, fun final fits extended =>
    stronger _ final fits ((yields before).2 final fits extended)⟩

theorem each {write : α → PoolWriter (List UInt8)} {single : α → List UInt8 → List PoolEntry → Prop}
    (all : List α → List UInt8 → List PoolEntry → Prop) {items : List α}
    (nil : ∀ final, all [] [] final)
    (cons : ∀ item rest bytes more final,
      single item bytes final → all rest more final → all (item :: rest) (bytes ++ more) final)
    (every : ∀ item ∈ items, Yields (write item) (single item)) :
    Yields (PoolWriter.each write items) (all items) := by
  induction items with
  | nil => exact .pure fun final _ => nil final
  | cons item rest ih =>
      refine (every item List.mem_cons_self).bind fun bytes => ?_
      refine (ih fun other member => every other (List.mem_cons_of_mem _ member)).bind fun more => ?_
      exact .pure fun final _ allMore ofItem => cons item rest bytes more final ofItem allMore

end Yields

section Resolving

variable {pool : List PoolEntry} {position : Nat} {entry : PoolEntry}

theorem constant_storedPool (found : pool[position]? = some entry) :
    (storedPool pool).constant (position + 1) = .ok entry.constant := by
  simp [storedPool, ConstantPool.constant, found]

theorem yields_intern (entry : PoolEntry) :
    Yields (PoolWriter.intern entry) fun slot final =>
      0 < slot.toNat ∧ (storedPool final).constant slot.toNat = .ok entry.constant := by
  -- Whether found or added, the entry is at a position of the pool that results.
  have placed (before : List PoolEntry) : ∃ position,
      (PoolWriter.intern entry before).1 = UInt16.ofNat (position + 1) ∧
      before <+: (PoolWriter.intern entry before).2 ∧
      (PoolWriter.intern entry before).2[position]? = some entry := by
    unfold PoolWriter.intern
    split
    · rename_i position found
      obtain ⟨bound, same, _⟩ := List.idxOf?_eq_some_iff.mp found
      exact ⟨position, rfl, List.prefix_rfl, List.getElem?_eq_some_iff.mpr ⟨bound, same⟩⟩
    · exact ⟨before.length, rfl, List.prefix_append _ _, by simp⟩
  intro before
  obtain ⟨position, slotEq, grown, found⟩ := placed before
  refine ⟨grown, fun final fits extended => ?_⟩
  have stays : final[position]? = some entry := by
    obtain ⟨added, rfl⟩ := extended
    exact List.getElem?_append_left (List.getElem?_eq_some_iff.mp found).1 ▸ found
  have inside : position < final.length := (List.getElem?_eq_some_iff.mp stays).1
  have small : position + 1 < 65536 := by
    have count := fits.count
    omega
  have slotNumber : (UInt16.ofNat (position + 1)).toNat = position + 1 := by
    simp [Nat.mod_eq_of_lt small]
  simp only [slotEq, slotNumber]
  exact ⟨Nat.succ_pos _, constant_storedPool stays⟩

theorem yields_text (value : String) :
    Yields (PoolWriter.text value) fun slot final => (storedPool final).text slot.toNat = .ok value := by
  refine (yields_intern (.text value)).imp fun slot final _ ⟨_, found⟩ => ?_
  simp only [ConstantPool.text, found]
  rfl

theorem yields_className (name : String) :
    Yields (PoolWriter.className name) fun slot final =>
      0 < slot.toNat ∧ (storedPool final).className slot.toNat = .ok name := by
  refine (yields_text name).bind fun nameSlot => ?_
  refine (yields_intern _).imp fun slot final _ ⟨positive, found⟩ nameFound => ⟨positive, ?_⟩
  simp only [ConstantPool.className, found]
  exact nameFound

theorem yields_nameAndType (name descriptor : String) :
    Yields (PoolWriter.nameAndType name descriptor) fun slot final =>
      ∃ nameSlot descriptorSlot,
        (storedPool final).nameAndType slot.toNat = .ok (nameSlot, descriptorSlot) ∧
        (storedPool final).text nameSlot = .ok name ∧
        (storedPool final).text descriptorSlot = .ok descriptor := by
  refine (yields_text name).bind fun nameSlot => (yields_text descriptor).bind fun descriptorSlot => ?_
  refine (yields_intern _).imp fun slot final _ ⟨_, found⟩ descriptorFound nameFound => ?_
  refine ⟨nameSlot.toNat, descriptorSlot.toNat, ?_, nameFound, descriptorFound⟩
  simp only [ConstantPool.nameAndType, found]
  rfl

theorem yields_member (kind : MemberKind) (ref : MemberRef) :
    Yields (PoolWriter.member kind ref) fun slot final =>
      (storedPool final).member slot.toNat = .ok ref := by
  refine (yields_className ref.owner).bind fun ownerSlot => ?_
  refine (yields_nameAndType ref.name ref.descriptor).bind fun signatureSlot => ?_
  refine (yields_intern _).imp fun slot final _ ⟨_, found⟩ signature owner => ?_
  obtain ⟨nameSlot, descriptorSlot, pair, name, descriptor⟩ := signature
  simp only [ConstantPool.member, found, PoolEntry.constant, bind, Except.bind, pair, owner.2, name,
    descriptor]
  rfl

end Resolving

end ClassMetrics
