import ClassMetrics.Proofs.ClassFile.Encode
import Mathlib.Algebra.Group.Nat.Defs
import Mathlib.Data.List.Induction

namespace ClassMetrics

/-!
What a reader makes of bytes that were written for it. `Reads` fixes the bytes that are taken and the value
that results, wherever the bytes stand and whatever follows; it composes along `>>=` as bytes along `++`.
-/

theorem bind_eq_ok_iff {ε α β : Type} {result : Except ε α} {next : α → Except ε β} {value : β} :
    (result >>= next) = .ok value ↔ ∃ middle, result = .ok middle ∧ next middle = .ok value := by
  cases result <;> simp [bind, Except.bind]

theorem Reader.bind_eq_ok_iff {α β : Type} {reader : Reader α} {next : α → Reader β} {cursor final : Cursor}
    {value : β} :
    (reader >>= next) cursor = .ok (value, final) ↔
      ∃ middle between, reader cursor = .ok (middle, between) ∧ next middle between = .ok (value, final) := by
  change (reader cursor >>= fun outcome => next outcome.1 outcome.2) = .ok (value, final) ↔ _
  simp [ClassMetrics.bind_eq_ok_iff]

theorem forall_byte_of_table {holds : UInt8 → Prop} (table : ∀ number : Fin 256, holds (UInt8.ofNat number))
    (byte : UInt8) : holds byte := by
  simpa using table ⟨byte.toNat, byte.toNat_lt⟩

theorem length_bigEndianBytes (width value : Nat) : (bigEndianBytes width value).length = width := by
  induction width generalizing value with
  | zero => rfl
  | succ width ih => simp [bigEndianBytes, ih]

theorem bigEndian_bytes {width value : Nat} (fits : value < 256 ^ width) :
    bigEndian (bigEndianBytes width value) = value := by
  induction width generalizing value with
  | zero =>
      have zero : value = 0 := by omega
      subst value
      rfl
  | succ width ih =>
      have smaller : value / 256 < 256 ^ width := by
        rw [pow_succ] at fits
        exact Nat.div_lt_of_lt_mul (by omega)
      have upper : List.foldl (fun value byte => value * 256 + UInt8.toNat byte) 0
          (bigEndianBytes width (value / 256)) = value / 256 := ih smaller
      simp only [bigEndian, bigEndianBytes, List.foldl_append, List.foldl_cons, List.foldl_nil, upper,
        UInt8.toNat_ofNat']
      omega

theorem bigEndian_concat (bytes : List UInt8) (last : UInt8) :
    bigEndian (bytes ++ [last]) = bigEndian bytes * 256 + last.toNat := by
  simp [bigEndian]

theorem bigEndian_lt (bytes : List UInt8) : bigEndian bytes < 256 ^ bytes.length := by
  induction bytes using List.reverseRecOn with
  | nil => exact Nat.one_pos
  | append_singleton bytes last ih =>
      have small := last.toNat_lt
      rw [bigEndian_concat, List.length_append, List.length_singleton, pow_succ]
      omega

theorem bytes_bigEndian (bytes : List UInt8) : bigEndianBytes bytes.length (bigEndian bytes) = bytes := by
  induction bytes using List.reverseRecOn with
  | nil => rfl
  | append_singleton bytes last ih =>
      have small := last.toNat_lt
      have upper : (bigEndian bytes * 256 + last.toNat) / 256 = bigEndian bytes := by omega
      have lower : UInt8.ofNat (bigEndian bytes * 256 + last.toNat) = last := by
        rw [← UInt8.toNat_inj, UInt8.toNat_ofNat']
        omega
      rw [bigEndian_concat, List.length_append, List.length_singleton, bigEndianBytes, upper, lower, ih]

namespace Reader

variable {cursor final : Cursor}

theorem take_eq_ok_iff {count : Nat} {taken : List UInt8} :
    take count cursor = .ok (taken, final) ↔
      taken.length = count ∧ cursor.rest = taken ++ final.rest ∧ final.offset = cursor.offset + count := by
  obtain ⟨offset, rest⟩ := cursor
  obtain ⟨stop, left⟩ := final
  constructor
  · intro accepted
    unfold take at accepted
    dsimp only at accepted
    split at accepted
    · rename_i enough
      cases accepted
      exact ⟨enough, (List.take_append_drop count rest).symm, rfl⟩
    · cases accepted
  · dsimp only
    rintro ⟨rfl, rfl, rfl⟩
    simp [take]

theorem unsigned_eq_ok {width number : Nat} (accepted : unsigned width cursor = .ok (number, final)) :
    number < 256 ^ width ∧ cursor.rest = bigEndianBytes width number ++ final.rest ∧
      final.offset = cursor.offset + width := by
  obtain ⟨taken, between, taking, rest⟩ := Reader.bind_eq_ok_iff.mp accepted
  cases rest
  obtain ⟨rfl, parts, stop⟩ := take_eq_ok_iff.mp taking
  exact ⟨bigEndian_lt taken, by rw [bytes_bigEndian, parts], stop⟩

theorem u8_eq_ok {number : Nat} (accepted : u8 cursor = .ok (number, final)) :
    ∃ byte : UInt8, number = byte.toNat ∧ cursor.rest = byte :: final.rest := by
  obtain ⟨small, parts, _⟩ := unsigned_eq_ok accepted
  refine ⟨UInt8.ofNat number, ?_, parts⟩
  rw [UInt8.toNat_ofNat']
  omega

/-- Whatever the reader accepts takes the same number of bytes. -/
def Spans {α : Type} (reader : Reader α) (size : Nat) : Prop :=
  ∀ cursor value final, reader cursor = .ok (value, final) →
    ∃ taken, taken.length = size ∧ cursor.rest = taken ++ final.rest ∧ final.offset = cursor.offset + size

namespace Spans

variable {α β : Type} {reader : Reader α} {next : α → Reader β} {size more : Nat}

protected theorem pure (value : α) : Spans (pure value) 0 := by
  intro cursor result final accepted
  cases accepted
  exact ⟨[], rfl, rfl, rfl⟩

theorem lift (result : Except FormatError α) : Spans (liftM result) 0 := by
  intro cursor value final accepted
  cases result <;> cases accepted
  exact ⟨[], rfl, rfl, rfl⟩

theorem bind (first : reader.Spans size) (second : ∀ value, (next value).Spans more) :
    Spans (reader >>= next) (size + more) := by
  intro cursor value final accepted
  obtain ⟨middle, between, early, late⟩ := Reader.bind_eq_ok_iff.mp accepted
  obtain ⟨taken, length, parts, stop⟩ := first _ _ _ early
  obtain ⟨further, lengthRest, partsRest, stopRest⟩ := second _ _ _ _ late
  exact ⟨taken ++ further, by rw [List.length_append, length, lengthRest],
    by rw [parts, partsRest, List.append_assoc], by rw [stopRest, stop, Nat.add_assoc]⟩

theorem take (count : Nat) : Spans (Reader.take count) count := by
  intro cursor taken final accepted
  exact ⟨taken, Reader.take_eq_ok_iff.mp accepted⟩

theorem skip (count : Nat) : Spans (Reader.skip count) count :=
  (take count).bind fun _ => .pure ()

theorem unsigned (width : Nat) : Spans (Reader.unsigned width) width :=
  (take width).bind fun bytes => .pure (bigEndian bytes)

end Spans

end Reader

def Reads {α : Type} (reader : Reader α) (bytes : List UInt8) (value : α) : Prop :=
  ∀ offset rest, reader ⟨offset, bytes ++ rest⟩ = .ok (value, ⟨offset + bytes.length, rest⟩)

namespace Reads

variable {α β : Type} {reader : Reader α} {bytes more : List UInt8} {value : α}

protected theorem pure (value : α) : Reads (pure value) [] value :=
  fun _ _ => rfl

theorem bind {next : α → Reader β} {result : β} (first : Reads reader bytes value)
    (second : Reads (next value) more result) : Reads (reader >>= next) (bytes ++ more) result := by
  intro offset rest
  have step : (reader >>= next) ⟨offset, bytes ++ (more ++ rest)⟩ =
      next value ⟨offset + bytes.length, more ++ rest⟩ := by
    simp only [Bind.bind, StateT.bind, Except.bind, first offset (more ++ rest)]
  rw [List.append_assoc, step, second, List.length_append, Nat.add_assoc]

/-- A step that reads nothing. -/
theorem bind_nil {next : α → Reader β} {result : β} (first : Reads reader [] value)
    (second : Reads (next value) bytes result) : Reads (reader >>= next) bytes result :=
  first.bind second

/-- A last step that reads nothing. -/
theorem bind_last {next : α → Reader β} {result : β} (first : Reads reader bytes value)
    (second : Reads (next value) [] result) : Reads (reader >>= next) bytes result := by
  have both := first.bind second
  rwa [List.append_nil] at both

theorem lift {result : Except FormatError α} (found : result = .ok value) :
    Reads (liftM result) [] value := by
  subst found
  exact fun _ _ => rfl

theorem take {count : Nat} (exact : bytes.length = count) :
    Reads (Reader.take count) bytes bytes := by
  subst exact
  intro offset rest
  simp [Reader.take]

theorem skip {count : Nat} (exact : bytes.length = count) : Reads (Reader.skip count) bytes () :=
  (take exact).bind_last (.pure ())

theorem unsigned {width number : Nat} (fits : number < 256 ^ width) :
    Reads (Reader.unsigned width) (bigEndianBytes width number) number := by
  have taken := take (length_bigEndianBytes width number)
  refine taken.bind_last ?_
  rw [bigEndian_bytes fits]
  exact .pure number

theorem u8 (byte : UInt8) : Reads Reader.u8 [byte] byte.toNat := by
  refine (take (rfl : [byte].length = 1)).bind_last ?_
  have single : bigEndian [byte] = byte.toNat := by simp [bigEndian]
  rw [single]
  exact .pure byte.toNat

theorem u16 {number : Nat} (fits : number < 65536) : Reads Reader.u16 (u16Bytes number) number :=
  unsigned fits

theorem u32 {number : Nat} (fits : number < 4294967296) :
    Reads Reader.u32 (u32Bytes number) number :=
  unsigned fits

theorem skip_number (width number : Nat) :
    Reads (Reader.skip width) (bigEndianBytes width number) () :=
  skip (length_bigEndianBytes width number)

/-- A reader may ask where it stands, as long as the answer changes nothing. -/
theorem bind_offset {next : Nat → Reader β} {result : β}
    (same : ∀ start, Reads (next start) bytes result) :
    Reads (Reader.offset >>= next) bytes result :=
  fun offset rest => same offset offset rest

theorem within {start : Nat} (inner : Reads reader bytes value) :
    Reads (Reader.within start bytes reader) [] value := by
  intro offset rest
  have read := inner start []
  rw [List.append_nil] at read
  simp only [Reader.within, read]
  rfl

end Reads

/-- The bytes are the items one after another, to be read after any items already there. -/
def ReadsAll {α : Type} (reader : Reader α) (bytes : List UInt8) (items : List α) : Prop :=
  ∀ earlier, Reads (Reader.collect reader items.length earlier) bytes (earlier ++ items.toArray)

namespace ReadsAll

variable {α : Type} {reader : Reader α} {bytes more : List UInt8} {item : α} {items : List α}

theorem nil : ReadsAll reader [] [] := by
  intro earlier
  simpa [Reader.collect] using Reads.pure earlier

theorem cons (first : Reads reader bytes item) (others : ReadsAll reader more items) :
    ReadsAll reader (bytes ++ more) (item :: items) := by
  intro earlier
  refine first.bind ?_
  simpa using others (earlier.push item)

theorem times (all : ReadsAll reader bytes items) :
    Reads (Reader.times items.length reader) bytes items := by
  refine (all #[]).bind_last ?_
  simpa using Reads.pure items

end ReadsAll

end ClassMetrics
