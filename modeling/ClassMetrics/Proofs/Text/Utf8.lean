import Mathlib.Data.List.Basic

namespace ClassMetrics.Text

/-- The bytes of a text, character by character. -/
def utf8 (chars : List Char) : List UInt8 :=
  chars.flatMap String.utf8EncodeChar

theorem toList_toUTF8 (text : String) : text.toUTF8.data.toList = utf8 text.toList := by
  obtain ⟨chars, rfl⟩ := text.exists_eq_ofList
  simp [utf8, List.utf8Encode, List.data_toByteArray]

theorem toList_loop (bytes : ByteArray) (position : Nat) (read : List UInt8) :
    ByteArray.toList.loop bytes position read = read.reverse ++ bytes.data.toList.drop position := by
  fun_induction ByteArray.toList.loop bytes position read with
  | case1 position read inside ih =>
      have inList : position < bytes.data.toList.length := by simpa using inside
      rw [ih, List.drop_eq_getElem_cons inList]
      simp [ByteArray.get!, inside]
  | case2 position read outside =>
      have behind : bytes.data.toList.length ≤ position := by simpa using outside
      rw [List.drop_eq_nil_of_le behind, List.append_nil]

theorem toUTF8_toList_inj {text other : String} : text.toUTF8.toList = other.toUTF8.toList ↔ text = other := by
  have listed (bytes : ByteArray) : bytes.toList = bytes.data.toList := by
    rw [ByteArray.toList, toList_loop, List.reverse_nil, List.nil_append, List.drop_zero]
  rw [listed, listed, Array.toList_inj]
  exact ByteArray.ext_iff.symm.trans String.toByteArray_inj

theorem utf8_cons (mark : Char) (rest : List Char) :
    utf8 (mark :: rest) = String.utf8EncodeChar mark ++ utf8 rest := rfl

theorem utf8_append (before after : List Char) : utf8 (before ++ after) = utf8 before ++ utf8 after :=
  List.flatMap_append

/-- The number of bytes is the one that the text reports. -/
theorem length_utf8 (chars : List Char) : (utf8 chars).length = (String.ofList chars).utf8ByteSize := by
  have size : (String.ofList chars).utf8ByteSize = (String.ofList chars).toUTF8.data.toList.length := rfl
  rw [size, toList_toUTF8, String.toList_ofList]

section SingleBytes

variable {mark other : Char}

theorem utf8EncodeChar_of_lt (single : mark.toNat < 128) : String.utf8EncodeChar mark = [mark.toUInt8] := by
  have small : mark.val.toNat ≤ 0x7f := Nat.le_of_lt_succ single
  have byte : UInt8.ofNat mark.val.toNat = mark.toUInt8 := rfl
  rw [String.utf8EncodeChar, if_pos small, byte]

theorem le_of_mem_utf8EncodeChar {byte : UInt8} (wide : 128 ≤ mark.toNat)
    (member : byte ∈ String.utf8EncodeChar mark) : 128 ≤ byte.toNat := by
  have large : ¬ mark.val.toNat ≤ 0x7f := Nat.not_le.mpr wide
  simp only [String.utf8EncodeChar, large, if_false] at member
  -- Lead bytes have 0xC0, 0xE0 or 0xF0 added to them and the others 0x80, all without carry.
  split at member
  · simp only [List.mem_cons, List.not_mem_nil, or_false] at member
    rcases member with rfl | rfl <;> rw [UInt8.toNat_ofNat'] <;> omega
  · split at member
    · simp only [List.mem_cons, List.not_mem_nil, or_false] at member
      rcases member with rfl | rfl | rfl <;> rw [UInt8.toNat_ofNat'] <;> omega
    · simp only [List.mem_cons, List.not_mem_nil, or_false] at member
      rcases member with rfl | rfl | rfl | rfl <;> rw [UInt8.toNat_ofNat'] <;> omega

theorem toNat_toUInt8 (single : mark.toNat < 128) : mark.toUInt8.toNat = mark.toNat := by
  have reduced : mark.toUInt8.toNat = mark.toNat % 256 := UInt32.toNat_toUInt8 mark.val
  omega

theorem toUInt8_inj (single : mark.toNat < 128) (otherSingle : other.toNat < 128) :
    mark.toUInt8 = other.toUInt8 ↔ mark = other := by
  constructor
  · intro same
    have codes : mark.toNat = other.toNat := by
      rw [← toNat_toUInt8 single, ← toNat_toUInt8 otherSingle, same]
    exact Char.toNat_inj.mp codes
  · exact congrArg Char.toUInt8

/-- A byte below 128 is found in the bytes of one character only. -/
theorem toUInt8_mem_utf8EncodeChar_iff (single : mark.toNat < 128) :
    mark.toUInt8 ∈ String.utf8EncodeChar other ↔ other = mark := by
  by_cases otherSingle : other.toNat < 128
  · rw [utf8EncodeChar_of_lt otherSingle, List.mem_singleton, toUInt8_inj single otherSingle, eq_comm]
  · constructor
    · intro member
      have large := le_of_mem_utf8EncodeChar (Nat.not_lt.mp otherSingle) member
      rw [toNat_toUInt8 single] at large
      omega
    · intro same
      rw [same] at otherSingle
      contradiction

theorem toUInt8_mem_utf8_iff (single : mark.toNat < 128) {chars : List Char} :
    mark.toUInt8 ∈ utf8 chars ↔ mark ∈ chars := by
  simp [utf8, List.mem_flatMap, toUInt8_mem_utf8EncodeChar_iff single]

/-- The first place of such a byte is where the bytes before the character end. -/
theorem idxOf?_utf8_append (single : mark.toNat < 128) {before : List Char} (absent : mark ∉ before)
    (after : List Char) :
    (utf8 (before ++ mark :: after)).idxOf? mark.toUInt8 = some (utf8 before).length := by
  have split : utf8 (before ++ mark :: after) = utf8 before ++ mark.toUInt8 :: utf8 after := by
    rw [utf8_append, utf8_cons, utf8EncodeChar_of_lt single, List.singleton_append]
  rw [split, List.idxOf?_eq_some_iff]
  refine ⟨by simp, by simp, fun place early found => ?_⟩
  rw [List.getElem_append_left early] at found
  exact absent ((toUInt8_mem_utf8_iff single).mp (found ▸ List.getElem_mem early))

theorem ofUInt8_toUInt8 (single : mark.toNat < 128) : Char.ofUInt8 mark.toUInt8 = mark := by
  have code : (Char.ofUInt8 mark.toUInt8).toNat = mark.toUInt8.toNat := UInt8.toNat_toUInt32 _
  rw [toNat_toUInt8 single] at code
  exact Char.toNat_inj.mp code

theorem exists_lead (wide : 128 ≤ mark.toNat) :
    ∃ lead rest, String.utf8EncodeChar mark = lead :: rest ∧ 128 ≤ (Char.ofUInt8 lead).toNat := by
  cases bytes : String.utf8EncodeChar mark with
  | nil => exact absurd bytes String.utf8EncodeChar_ne_nil
  | cons lead rest =>
      have large := le_of_mem_utf8EncodeChar wide (bytes ▸ List.mem_cons_self)
      have code : (Char.ofUInt8 lead).toNat = lead.toNat := UInt8.toNat_toUInt32 _
      exact ⟨lead, rest, rfl, code ▸ large⟩

end SingleBytes

section Offsets

/-- The bytes before a character lead to a place where the text can be cut. -/
theorem isValid_length_utf8 (before after : List Char) :
    String.Pos.Raw.IsValid (String.ofList (before ++ after)) ⟨(utf8 before).length⟩ := by
  rw [String.Pos.Raw.isValid_iff_exists_append]
  refine ⟨String.ofList before, String.ofList after, String.ofList_append, ?_⟩
  apply String.Pos.Raw.ext
  exact length_utf8 before

/-- What lies between two such places. -/
theorem extract_ofList (before middle after : List Char)
    {start stop : (String.ofList (before ++ (middle ++ after))).Pos}
    (starts : start.offset.byteIdx = (utf8 before).length)
    (stops : stop.offset.byteIdx = (utf8 (before ++ middle)).length) :
    String.extract start stop = String.ofList middle := by
  rw [← String.toByteArray_inj, String.toByteArray_extract, starts, stops, length_utf8, length_utf8]
  rw [String.ofList_append, String.ofList_append, String.ofList_append, String.toByteArray_append,
    String.toByteArray_append, String.utf8ByteSize_append]
  exact (ByteArray.extract_append_size_add (i := 0)).trans (ByteArray.extract_append_eq_left rfl)

end Offsets

end ClassMetrics.Text
