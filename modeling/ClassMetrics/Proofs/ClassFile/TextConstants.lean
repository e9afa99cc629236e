import ClassMetrics.Proofs.ClassFile.Constants
import ClassMetrics.Proofs.ClassFile.TextUnits
import ClassMetrics.Proofs.Text.Utf8

namespace ClassMetrics.ModifiedUtf8

/-!
Text constants and the two encodings of a text. Both come back as the text. The other way round does not hold:
bytes that are no encoding of a text are read all the same if the lead bytes leave a form for each unit, since the
bytes behind a lead are not looked at. `Canonical` is what these bytes lack.
-/

/-- The shortest form of a unit. -/
def unitBytes (unit : Nat) : List UInt8 :=
  if unit < 0x80 then [UInt8.ofNat unit]
  else if unit < 0x800 then [UInt8.ofNat (0xC0 + unit / 64), UInt8.ofNat (0x80 + unit % 64)]
  else [UInt8.ofNat (0xE0 + unit / 4096), UInt8.ofNat (0x80 + unit / 64 % 64), UInt8.ofNat (0x80 + unit % 64)]

/-- Two bytes for NUL, three for each surrogate of a pair, and UTF-8 for all other characters. -/
def modifiedForm (mark : Char) : List UInt8 :=
  if mark = '\x00' then [0xC0, 0x80]
  else if mark.toNat < 0x10000 then String.utf8EncodeChar mark
  else (unitsOf mark).flatMap unitBytes

/-- A text in modified UTF-8. -/
def encode (text : String) : List UInt8 :=
  text.toList.flatMap modifiedForm

/-- The bytes are those of the characters in order, each in UTF-8 or in its modified form. -/
inductive Spells : List UInt8 → List Char → Prop where
  | nil : Spells [] []
  | cons {mark : Char} {piece rest : List UInt8} {chars : List Char}
      (form : piece = String.utf8EncodeChar mark ∨ piece = modifiedForm mark) (later : Spells rest chars) :
      Spells (piece ++ rest) (mark :: chars)

/-- A byte that may stand behind a lead. -/
def Follows (byte : UInt8) : Prop :=
  0x80 ≤ byte.toNat ∧ byte.toNat < 0xC0

/-- Bytes made of forms of up to three bytes, each the shortest of its unit or the two bytes of NUL. -/
inductive Canonical : List UInt8 → Prop where
  | nil : Canonical []
  | one {lead : UInt8} {rest : List UInt8} (upper : lead.toNat < 0x80) (later : Canonical rest) :
      Canonical (lead :: rest)
  | zero {rest : List UInt8} (later : Canonical rest) : Canonical (0xC0 :: 0x80 :: rest)
  | two {lead second : UInt8} {rest : List UInt8} (lower : 0xC2 ≤ lead.toNat) (upper : lead.toNat < 0xE0)
      (follows : Follows second) (later : Canonical rest) : Canonical (lead :: second :: rest)
  | three {lead second third : UInt8} {rest : List UInt8} (lower : 0xE0 ≤ lead.toNat) (upper : lead.toNat < 0xF0)
      (follows : Follows second) (followsToo : Follows third) (long : lead.toNat = 0xE0 → 0xA0 ≤ second.toNat)
      (later : Canonical rest) : Canonical (lead :: second :: third :: rest)

section Units

variable {mark : Char} {unit : Nat} {units : List Nat} {bytes rest : List UInt8}

theorem toNat_ofNat_of_lt {value : Nat} (small : value < 256) : (UInt8.ofNat value).toNat = value := by
  rw [UInt8.toNat_ofNat']
  omega

theorem utf8EncodeChar_eq_unitBytes (small : mark.toNat < 0x10000) :
    String.utf8EncodeChar mark = unitBytes mark.toNat := by
  have code : mark.val.toNat = mark.toNat := rfl
  unfold String.utf8EncodeChar unitBytes
  rw [code]
  by_cases single : mark.toNat < 0x80
  · rw [if_pos (by omega), if_pos single]
  · rw [if_neg (by omega), if_neg single]
    by_cases double : mark.toNat < 0x800
    · have lead : mark.toNat / 64 % 0x20 + 0xC0 = 0xC0 + mark.toNat / 64 := by omega
      rw [if_pos (by omega), if_pos double, lead, Nat.add_comm (_ % 0x40)]
    · have lead : mark.toNat / 4096 % 0x10 + 0xE0 = 0xE0 + mark.toNat / 4096 := by omega
      rw [if_neg (by omega), if_neg double, if_pos (by omega), lead, Nat.add_comm (_ % 0x40),
        Nat.add_comm (mark.toNat % 0x40)]

/-- A character beyond the basic plane has a lead byte that starts no unit. -/
theorem not_readsUnits_utf8EncodeChar (large : 0x10000 ≤ mark.toNat) :
    ¬ ReadsUnits (String.utf8EncodeChar mark ++ rest) units := by
  have code : mark.val.toNat = mark.toNat := rfl
  have lead : 0xF0 ≤ (UInt8.ofNat (mark.toNat / 262144 % 8 + 0xF0)).toNat := by
    rw [toNat_ofNat_of_lt (by omega)]
    omega
  unfold String.utf8EncodeChar
  rw [code, if_neg (by omega), if_neg (by omega), if_neg (by omega)]
  intro reads
  cases reads with
  | one upper => omega
  | two _ upper => omega
  | three _ upper => omega

theorem readsUnits_unitBytes_iff (small : unit < 0x10000) :
    ReadsUnits (unitBytes unit ++ rest) units ↔ ∃ later, ReadsUnits rest later ∧ units = unit :: later := by
  unfold unitBytes
  split
  · have lead : (UInt8.ofNat unit).toNat = unit := toNat_ofNat_of_lt (by omega)
    rw [List.singleton_append, readsUnits_one_iff (by omega), lead]
  · have last : (UInt8.ofNat (0x80 + unit % 64)).toNat = 0x80 + unit % 64 := toNat_ofNat_of_lt (by omega)
    split
    · have lead : (UInt8.ofNat (0xC0 + unit / 64)).toNat = 0xC0 + unit / 64 := toNat_ofNat_of_lt (by omega)
      have value : (0xC0 + unit / 64) % 32 * 64 + (0x80 + unit % 64) % 64 = unit := by omega
      rw [List.cons_append, List.singleton_append, readsUnits_two_iff (by omega) (by omega), lead, last, value]
    · have lead : (UInt8.ofNat (0xE0 + unit / 4096)).toNat = 0xE0 + unit / 4096 := toNat_ofNat_of_lt (by omega)
      have second : (UInt8.ofNat (0x80 + unit / 64 % 64)).toNat = 0x80 + unit / 64 % 64 :=
        toNat_ofNat_of_lt (by omega)
      have value : (0xE0 + unit / 4096) % 16 * 4096 + (0x80 + unit / 64 % 64) % 64 * 64 + (0x80 + unit % 64) % 64 =
          unit := by omega
      rw [List.cons_append, List.cons_append, List.singleton_append, readsUnits_three_iff (by omega) (by omega), lead,
        second, last, value]

theorem readsUnits_flatMap_iff {read : List Nat} (small : ∀ unit ∈ units, unit < 0x10000) :
    ReadsUnits (units.flatMap unitBytes ++ rest) read ↔ ∃ later, ReadsUnits rest later ∧ read = units ++ later := by
  induction units generalizing read with
  | nil => simp
  | cons unit others ih =>
      obtain ⟨first, small⟩ := List.forall_mem_cons.mp small
      rw [List.flatMap_cons, List.append_assoc, readsUnits_unitBytes_iff first]
      simp [ih small]

theorem canonical_unitBytes (small : unit < 0x10000) (later : Canonical rest) : Canonical (unitBytes unit ++ rest) := by
  unfold unitBytes
  split
  · have lead : (UInt8.ofNat unit).toNat = unit := toNat_ofNat_of_lt (by omega)
    exact .one (by omega) later
  · have last : (UInt8.ofNat (0x80 + unit % 64)).toNat = 0x80 + unit % 64 := toNat_ofNat_of_lt (by omega)
    have follows : Follows (UInt8.ofNat (0x80 + unit % 64)) := ⟨by omega, by omega⟩
    split
    · have lead : (UInt8.ofNat (0xC0 + unit / 64)).toNat = 0xC0 + unit / 64 := toNat_ofNat_of_lt (by omega)
      exact .two (by omega) (by omega) follows later
    · have lead : (UInt8.ofNat (0xE0 + unit / 4096)).toNat = 0xE0 + unit / 4096 := toNat_ofNat_of_lt (by omega)
      have second : (UInt8.ofNat (0x80 + unit / 64 % 64)).toNat = 0x80 + unit / 64 % 64 :=
        toNat_ofNat_of_lt (by omega)
      exact .three (by omega) (by omega) ⟨by omega, by omega⟩ follows (by omega) later

theorem canonical_flatMap (small : ∀ unit ∈ units, unit < 0x10000) (later : Canonical rest) :
    Canonical (units.flatMap unitBytes ++ rest) := by
  induction units with
  | nil => exact later
  | cons unit others ih =>
      obtain ⟨first, small⟩ := List.forall_mem_cons.mp small
      rw [List.flatMap_cons, List.append_assoc]
      exact canonical_unitBytes first (ih small)

theorem eq_unitBytes_two {lead second : UInt8} (lower : 0xC2 ≤ lead.toNat) (upper : lead.toNat < 0xE0)
    (follows : Follows second) : [lead, second] = unitBytes (lead.toNat % 32 * 64 + second.toNat % 64) := by
  obtain ⟨least, most⟩ := follows
  have first : 0xC0 + (lead.toNat % 32 * 64 + second.toNat % 64) / 64 = lead.toNat := by omega
  have last : 0x80 + (lead.toNat % 32 * 64 + second.toNat % 64) % 64 = second.toNat := by omega
  rw [unitBytes, if_neg (by omega), if_pos (by omega), first, last, UInt8.ofNat_toNat, UInt8.ofNat_toNat]

theorem eq_unitBytes_three {lead second third : UInt8} (lower : 0xE0 ≤ lead.toNat) (upper : lead.toNat < 0xF0)
    (follows : Follows second) (followsToo : Follows third) (long : lead.toNat = 0xE0 → 0xA0 ≤ second.toNat) :
    [lead, second, third] = unitBytes (lead.toNat % 16 * 4096 + second.toNat % 64 * 64 + third.toNat % 64) := by
  obtain ⟨least, most⟩ := follows
  obtain ⟨leastToo, mostToo⟩ := followsToo
  generalize value : lead.toNat % 16 * 4096 + second.toNat % 64 * 64 + third.toNat % 64 = unit
  have first : 0xE0 + unit / 4096 = lead.toNat := by omega
  have middle : 0x80 + unit / 64 % 64 = second.toNat := by omega
  have last : 0x80 + unit % 64 = third.toNat := by omega
  rw [unitBytes, if_neg (by omega), if_neg (by omega), first, middle, last, UInt8.ofNat_toNat, UInt8.ofNat_toNat,
    UInt8.ofNat_toNat]

/-- The first form of canonical bytes is that of the first unit. -/
theorem Canonical.next (canonical : Canonical bytes) (reads : ReadsUnits bytes (unit :: units)) :
    ∃ piece rest, bytes = piece ++ rest ∧ (piece = unitBytes unit ∨ unit = 0 ∧ piece = [0xC0, 0x80]) ∧
      Canonical rest ∧ ReadsUnits rest units := by
  cases canonical with
  | nil => cases reads
  | @one lead rest upper later =>
      obtain ⟨others, reads, same⟩ := (readsUnits_one_iff upper).mp reads
      obtain ⟨rfl, rfl⟩ := List.cons.inj same
      refine ⟨[lead], rest, rfl, .inl ?_, later, reads⟩
      rw [unitBytes, if_pos upper, UInt8.ofNat_toNat]
  | @zero rest later =>
      obtain ⟨others, reads, same⟩ := (readsUnits_two_iff (by decide) (by decide)).mp reads
      obtain ⟨rfl, rfl⟩ := List.cons.inj same
      exact ⟨[0xC0, 0x80], rest, rfl, .inr ⟨rfl, rfl⟩, later, reads⟩
  | @two lead second rest lower upper follows later =>
      obtain ⟨others, reads, same⟩ := (readsUnits_two_iff (by omega) upper).mp reads
      obtain ⟨rfl, rfl⟩ := List.cons.inj same
      exact ⟨[lead, second], rest, rfl, .inl (eq_unitBytes_two lower upper follows), later, reads⟩
  | @three lead second third rest lower upper follows followsToo long later =>
      obtain ⟨others, reads, same⟩ := (readsUnits_three_iff lower upper).mp reads
      obtain ⟨rfl, rfl⟩ := List.cons.inj same
      exact ⟨[lead, second, third], rest, rfl, .inl (eq_unitBytes_three lower upper follows followsToo long), later,
        reads⟩

theorem Canonical.follows {lead second : UInt8} (canonical : Canonical (lead :: second :: rest))
    (lower : 0xC0 ≤ lead.toNat) : Follows second := by
  cases canonical with
  | one upper => omega
  | zero => exact ⟨by decide, by decide⟩
  | two _ _ follows => exact follows
  | three _ _ follows => exact follows

end Units

section Forms

variable {mark : Char} {units : List Nat} {piece rest bytes : List UInt8} {chars others : List Char}

theorem unitsOf_lt (mark : Char) : ∀ unit ∈ unitsOf mark, unit < 0x10000 := by
  rcases unitsOf_cases mark with ⟨one, -, small⟩ | ⟨high, low, two, isHigh, isLow, -⟩
  · rw [one]
    exact List.forall_mem_singleton.mpr small
  · rw [two]
    exact List.forall_mem_cons.mpr ⟨by omega, List.forall_mem_singleton.mpr (by omega)⟩

theorem utf8EncodeChar_eq_flatMap (small : mark.toNat < 0x10000) :
    String.utf8EncodeChar mark = (unitsOf mark).flatMap unitBytes := by
  rw [utf8EncodeChar_eq_unitBytes small, unitsOf, if_pos small, List.flatMap_singleton]

theorem modifiedForm_eq_flatMap (nonzero : mark ≠ '\x00') : modifiedForm mark = (unitsOf mark).flatMap unitBytes := by
  rw [modifiedForm, if_neg nonzero]
  split
  · rename_i small
    exact utf8EncodeChar_eq_flatMap small
  · rfl

/-- A form of a character that the units have a share in is the shortest one, or that of NUL. -/
theorem form_cases (form : piece = String.utf8EncodeChar mark ∨ piece = modifiedForm mark)
    (reads : ReadsUnits (piece ++ rest) units) :
    piece = (unitsOf mark).flatMap unitBytes ∨ mark = '\x00' ∧ piece = [0xC0, 0x80] := by
  rcases form with rfl | rfl
  · by_cases small : mark.toNat < 0x10000
    · exact .inl (utf8EncodeChar_eq_flatMap small)
    · exact absurd reads (not_readsUnits_utf8EncodeChar (Nat.not_lt.mp small))
  · by_cases zero : mark = '\x00'
    · exact .inr ⟨zero, by rw [modifiedForm, if_pos zero]⟩
    · exact .inl (modifiedForm_eq_flatMap zero)

theorem readsUnits_modifiedForm (mark : Char) (later : ReadsUnits rest units) :
    ReadsUnits (modifiedForm mark ++ rest) (unitsOf mark ++ units) := by
  by_cases zero : mark = '\x00'
  · have form : modifiedForm mark = [0xC0, 0x80] := by rw [modifiedForm, if_pos zero]
    rw [form, zero]
    exact .two (by decide) (by decide) later
  · rw [modifiedForm_eq_flatMap zero]
    exact (readsUnits_flatMap_iff (unitsOf_lt mark)).mpr ⟨units, later, rfl⟩

theorem readsUnits_encode (text : String) : ReadsUnits (encode text) (text.toList.flatMap unitsOf) := by
  unfold encode
  induction text.toList with
  | nil => exact .nil
  | cons mark rest ih => exact readsUnits_modifiedForm mark ih

/-- Where UTF-8 can be read unit by unit, this gives the same text. -/
theorem units_of_readsUnits_utf8 (reads : ReadsUnits (Text.utf8 chars) units) : units = chars.flatMap unitsOf := by
  induction chars generalizing units with
  | nil =>
      cases reads
      rfl
  | cons mark rest ih =>
      rw [Text.utf8_cons] at reads
      by_cases small : mark.toNat < 0x10000
      · rw [utf8EncodeChar_eq_flatMap small, readsUnits_flatMap_iff (unitsOf_lt mark)] at reads
        obtain ⟨later, reads, rfl⟩ := reads
        rw [ih reads, List.flatMap_cons]
      · exact absurd reads (not_readsUnits_utf8EncodeChar (Nat.not_lt.mp small))

theorem flatMap_unitsOf_inj (same : chars.flatMap unitsOf = others.flatMap unitsOf) : chars = others := by
  induction chars generalizing others with
  | nil =>
      cases others with
      | nil => rfl
      | cons mark later => exact absurd (List.append_eq_nil_iff.mp same.symm).1 (unitsOf_ne_nil mark)
  | cons mark rest ih =>
      obtain ⟨later, rests, rfl⟩ := eq_flatMap_unitsOf_iff.mp same
      rw [ih rests]

end Forms

section Texts

variable {bytes : List UInt8} {text other : String}

/-- A constant is read as a text if it is the text in UTF-8, or stands for its units. -/
theorem decode?_eq_some_iff :
    decode? bytes = some text ↔ bytes = textBytes text ∨ ReadsUnits bytes (text.toList.flatMap unitsOf) := by
  unfold decode?
  cases whole : String.fromUTF8? bytes.toByteArray with
  | some other =>
      constructor
      · intro same
        rw [Option.some.inj same] at whole
        exact .inl (fromUTF8?_eq_some_iff.mp whole)
      · intro either
        rcases either with utf8 | reads
        · exact whole.symm.trans (fromUTF8?_eq_some_iff.mpr utf8)
        · rw [fromUTF8?_eq_some_iff.mp whole, textBytes, Text.toList_toUTF8] at reads
          rw [String.toList_inj.mp (flatMap_unitsOf_inj (units_of_readsUnits_utf8 reads))]
  | none =>
      constructor
      · intro read
        exact .inr (decodeUnits?_eq_some_iff.mp read)
      · intro either
        rcases either with utf8 | reads
        · cases whole.symm.trans (fromUTF8?_eq_some_iff.mpr utf8)
        · exact decodeUnits?_eq_some_iff.mpr reads

/-- A text comes back from UTF-8 and from modified UTF-8. -/
theorem decode_inverts_encodings (text : String) :
    decode? (textBytes text) = some text ∧ decode? (encode text) = some text :=
  ⟨decode_textBytes text, decode?_eq_some_iff.mpr (.inr (readsUnits_encode text))⟩

theorem spells_textBytes (text : String) : Spells (textBytes text) text.toList := by
  rw [textBytes, Text.toList_toUTF8]
  induction text.toList with
  | nil => exact .nil
  | cons mark rest ih => exact .cons (.inl rfl) ih

theorem Spells.canonical {chars : List Char} {units : List Nat} (spells : Spells bytes chars)
    (reads : ReadsUnits bytes units) : Canonical bytes := by
  induction spells generalizing units with
  | nil => exact .nil
  | @cons mark piece rest chars form later ih =>
      rcases form_cases form reads with rfl | ⟨rfl, rfl⟩
      · obtain ⟨others, behind, -⟩ := (readsUnits_flatMap_iff (unitsOf_lt mark)).mp reads
        exact canonical_flatMap (unitsOf_lt mark) (ih behind)
      · obtain ⟨others, behind, -⟩ := (readsUnits_two_iff (by decide) (by decide)).mp reads
        exact .zero (ih behind)

theorem Canonical.spells {chars : List Char} (canonical : Canonical bytes)
    (reads : ReadsUnits bytes (chars.flatMap unitsOf)) : Spells bytes chars := by
  induction chars generalizing bytes with
  | nil =>
      cases reads
      exact .nil
  | cons mark rest ih =>
      rw [List.flatMap_cons] at reads
      rcases unitsOf_cases mark with ⟨one, -, small⟩ | ⟨high, low, two, isHigh, isLow, -⟩
      · rw [one] at reads
        obtain ⟨piece, behind, rfl, form, canonicalRest, readsRest⟩ := canonical.next reads
        refine .cons ?_ (ih canonicalRest readsRest)
        rcases form with shortest | ⟨zero, bytes⟩
        · exact .inl (shortest.trans (utf8EncodeChar_eq_unitBytes small).symm)
        · have isZero : mark = '\x00' := Char.toNat_inj.mp zero
          exact .inr (by rw [modifiedForm, if_pos isZero, bytes])
      · have large : ¬ mark.toNat < 0x10000 := by
          intro small
          rw [unitsOf, if_pos small] at two
          cases two
        have nonzero : mark ≠ '\x00' := by
          intro zero
          rw [zero] at large
          exact large (by decide)
        rw [two] at reads
        -- Both surrogates have three bytes, and the two forms together are that of the character.
        obtain ⟨first, behind, rfl, form, canonicalNext, readsNext⟩ := canonical.next reads
        obtain ⟨second, last, rfl, formNext, canonicalRest, readsRest⟩ := canonicalNext.next readsNext
        have firstBytes : first = unitBytes high := form.resolve_right (by omega)
        have secondBytes : second = unitBytes low := formNext.resolve_right (by omega)
        rw [← List.append_assoc]
        refine .cons (.inr ?_) (ih canonicalRest readsRest)
        rw [modifiedForm_eq_flatMap nonzero, two, firstBytes, secondBytes]
        simp

theorem read_text_eq_invalid_iff (index offset : Nat) (rest : List UInt8) (fits : bytes.length ≤ 65535) :
    Constant.read 1 index ⟨offset, u16Bytes bytes.length ++ (bytes ++ rest)⟩ = .error .invalidText ↔
      decode? bytes = none := by
  have number := Reads.u16 (Nat.lt_succ_of_le fits) offset (bytes ++ rest)
  have content := (Reads.take rfl : Reads (Reader.take bytes.length) bytes bytes)
    (offset + (u16Bytes bytes.length).length) rest
  simp only [Constant.read, Bind.bind, StateT.bind, Except.bind, number, content]
  cases decode? bytes with
  | none => exact ⟨fun _ => rfl, fun _ => rfl⟩
  | some text =>
      constructor
      · intro refused
        cases refused
      · intro absent
        cases absent

/-- What is accepted, and which part of it is an encoding of the text that it is read as. -/
theorem accepted_spelled_iff_canonical (bytes : List UInt8) :
    (∀ text, decode? bytes = some text ↔ bytes = textBytes text ∨ ReadsUnits bytes (text.toList.flatMap unitsOf)) ∧
      (∀ text, decode? bytes = some text →
        (Spells bytes text.toList ↔ bytes = textBytes text ∨ Canonical bytes)) ∧
      ∀ index offset rest, bytes.length ≤ 65535 →
        (Constant.read 1 index ⟨offset, u16Bytes bytes.length ++ (bytes ++ rest)⟩ = .error .invalidText ↔
          ∀ text, ¬ (bytes = textBytes text ∨ ReadsUnits bytes (text.toList.flatMap unitsOf))) := by
  refine ⟨fun text => decode?_eq_some_iff, fun text accepted => ?_, fun index offset rest fits => ?_⟩
  · constructor
    · intro spells
      rcases decode?_eq_some_iff.mp accepted with utf8 | reads
      · exact .inl utf8
      · exact .inr (spells.canonical reads)
    · intro either
      rcases either with utf8 | canonical
      · rw [utf8]
        exact spells_textBytes text
      · rcases decode?_eq_some_iff.mp accepted with utf8 | reads
        · rw [utf8]
          exact spells_textBytes text
        · exact canonical.spells reads
  · simp only [read_text_eq_invalid_iff index offset rest fits, ← decode?_eq_some_iff,
      Option.eq_none_iff_forall_ne_some]

/-- The letter behind the lead byte is taken into the character. -/
theorem letter_swallowed : decode? [0xC3, 0x41] = some "Á" ∧ ¬ Spells [0xC3, 0x41] "Á".toList := by
  refine ⟨by decide +kernel, fun spells => ?_⟩
  have follows := (spells.canonical (.two (by decide) (by decide) .nil)).follows (by decide)
  exact absurd follows.1 (by decide)

end Texts

end ClassMetrics.ModifiedUtf8
