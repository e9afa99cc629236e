import ClassMetrics.ClassFile.ModifiedUtf8
import ClassMetrics.Proofs.ClassFile.Reads

namespace ClassMetrics.ModifiedUtf8

/-- The UTF-16 units of a character: its code, or a pair of surrogates beyond the basic plane. -/
def unitsOf (mark : Char) : List Nat :=
  if mark.toNat < 0x10000 then [mark.toNat]
  else [0xD800 + (mark.toNat - 0x10000) / 0x400, 0xDC00 + (mark.toNat - 0x10000) % 0x400]

/-- Bytes and the units that they stand for. Of a byte behind a lead only the lower six bits count, whatever the
upper two are. -/
inductive ReadsUnits : List UInt8 → List Nat → Prop where
  | nil : ReadsUnits [] []
  | one {lead : UInt8} {rest : List UInt8} {units : List Nat} (upper : lead.toNat < 0x80)
      (later : ReadsUnits rest units) : ReadsUnits (lead :: rest) (lead.toNat :: units)
  | two {lead second : UInt8} {rest : List UInt8} {units : List Nat} (lower : 0xC0 ≤ lead.toNat)
      (upper : lead.toNat < 0xE0) (later : ReadsUnits rest units) :
      ReadsUnits (lead :: second :: rest) ((lead.toNat % 32 * 64 + second.toNat % 64) :: units)
  | three {lead second third : UInt8} {rest : List UInt8} {units : List Nat} (lower : 0xE0 ≤ lead.toNat)
      (upper : lead.toNat < 0xF0) (later : ReadsUnits rest units) :
      ReadsUnits (lead :: second :: third :: rest)
        ((lead.toNat % 16 * 4096 + second.toNat % 64 * 64 + third.toNat % 64) :: units)

section Bytes

variable {bytes rest : List UInt8} {units : List Nat} {lead : UInt8}

theorem isTwo_iff (lead : UInt8) : lead &&& 0xE0 = 0xC0 ↔ 0xC0 ≤ lead.toNat ∧ lead.toNat < 0xE0 := by
  revert lead
  apply forall_byte_of_table
  decide +kernel

theorem isThree_iff (lead : UInt8) : lead &&& 0xF0 = 0xE0 ↔ 0xE0 ≤ lead.toNat ∧ lead.toNat < 0xF0 := by
  revert lead
  apply forall_byte_of_table
  decide +kernel

theorem toNat_lowest (byte : UInt8) :
    (byte &&& 0x0F).toNat = byte.toNat % 16 ∧ (byte &&& 0x1F).toNat = byte.toNat % 32 ∧
      (byte &&& 0x3F).toNat = byte.toNat % 64 := by
  revert byte
  apply forall_byte_of_table
  decide +kernel

/-- Units take sixteen bits. -/
theorem ReadsUnits.lt (reads : ReadsUnits bytes units) : ∀ unit ∈ units, unit < 0x10000 := by
  induction reads with
  | nil => simp
  | one upper _ ih => exact List.forall_mem_cons.mpr ⟨by omega, ih⟩
  | two _ _ _ ih => exact List.forall_mem_cons.mpr ⟨by omega, ih⟩
  | three _ _ _ ih => exact List.forall_mem_cons.mpr ⟨by omega, ih⟩

section Leads

variable {second third : UInt8}

theorem readsUnits_one_iff (upper : lead.toNat < 0x80) :
    ReadsUnits (lead :: rest) units ↔ ∃ later, ReadsUnits rest later ∧ units = lead.toNat :: later := by
  constructor
  · intro reads
    cases reads with
    | one _ later => exact ⟨_, later, rfl⟩
    | two lower => omega
    | three lower => omega
  · intro ⟨later, reads, same⟩
    exact same ▸ .one upper reads

theorem readsUnits_two_iff (lower : 0xC0 ≤ lead.toNat) (upper : lead.toNat < 0xE0) :
    ReadsUnits (lead :: second :: rest) units ↔
      ∃ later, ReadsUnits rest later ∧ units = (lead.toNat % 32 * 64 + second.toNat % 64) :: later := by
  constructor
  · intro reads
    cases reads with
    | one below => omega
    | two _ _ later => exact ⟨_, later, rfl⟩
    | three above => omega
  · intro ⟨later, reads, same⟩
    exact same ▸ .two lower upper reads

theorem readsUnits_three_iff (lower : 0xE0 ≤ lead.toNat) (upper : lead.toNat < 0xF0) :
    ReadsUnits (lead :: second :: third :: rest) units ↔
      ∃ later, ReadsUnits rest later ∧
        units = (lead.toNat % 16 * 4096 + second.toNat % 64 * 64 + third.toNat % 64) :: later := by
  constructor
  · intro reads
    cases reads with
    | one below => omega
    | two _ below => omega
    | three _ _ later => exact ⟨_, later, rfl⟩
  · intro ⟨later, reads, same⟩
    exact same ▸ .three lower upper reads

end Leads

theorem unitsReverse_eq_some_iff {done result : List Nat} :
    unitsReverse bytes done = some result ↔ ∃ units, ReadsUnits bytes units ∧ result = units.reverse ++ done := by
  fun_induction unitsReverse bytes done with
  | case1 done =>
      constructor
      · intro same
        exact ⟨[], .nil, by simpa using same.symm⟩
      · intro ⟨units, reads, same⟩
        cases reads
        simpa using same.symm
  | case2 done lead rest single ih =>
      rw [ih]
      simp [readsUnits_one_iff (UInt8.lt_iff_toNat_lt.mp single)]
  | case3 done lead wide isTwo second rest ih =>
      obtain ⟨lower, upper⟩ := (isTwo_iff lead).mp isTwo
      rw [(toNat_lowest lead).2.1, (toNat_lowest second).2.2] at ih
      rw [(toNat_lowest lead).2.1, (toNat_lowest second).2.2, ih]
      simp [readsUnits_two_iff lower upper]
  | case4 done lead wide isTwo =>
      obtain ⟨lower, upper⟩ := (isTwo_iff lead).mp isTwo
      simp only [reduceCtorEq, false_iff, not_exists, not_and]
      intro units reads
      cases reads with
      | one below => omega
  | case5 done lead wide notTwo isThree second third rest unit ih =>
      obtain ⟨lower, upper⟩ := (isThree_iff lead).mp isThree
      have value : unit = lead.toNat % 16 * 4096 + second.toNat % 64 * 64 + third.toNat % 64 := by
        rw [← (toNat_lowest lead).1, ← (toNat_lowest second).2.2, ← (toNat_lowest third).2.2]
      rw [ih, value]
      simp [readsUnits_three_iff lower upper]
  | case6 done lead rest wide notTwo isThree short =>
      obtain ⟨lower, upper⟩ := (isThree_iff lead).mp isThree
      simp only [reduceCtorEq, false_iff, not_exists, not_and]
      intro units reads
      cases reads with
      | one below => omega
      | two _ below => omega
      | three => exact absurd rfl (short _ _ _)
  | case7 done lead rest wide notTwo notThree =>
      simp only [reduceCtorEq, false_iff, not_exists, not_and]
      intro units reads
      cases reads with
      | one below => exact absurd (UInt8.lt_iff_toNat_lt.mpr below) wide
      | two lower upper => exact absurd ((isTwo_iff lead).mpr ⟨lower, upper⟩) notTwo
      | three lower upper => exact absurd ((isThree_iff lead).mpr ⟨lower, upper⟩) notThree

end Bytes

section Characters

variable {mark other : Char} {units : List Nat} {unit high low : Nat}

theorem toNat_bounds (mark : Char) :
    mark.toNat < 0xD800 ∨ 0xDFFF < mark.toNat ∧ mark.toNat < 0x110000 := mark.valid

theorem toNat_ofNat {code : Nat} (valid : code < 0xD800 ∨ 0xDFFF < code ∧ code < 0x110000) :
    (Char.ofNat code).toNat = code := by
  have isValid : code.isValidChar := valid
  rw [Char.ofNat, dif_pos isValid]
  rfl

theorem isHighSurrogate_iff : isHighSurrogate unit = true ↔ 0xD800 ≤ unit ∧ unit < 0xDC00 := by
  simp [isHighSurrogate]

theorem isLowSurrogate_iff : isLowSurrogate unit = true ↔ 0xDC00 ≤ unit ∧ unit < 0xE000 := by
  simp [isLowSurrogate]

/-- A character is one unit that is no surrogate, or a high surrogate and a low one. -/
theorem unitsOf_cases (mark : Char) :
    (unitsOf mark = [mark.toNat] ∧ (mark.toNat < 0xD800 ∨ 0xDFFF < mark.toNat) ∧ mark.toNat < 0x10000) ∨
      ∃ high low, unitsOf mark = [high, low] ∧ (0xD800 ≤ high ∧ high < 0xDC00) ∧ (0xDC00 ≤ low ∧ low < 0xE000) ∧
        mark.toNat = 0x10000 + (high - 0xD800) * 1024 + (low - 0xDC00) := by
  have bounds := toNat_bounds mark
  unfold unitsOf
  split
  · exact .inl ⟨rfl, by omega, by assumption⟩
  · exact .inr ⟨_, _, rfl, by omega, by omega, by omega⟩

theorem unitsOf_ne_nil (mark : Char) : unitsOf mark ≠ [] := by
  unfold unitsOf
  split <;> exact List.cons_ne_nil _ _

theorem unitsOf_ofNat (small : unit < 0x10000) (notHigh : ¬ isHighSurrogate unit = true)
    (notLow : ¬ isLowSurrogate unit = true) : unitsOf (Char.ofNat unit) = [unit] := by
  rw [isHighSurrogate_iff] at notHigh
  rw [isLowSurrogate_iff] at notLow
  have code := toNat_ofNat (by omega : unit < 0xD800 ∨ 0xDFFF < unit ∧ unit < 0x110000)
  rw [unitsOf, code, if_pos small]

theorem unitsOf_combine (isHigh : isHighSurrogate high = true) (isLow : isLowSurrogate low = true) :
    unitsOf (combine high low) = [high, low] := by
  rw [isHighSurrogate_iff] at isHigh
  rw [isLowSurrogate_iff] at isLow
  have code : (combine high low).toNat = 0x10000 + (high - 0xD800) * 1024 + (low - 0xDC00) :=
    toNat_ofNat (by omega)
  have upper : 0xD800 + ((combine high low).toNat - 0x10000) / 0x400 = high := by omega
  have lower : 0xDC00 + ((combine high low).toNat - 0x10000) % 0x400 = low := by omega
  rw [unitsOf, if_neg (by omega), upper, lower]

theorem unitsOf_append_inj {rest otherRest : List Nat} (same : unitsOf mark ++ rest = unitsOf other ++ otherRest) :
    mark = other ∧ rest = otherRest := by
  rcases unitsOf_cases mark with ⟨one, plain, -⟩ | ⟨high, low, two, isHigh, isLow, code⟩
  · rcases unitsOf_cases other with ⟨otherOne, -⟩ | ⟨high, low, two, isHigh, -⟩
    · rw [one, otherOne] at same
      obtain ⟨codes, rests⟩ := List.cons.inj same
      exact ⟨Char.toNat_inj.mp codes, rests⟩
    · rw [one, two] at same
      have codes := (List.cons.inj same).1
      omega
  · rcases unitsOf_cases other with ⟨otherOne, otherPlain, -⟩ | ⟨otherHigh, otherLow, otherTwo, -, -, otherCode⟩
    · rw [two, otherOne] at same
      have codes := (List.cons.inj same).1
      omega
    · rw [two, otherTwo] at same
      obtain ⟨highs, later⟩ := List.cons.inj same
      obtain ⟨lows, rests⟩ := List.cons.inj later
      exact ⟨Char.toNat_inj.mp (by omega), rests⟩

theorem eq_flatMap_unitsOf_iff {chars : List Char} {rest : List Nat} :
    unitsOf mark ++ rest = chars.flatMap unitsOf ↔ ∃ later, rest = later.flatMap unitsOf ∧ chars = mark :: later := by
  constructor
  · intro same
    cases chars with
    | nil => exact absurd (List.append_eq_nil_iff.mp same).1 (unitsOf_ne_nil mark)
    | cons first later =>
        obtain ⟨rfl, rests⟩ := unitsOf_append_inj same
        exact ⟨later, rests, rfl⟩
  · intro ⟨later, rests, all⟩
    rw [all, rests, List.flatMap_cons]

/-- A lone surrogate is no part of a text. -/
theorem ne_flatMap_unitsOf {rest : List Nat} (surrogate : 0xD800 ≤ unit ∧ unit < 0xE000)
    (lone : unit < 0xDC00 → ∀ low ∈ rest.head?, ¬ isLowSurrogate low = true) (chars : List Char) :
    unit :: rest ≠ chars.flatMap unitsOf := by
  intro same
  cases chars with
  | nil => cases same
  | cons first later =>
      rw [List.flatMap_cons] at same
      rcases unitsOf_cases first with ⟨one, plain, -⟩ | ⟨high, low, two, isHigh, isLow, -⟩
      · rw [one] at same
        have code := (List.cons.inj same).1
        omega
      · rw [two] at same
        obtain ⟨rfl, rests⟩ := List.cons.inj same
        exact lone isHigh.2 low (by rw [rests]; rfl) (isLowSurrogate_iff.mpr isLow)

theorem charsReverse_eq_some_iff {done result : List Char} (small : ∀ unit ∈ units, unit < 0x10000) :
    charsReverse units done = some result ↔
      ∃ chars : List Char, units = chars.flatMap unitsOf ∧ result = chars.reverse ++ done := by
  fun_induction charsReverse units done with
  | case1 done =>
      constructor
      · intro same
        exact ⟨[], rfl, by simpa using same.symm⟩
      · intro ⟨chars, empty, same⟩
        cases chars with
        | nil => simpa using same.symm
        | cons first later =>
            exact absurd (List.append_eq_nil_iff.mp empty.symm).1 (unitsOf_ne_nil first)
  | case2 done unit isHigh low rest isLow ih =>
      have pair := unitsOf_combine isHigh isLow
      have start : unit :: low :: rest = unitsOf (combine unit low) ++ rest := by rw [pair]; rfl
      rw [ih (fun later member => small later (by simp [member])), start]
      simp only [eq_flatMap_unitsOf_iff]
      simp
  | case3 done unit isHigh low rest notLow =>
      have surrogate := isHighSurrogate_iff.mp isHigh
      simp only [reduceCtorEq, false_iff, not_exists, not_and]
      intro chars same
      exact absurd same (ne_flatMap_unitsOf (by omega) (fun _ => by simpa using notLow) chars)
  | case4 done unit isHigh =>
      have surrogate := isHighSurrogate_iff.mp isHigh
      simp only [reduceCtorEq, false_iff, not_exists, not_and]
      intro chars same
      exact absurd same (ne_flatMap_unitsOf (by omega) (fun _ => by simp) chars)
  | case5 done unit rest notHigh isLow =>
      have surrogate := isLowSurrogate_iff.mp isLow
      simp only [reduceCtorEq, false_iff, not_exists, not_and]
      intro chars same
      exact absurd same (ne_flatMap_unitsOf (by omega) (fun below => by omega) chars)
  | case6 done unit rest notHigh notLow ih =>
      obtain ⟨first, later⟩ := List.forall_mem_cons.mp small
      have start : unit :: rest = unitsOf (Char.ofNat unit) ++ rest := by
        rw [unitsOf_ofNat first notHigh notLow]
        rfl
      rw [ih later, start]
      simp only [eq_flatMap_unitsOf_iff]
      simp

theorem decodeUnits?_eq_some_iff {bytes : List UInt8} {text : String} :
    decodeUnits? bytes = some text ↔ ReadsUnits bytes (text.toList.flatMap unitsOf) := by
  have decoded : decodeUnits? bytes = some text ↔
      ∃ units, ReadsUnits bytes units ∧
        ∃ chars, charsReverse units [] = some chars ∧ String.ofList chars.reverse = text := by
    simp [decodeUnits?, Option.bind_eq_some_iff, unitsReverse_eq_some_iff]
  rw [decoded]
  constructor
  · intro ⟨units, reads, chars, read, same⟩
    obtain ⟨marks, spelled, reversed⟩ := (charsReverse_eq_some_iff reads.lt).mp read
    rw [← same, reversed]
    simpa [← spelled] using reads
  · intro reads
    refine ⟨_, reads, _, (charsReverse_eq_some_iff reads.lt).mpr ⟨text.toList, rfl, rfl⟩, ?_⟩
    simp

end Characters

end ClassMetrics.ModifiedUtf8
