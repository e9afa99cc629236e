import ClassMetrics.ClassFile.Decode
import Mathlib.Data.List.Nodup

namespace ClassMetrics

/-!
What bytes still to come can change. After the bytes that are there, a reader has accepted a part of them, has
refused them for good, or has run out of data; only the last leaves the outcome open. Every read goes through
`Reader.take`, which looks at the length before anything looks at the content, and what a slice of its own
holds does not depend on what follows the slice. So every reader of the format is `Reader.Steady`.
-/

/-- How a reader stands after `bytes`. A reader that ran out of data says where it would have stopped, and it
stops there or later once it succeeds. -/
inductive Reader.Settles {α : Type} (reader : Reader α) (offset : Nat) (bytes : List UInt8) : Prop where
  | accepted (value : α) (taken rest : List UInt8) (parts : taken ++ rest = bytes)
      (reads : ∀ more, reader ⟨offset, bytes ++ more⟩ = .ok (value, ⟨offset + taken.length, rest ++ more⟩))
  | refused (reason : FormatError) (fails : ∀ more, reader ⟨offset, bytes ++ more⟩ = .error reason)
  | cut (stop : Nat) (beyond : offset + bytes.length < stop)
      (fails : reader ⟨offset, bytes⟩ = .error (.truncated stop))
      (later : ∀ more value final, reader ⟨offset, bytes ++ more⟩ = .ok (value, final) → stop ≤ final.offset)

def Reader.Steady {α : Type} (reader : Reader α) : Prop :=
  ∀ offset bytes, reader.Settles offset bytes

namespace Reader.Steady

variable {α β : Type} {reader : Reader α} {next : α → Reader β}

theorem accepts (steady : reader.Steady) {offset : Nat} {bytes : List UInt8} {value : α} {final : Cursor}
    (reads : reader ⟨offset, bytes⟩ = .ok (value, final)) :
    ∃ taken rest, taken ++ rest = bytes ∧ final = ⟨offset + taken.length, rest⟩ ∧
      ∀ more, reader ⟨offset, bytes ++ more⟩ = .ok (value, ⟨offset + taken.length, rest ++ more⟩) := by
  cases steady offset bytes with
  | accepted found taken rest parts always =>
      have now := always []
      rw [List.append_nil, List.append_nil, reads] at now
      cases now
      exact ⟨taken, rest, parts, rfl, always⟩
  | refused reason fails =>
      have now := fails []
      rw [List.append_nil, reads] at now
      cases now
  | cut stop beyond fails later =>
      rw [reads] at fails
      cases fails

theorem advances (steady : reader.Steady) {cursor final : Cursor} {value : α}
    (reads : reader cursor = .ok (value, final)) : cursor.offset ≤ final.offset := by
  obtain ⟨taken, rest, _, rfl, _⟩ := steady.accepts reads
  exact Nat.le_add_right _ _

theorem refuses (steady : reader.Steady) {offset : Nat} {bytes : List UInt8} {reason : FormatError}
    (fails : reader ⟨offset, bytes⟩ = .error reason) (complete : ∀ stop, reason ≠ .truncated stop)
    (more : List UInt8) : reader ⟨offset, bytes ++ more⟩ = .error reason := by
  cases steady offset bytes with
  | accepted value taken rest parts always =>
      have now := always []
      rw [List.append_nil, fails] at now
      cases now
  | refused found always =>
      have now := always []
      rw [List.append_nil, fails] at now
      cases now
      exact always more
  | cut stop beyond short later =>
      rw [fails] at short
      cases short
      exact absurd rfl (complete stop)

/-- What is accepted in full is short of data wherever it is cut. -/
theorem cut_short (steady : reader.Steady) {offset : Nat} {bytes : List UInt8} {value : α} {final : Cursor}
    (reads : reader ⟨offset, bytes⟩ = .ok (value, final)) {kept : Nat}
    (inside : offset + kept < final.offset) :
    ∃ stop, reader ⟨offset, bytes.take kept⟩ = .error (.truncated stop) ∧
      offset + kept < stop ∧ stop ≤ final.offset := by
  obtain ⟨taken, rest, parts, rfl, _⟩ := steady.accepts reads
  dsimp only at inside ⊢
  have length : (bytes.take kept).length = kept := by
    rw [List.length_take, ← parts, List.length_append]
    omega
  rw [← List.take_append_drop kept bytes] at reads
  cases steady offset (bytes.take kept) with
  | accepted found early left keptParts always =>
      have keptLength := congrArg List.length keptParts
      rw [List.length_append, length] at keptLength
      rw [always (bytes.drop kept)] at reads
      injection reads with same
      have ends : offset + early.length = offset + taken.length :=
        congrArg (fun outcome => outcome.2.offset) same
      omega
  | refused reason fails =>
      rw [fails (bytes.drop kept)] at reads
      cases reads
  | cut stop beyond fails later =>
      rw [length] at beyond
      exact ⟨stop, fails, beyond, later _ _ _ reads⟩

protected theorem pure (value : α) : Steady (pure value) :=
  fun _ bytes => .accepted value [] bytes rfl fun _ => rfl

protected theorem throw (reason : FormatError) : Steady (throw reason : Reader α) :=
  fun _ _ => .refused reason fun _ => rfl

theorem lift (result : Except FormatError α) : Steady (liftM result) := by
  intro offset bytes
  cases result with
  | ok value => exact .accepted value [] bytes rfl fun _ => rfl
  | error reason => exact .refused reason fun _ => rfl

theorem bind (first : reader.Steady) (second : ∀ value, (next value).Steady) :
    Steady (reader >>= next) := by
  intro offset bytes
  cases first offset bytes with
  | accepted value taken rest parts reads =>
      have step (more : List UInt8) : (reader >>= next) ⟨offset, bytes ++ more⟩ =
          next value ⟨offset + taken.length, rest ++ more⟩ := by
        simp only [Bind.bind, StateT.bind, Except.bind, reads more]
      cases second value (offset + taken.length) rest with
      | accepted result further left restParts readsRest =>
          refine .accepted result (taken ++ further) left ?_ fun more => ?_
          · rw [List.append_assoc, restParts, parts]
          · rw [step, readsRest, List.length_append, Nat.add_assoc]
      | refused reason fails => exact .refused reason fun more => (step more).trans (fails more)
      | cut stop beyond fails later =>
          have length := congrArg List.length parts
          rw [List.length_append] at length
          refine .cut stop (by omega) ?_ fun more result final succeeds => ?_
          · have now := step []
            rw [List.append_nil, List.append_nil] at now
            exact now.trans fails
          · exact later more result final ((step more).symm.trans succeeds)
  | refused reason fails =>
      refine .refused reason fun more => ?_
      simp only [Bind.bind, StateT.bind, Except.bind, fails more]
  | cut stop beyond fails later =>
      refine .cut stop beyond ?_ fun more result final succeeds => ?_
      · simp only [Bind.bind, StateT.bind, Except.bind, fails]
      · -- With more data the first reader gets past its stop, and the second never goes back.
        cases found : reader ⟨offset, bytes ++ more⟩ with
        | error reason =>
            simp only [Bind.bind, StateT.bind, Except.bind, found] at succeeds
            cases succeeds
        | ok middle =>
            have continues : next middle.1 middle.2 = .ok (result, final) := by
              simpa only [Bind.bind, StateT.bind, Except.bind, found] using succeeds
            exact Nat.le_trans (later more middle.1 middle.2 found) ((second middle.1).advances continues)

theorem map (steady : reader.Steady) (change : α → β) : Steady (change <$> reader) := by
  rw [map_eq_pure_bind]
  exact steady.bind fun value => .pure (change value)

theorem take (count : Nat) : Steady (Reader.take count) := by
  intro offset bytes
  by_cases enough : count ≤ bytes.length
  · refine .accepted (bytes.take count) (bytes.take count) (bytes.drop count) (List.take_append_drop _ _)
      fun more => ?_
    simp [Reader.take, List.take_append_of_le_length enough, List.drop_append_of_le_length enough, enough]
  · refine .cut (offset + count) (by omega) (by simp [Reader.take]; omega) fun more value final succeeds => ?_
    unfold Reader.take at succeeds
    dsimp only at succeeds
    split at succeeds
    · cases succeeds
      exact Nat.le_refl _
    · cases succeeds

theorem skip (count : Nat) : Steady (Reader.skip count) :=
  (take count).bind fun _ => .pure ()

theorem unsigned (width : Nat) : Steady (Reader.unsigned width) :=
  (take width).bind fun bytes => .pure (bigEndian bytes)

theorem u8 : Steady Reader.u8 := unsigned 1

theorem u16 : Steady Reader.u16 := unsigned 2

theorem u32 : Steady Reader.u32 := unsigned 4

theorem offset : Steady Reader.offset :=
  fun offset bytes => .accepted offset [] bytes rfl fun _ => rfl

/-- Nothing is asked of the inner reader: its bytes are all there, so whatever it makes of them is final. -/
theorem within (start : Nat) (slice : List UInt8) (inner : Reader α) :
    Steady (Reader.within start slice inner) := by
  intro offset bytes
  cases read : inner ⟨start, slice⟩ with
  | ok found => exact .accepted found.1 [] bytes rfl fun more => by simp only [Reader.within, read]; rfl
  | error reason => exact .refused reason fun more => by simp only [Reader.within, read]

theorem collect (steady : reader.Steady) (count : Nat) (items : Array α) :
    Steady (Reader.collect reader count items) := by
  induction count generalizing items with
  | zero => exact .pure items
  | succ count ih => exact steady.bind fun item => ih (items.push item)

theorem times (steady : reader.Steady) (count : Nat) : Steady (Reader.times count reader) :=
  (steady.collect count #[]).bind fun items => .pure items.toList

theorem resolve {lookup : Nat → Except FormatError α} (second : ∀ value, (next value).Steady) :
    Steady (Reader.u16 >>= fun index => liftM (lookup index) >>= next) :=
  u16.bind fun index => (lift (lookup index)).bind second

end Reader.Steady

open Reader (Steady)

theorem Constant.steady_read (tag index : Nat) : Steady (Constant.read tag index) := by
  have skipped (count : Nat) : Steady (Reader.skip count >>= fun _ => pure Constant.other) :=
    (Steady.skip count).bind fun _ => .pure _
  have indices (constant : Nat → Nat → Constant) :
      Steady (Reader.u16 >>= fun first => Reader.u16 >>= fun second => pure (constant first second)) :=
    Steady.u16.bind fun _ => Steady.u16.bind fun _ => .pure _
  unfold Constant.read
  split
  case h_1 =>
    refine Steady.u16.bind fun length => (Steady.take length).bind fun bytes => ?_
    split
    · exact .pure _
    · exact .throw _
  case h_2 | h_3 | h_4 | h_5 => exact skipped 4
  case h_6 => exact Steady.u16.bind fun name => .pure (Constant.classRef name)
  case h_7 | h_8 | h_9 | h_10 => exact skipped 2
  case h_11 | h_12 | h_13 => exact indices .memberRef
  case h_14 => exact indices .nameAndType
  case h_15 => exact skipped 3
  case h_16 => exact .throw _

namespace ConstantPool

theorem steady_readSlots (count : Nat) (slots : Array (Option Constant)) :
    Steady (readSlots count slots) := by
  induction slots using readSlots.induct count with
  | case1 slots room wide narrow =>
      rw [readSlots, if_pos room]
      refine Steady.u8.bind fun tag => ?_
      split
      · split
        · exact (Steady.skip 8).bind fun _ => wide ‹_›
        · exact .throw _
      · exact (Constant.steady_read tag slots.size).bind narrow
  | case2 slots full =>
      rw [readSlots, if_neg full]
      exact .pure slots

theorem steady_read : Steady read :=
  Steady.u16.bind fun count => (steady_readSlots count #[none]).bind fun _ => .pure _

end ConstantPool

namespace ClassFile

variable (pool : ConstantPool)

theorem steady_skipAttributes (count : Nat) : Steady (skipAttributes count) := by
  induction count with
  | zero => exact .pure ()
  | succ count ih =>
      refine (Steady.skip 2).bind fun _ => Steady.u32.bind fun length => ?_
      exact (Steady.skip length).bind fun _ => ih

theorem steady_readField : Steady (readField pool) := by
  refine (Steady.skip 2).bind fun _ => .resolve fun name => .resolve fun descriptor => ?_
  exact Steady.u16.bind fun count => (steady_skipAttributes count).bind fun _ => .pure _

theorem steady_readMethodAttributes (count : Nat) (method : Method) :
    Steady (readMethodAttributes pool count method) := by
  induction count generalizing method with
  | zero => exact .pure method
  | succ count ih =>
      refine .resolve fun name => Steady.u32.bind fun length => Steady.offset.bind fun start => ?_
      refine (Steady.take length).bind fun body => ?_
      split
      · exact (Steady.within start body _).bind ih
      · exact ih method

theorem steady_readMethod : Steady (readMethod pool) := by
  refine (Steady.skip 2).bind fun _ => .resolve fun name => .resolve fun descriptor => ?_
  exact Steady.u16.bind fun count => steady_readMethodAttributes pool count _

theorem steady_read : Steady read := by
  unfold read
  refine Steady.u32.bind fun found => ?_
  extract_lets afterMagic
  have steadyAfterMagic (start : Unit) : Steady (afterMagic start) := by
    refine (Steady.skip 2).bind fun _ => (Steady.skip 2).bind fun _ => ?_
    refine ConstantPool.steady_read.bind fun pool => ?_
    refine Steady.u16.bind fun flags => .resolve fun name => Steady.u16.bind fun parent => ?_
    extract_lets afterParent
    have steadyAfterParent (superclass : Option String) : Steady (afterParent superclass) := by
      refine Steady.u16.bind fun interfaces => (Steady.skip _).bind fun _ => ?_
      refine Steady.u16.bind fun fieldCount => ((steady_readField pool).times fieldCount).bind fun fields => ?_
      refine Steady.u16.bind fun methodCount => ((steady_readMethod pool).times methodCount).bind fun methods => ?_
      exact Steady.u16.bind fun count => (steady_skipAttributes count).bind fun _ => .pure _
    split
    · exact (Steady.pure none).bind steadyAfterParent
    · exact ((Steady.lift _).map some).bind steadyAfterParent
  split
  · exact (Steady.throw _).bind steadyAfterMagic
  · exact steadyAfterMagic ()

theorem decode_eq_ok_iff {bytes : List UInt8} {classFile : ClassFile} :
    decode bytes = .ok classFile ↔ ∃ final, read ⟨0, bytes⟩ = .ok (classFile, final) := by
  unfold decode
  cases read ⟨0, bytes⟩ with
  | ok outcome => simp [Except.map, Prod.ext_iff]
  | error reason => simp [Except.map]

theorem decode_eq_error_iff {bytes : List UInt8} {reason : FormatError} :
    decode bytes = .error reason ↔ read ⟨0, bytes⟩ = .error reason := by
  unfold decode
  cases read ⟨0, bytes⟩ <;> simp [Except.map]

/-- A class is decoded from its own bytes, whatever follows them, and a file cut off within these bytes is
reported as truncated, at an offset behind the cut and not behind the class. Any other error is in the bytes
that are there, and stays. -/
theorem decode_prefixes (bytes : List UInt8) :
    (∀ classFile, decode bytes = .ok classFile →
      ∃ consumed ≤ bytes.length,
        read ⟨0, bytes⟩ = .ok (classFile, ⟨consumed, bytes.drop consumed⟩) ∧
          (∀ more, decode (bytes ++ more) = .ok classFile) ∧
          ∀ kept < consumed, ∃ offset, decode (bytes.take kept) = .error (.truncated offset) ∧
            kept < offset ∧ offset ≤ consumed) ∧
      ∀ reason, decode bytes = .error reason → (∀ offset, reason ≠ .truncated offset) →
        ∀ more, decode (bytes ++ more) = .error reason := by
  constructor
  · intro classFile decoded
    obtain ⟨final, reads⟩ := decode_eq_ok_iff.mp decoded
    obtain ⟨taken, rest, parts, rfl, always⟩ := steady_read.accepts reads
    have left : bytes.drop taken.length = rest := by rw [← parts, List.drop_left]
    refine ⟨taken.length, ?_, by rw [left, reads, Nat.zero_add], fun more => ?_, fun kept inside => ?_⟩
    · rw [← parts, List.length_append]
      exact Nat.le_add_right _ _
    · exact decode_eq_ok_iff.mpr ⟨_, always more⟩
    · obtain ⟨stop, fails, beyond, bound⟩ := steady_read.cut_short reads (Nat.add_lt_add_left inside 0)
      rw [Nat.zero_add] at beyond bound
      exact ⟨stop, decode_eq_error_iff.mpr fails, beyond, bound⟩
  · intro reason failed complete more
    exact decode_eq_error_iff.mpr (steady_read.refuses (decode_eq_error_iff.mp failed) complete more)

/-- A class whose one method returns at once, with a byte too many at the end. -/
def returningClass : List UInt8 :=
  [0xCA, 0xFE, 0xBA, 0xBE, 0, 0, 0, 52, 0, 4, 1, 0, 1, 0x41, 7, 0, 1, 1, 0, 4, 0x43, 0x6F, 0x64, 0x65,
    0, 0x21, 0, 2, 0, 0, 0, 0, 0, 0, 0, 1, 0, 1, 0, 1, 0, 3, 0, 1,
    0, 3, 0, 0, 0, 13, 0, 0, 0, 0, 0, 0, 0, 1, 0xB1, 0, 0, 0, 0, 0, 0, 0xFF]

/-- Cut within the code of the method, and with a wrong first byte. -/
theorem returningClass_prefixes :
    (decode returningClass = .ok ⟨"A", none, 0x21, [], [⟨"A", "Code", [.other 0xB1], []⟩]⟩ ∧
      decode (returningClass ++ [1, 2]) = .ok ⟨"A", none, 0x21, [], [⟨"A", "Code", [.other 0xB1], []⟩]⟩ ∧
      ∃ offset, decode (returningClass.take 58) = .error (.truncated offset) ∧ 58 < offset ∧ offset ≤ 65) ∧
      decode (0 :: returningClass) = .error (.badMagic 0xCAFEBA) ∧
      decode (0 :: returningClass ++ [1, 2]) = .error (.badMagic 0xCAFEBA) := by
  have decoded : decode returningClass = .ok ⟨"A", none, 0x21, [], [⟨"A", "Code", [.other 0xB1], []⟩]⟩ := by
    decide +kernel
  have ends : (read ⟨0, returningClass⟩).map (·.2.offset) = .ok 65 := by decide +kernel
  have failed : decode (0 :: returningClass) = .error (.badMagic 0xCAFEBA) := by decide +kernel
  obtain ⟨consumed, _, reads, longer, shorter⟩ := (decode_prefixes returningClass).1 _ decoded
  rw [reads] at ends
  have size : consumed = 65 := Except.ok.inj ends
  subst size
  exact ⟨⟨decoded, longer [1, 2], shorter 58 (by decide)⟩, failed,
    (decode_prefixes (0 :: returningClass)).2 _ failed (by simp) [1, 2]⟩

end ClassFile

end ClassMetrics
