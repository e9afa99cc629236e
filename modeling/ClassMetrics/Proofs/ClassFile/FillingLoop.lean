import ClassMetrics.Proofs.ClassFile.SlotLayout

namespace ClassMetrics.ConstantPool

/-!
The slots of a pool filled in a loop that counts them in sixteen bits. The index and the entries are kept apart, and a
turn adds one to both or two to both. Sixteen bits wrap at 65536; that index and entries stay in step nevertheless, and
within the count, is what every turn preserves.
-/

structure Filling where
  index : UInt16
  entries : Array (Option Constant)
deriving Repr, DecidableEq

namespace Filling

def start : Filling := ⟨1, #[none]⟩

/-- One turn of the loop. Sums and differences wrap. -/
def turn (count : UInt16) (state : Filling) : Reader Filling := do
  let tag ← Reader.u8
  if Constant.isWide tag then
    if count - 1 ≤ state.index then
      throw (.wideConstantOverflow state.index.toNat)
    else
      Reader.skip 8
      return ⟨state.index + 2, state.entries.push (some .other) |>.push none⟩
  else
    let constant ← Constant.read tag state.index.toNat
    return ⟨state.index + 1, state.entries.push (some constant)⟩

/-- The loop from a state on: the states that it comes to, and its outcome. -/
inductive Runs (count : UInt16) :
    Filling → Cursor → List Filling → Except FormatError (Filling × Cursor) → Prop where
  | ended {state : Filling} {cursor : Cursor} :
      ¬ state.index < count → Runs count state cursor [] (.ok (state, cursor))
  | refused {state : Filling} {cursor : Cursor} {reason : FormatError} :
      state.index < count → state.turn count cursor = .error reason → Runs count state cursor [] (.error reason)
  | turned {state next : Filling} {cursor behind : Cursor} {later : List Filling}
      {outcome : Except FormatError (Filling × Cursor)} :
      state.index < count → state.turn count cursor = .ok (next, behind) →
      Runs count next behind later outcome → Runs count state cursor (next :: later) outcome

structure InStep (count : UInt16) (state : Filling) : Prop where
  entries : state.entries.size = state.index.toNat
  bounded : state.index.toNat ≤ max count.toNat 1

/-- What a turn computes in sixteen bits is the number that it stands for. Two is added only below the last slot. -/
structure SumsExact (count : UInt16) (state : Filling) : Prop where
  countLessOne : state.index < count → (count - 1).toNat + 1 = count.toNat
  indexAndOne : state.index < count → (state.index + 1).toNat = state.index.toNat + 1
  indexAndTwo : state.index < count → state.index < count - 1 →
    (state.index + 2).toNat = state.index.toNat + 2

variable {count : UInt16} {state next : Filling} {cursor behind : Cursor} {later : List Filling}
  {outcome : Except FormatError (Filling × Cursor)}

theorem inStep_start (count : UInt16) : start.InStep count :=
  ⟨rfl, Nat.le_max_right _ _⟩

theorem sumsExact (state : Filling) (count : UInt16) : state.SumsExact count := by
  have largest := count.toNat_lt
  have lessOne (room : state.index < count) : (count - 1).toNat + 1 = count.toNat := by
    have below := UInt16.lt_iff_toNat_lt.mp room
    have positive : 1 ≤ count := UInt16.le_iff_toNat_le.mpr (Nat.lt_of_le_of_lt (Nat.zero_le _) below)
    rw [UInt16.toNat_sub_of_le _ _ positive]
    exact Nat.sub_add_cancel positive
  refine ⟨lessOne, fun room => ?_, fun room below => ?_⟩
  · rw [UInt16.lt_iff_toNat_lt] at room
    rw [UInt16.toNat_add]
    exact Nat.mod_eq_of_lt (Nat.lt_of_le_of_lt room largest)
  · have less := lessOne room
    rw [UInt16.lt_iff_toNat_lt] at below
    rw [UInt16.toNat_add]
    exact Nat.mod_eq_of_lt (show state.index.toNat + 2 < 65536 by omega)

/-- A turn adds one or two, to the index and to the entries alike, and does not pass the count. -/
theorem advance_of_turn (room : state.index < count) (turned : state.turn count cursor = .ok (next, behind)) :
    ∃ added, (added = 1 ∨ added = 2) ∧ next.index.toNat = state.index.toNat + added ∧
      next.entries.size = state.entries.size + added ∧ next.index.toNat ≤ count.toNat := by
  have sums := state.sumsExact count
  have less := sums.countLessOne room
  have one := sums.indexAndOne room
  have below := UInt16.lt_iff_toNat_lt.mp room
  obtain ⟨tag, behindTag, _, rest⟩ := Reader.bind_eq_ok_iff.mp turned
  split at rest
  · split at rest
    · cases rest
    · rename_i beforeLast
      obtain ⟨_, _, _, done⟩ := Reader.bind_eq_ok_iff.mp rest
      cases done
      have inside : state.index < count - 1 := UInt16.not_le.mp beforeLast
      have two := sums.indexAndTwo room inside
      rw [UInt16.lt_iff_toNat_lt] at inside
      exact ⟨2, .inr rfl, two, by simp, by dsimp only; omega⟩
  · obtain ⟨constant, _, _, done⟩ := Reader.bind_eq_ok_iff.mp rest
    cases done
    exact ⟨1, .inl rfl, one, by simp, by dsimp only; omega⟩

-- In the last slot of the largest pool a double is refused before two is added to the index.
example : turn 65535 ⟨65534, #[]⟩ ⟨0, [6, 0, 0, 0, 0, 0, 0, 0, 0]⟩ = .error (.wideConstantOverflow 65534) := rfl

theorem InStep.turn (inStep : state.InStep count) (room : state.index < count)
    (turned : state.turn count cursor = .ok (next, behind)) : next.InStep count := by
  obtain ⟨added, _, index, entries, within⟩ := advance_of_turn room turned
  refine ⟨?_, Nat.le_trans within (Nat.le_max_left _ _)⟩
  rw [entries, index, inStep.entries]

theorem Runs.inStep (runs : Runs count state cursor later outcome) (inStep : state.InStep count) :
    ∀ reached ∈ state :: later, reached.InStep count := by
  induction runs with
  | ended | refused => simpa using inStep
  | turned room turned _ ih =>
      exact List.forall_mem_cons.mpr ⟨inStep, ih (inStep.turn room turned)⟩

theorem exists_runs (count : UInt16) (state : Filling) (cursor : Cursor) :
    ∃ later outcome, Runs count state cursor later outcome ∧
      later.length ≤ count.toNat - state.index.toNat := by
  -- Every turn raises the index, which the count bounds, so the induction is on what is left between them.
  generalize remaining : count.toNat - state.index.toNat = limit
  induction limit using Nat.strongRecOn generalizing state cursor with
  | ind limit ih =>
      by_cases room : state.index < count
      · cases turned : state.turn count cursor with
        | error reason => exact ⟨[], .error reason, .refused room turned, Nat.zero_le _⟩
        | ok reached =>
            obtain ⟨next, behind⟩ := reached
            obtain ⟨added, oneOrTwo, index, _, within⟩ := advance_of_turn room turned
            obtain ⟨later, outcome, runs, few⟩ := ih _ (by omega) next behind rfl
            refine ⟨next :: later, outcome, .turned room turned runs, ?_⟩
            rw [List.length_cons]
            omega
      · exact ⟨[], .ok (state, cursor), .ended room, Nat.zero_le _⟩

/-- While index and entries are in step, the next slots are read by a turn. -/
theorem readSlots_eq_turn (inStep : state.InStep count) (room : state.index < count) (cursor : Cursor) :
    readSlots count.toNat state.entries cursor =
      (state.turn count cursor >>= fun reached => readSlots count.toNat reached.1.entries reached.2) := by
  suffices same : readSlots count.toNat state.entries =
      state.turn count >>= fun next => readSlots count.toNat next.entries from congrFun same cursor
  have less := (state.sumsExact count).countLessOne room
  have space : state.entries.size < count.toNat := by
    rw [inStep.entries]
    exact UInt16.lt_iff_toNat_lt.mp room
  have last_iff : count - 1 ≤ state.index ↔ ¬ state.entries.size + 1 < count.toNat := by
    rw [UInt16.le_iff_toNat_le, inStep.entries]
    omega
  rw [readSlots, if_pos space, turn, bind_assoc]
  congr 1
  funext tag
  by_cases wide : Constant.isWide tag = true
  · rw [if_pos wide, if_pos wide]
    by_cases fits : state.entries.size + 1 < count.toNat
    · rw [if_pos fits, if_neg (mt last_iff.mp (not_not_intro fits)), bind_assoc]
      rfl
    · rw [if_neg fits, if_pos (last_iff.mpr fits), inStep.entries]
      rfl
  · rw [if_neg wide, if_neg wide, bind_assoc, inStep.entries]
    rfl

theorem Runs.readSlots_eq (runs : Runs count state cursor later outcome) (inStep : state.InStep count) :
    readSlots count.toNat state.entries cursor = outcome.map fun final => (final.1.entries, final.2) := by
  induction runs with
  | @ended state cursor full =>
      have filled : ¬ state.entries.size < count.toNat := by
        rw [inStep.entries]
        exact mt UInt16.lt_iff_toNat_lt.mpr full
      rw [readSlots, if_neg filled]
      rfl
  | refused room refused =>
      rw [readSlots_eq_turn inStep room, refused]
      rfl
  | turned room turned _ ih =>
      rw [readSlots_eq_turn inStep room, turned]
      exact ih (inStep.turn room turned)

end Filling

theorem read_of_count {cursor behind : Cursor} {count : Nat} (counted : Reader.u16 cursor = .ok (count, behind)) :
    read cursor = (readSlots count #[none] behind).map fun filled => (⟨filled.1⟩, filled.2) := by
  simp only [read, Bind.bind, StateT.bind, Except.bind, counted]
  cases readSlots count #[none] behind <;> rfl

/-- Bytes that are read as a pool are its count and its constants, which are laid out slot by slot, and such bytes are
read. Whatever follows the count, the loop ends, with no more turns than there are slots behind slot zero. In each of
its states the index is the number of entries and within the count, and no sum wraps; its outcome is what is read. -/
theorem slots_filled_in_step (cursor : Cursor) :
    (∀ pool final, read cursor = .ok (pool, final) →
      (∃ count constants, StoredAs cursor.rest count constants final.rest) ∧
        ∀ count constants rest, StoredAs cursor.rest count constants rest →
          rest = final.rest ∧ pool.LaidOut count constants) ∧
      (∀ count constants rest, StoredAs cursor.rest count constants rest →
        ∃ pool final, read cursor = .ok (pool, final)) ∧
      ∀ (count : UInt16) (behind : Cursor), Reader.u16 cursor = .ok (count.toNat, behind) →
        ∃ later outcome, Filling.Runs count .start behind later outcome ∧ later.length ≤ count.toNat - 1 ∧
          (∀ state ∈ Filling.start :: later, state.InStep count ∧ state.SumsExact count) ∧
          read cursor = outcome.map fun final => (⟨final.1.entries⟩, final.2) := by
  refine ⟨fun pool final accepted => ⟨exists_storedAs accepted, ?_⟩, ?_, ?_⟩
  · intro count constants rest stored
    obtain ⟨behind, reads, rfl⟩ := stored.read_eq
    rw [reads] at accepted
    cases accepted
    exact ⟨rfl, laidOut_poolOf stored.filled⟩
  · intro count constants rest stored
    obtain ⟨behind, reads, _⟩ := stored.read_eq
    exact ⟨_, behind, reads⟩
  · intro count behind counted
    obtain ⟨later, outcome, runs, few⟩ := Filling.exists_runs count .start behind
    have inStep := runs.inStep (Filling.inStep_start count)
    have slots : readSlots count.toNat #[none] behind = _ := runs.readSlots_eq (Filling.inStep_start count)
    refine ⟨later, outcome, runs, few, fun state reached => ⟨inStep state reached, state.sumsExact count⟩, ?_⟩
    rw [read_of_count counted, slots]
    cases outcome <;> rfl

/-- A long and a double among constants of one slot, the double at the end. -/
def mixedConstants : List StoredConstant := [
  ⟨1, [0, 1, 0x41]⟩, ⟨5, [0, 0, 0, 0, 0, 0, 0, 42]⟩, ⟨7, [0, 1]⟩, ⟨6, [0x40, 0x09, 0x21, 0xFB, 0x54, 0x44, 0x2D, 0x18]⟩]

def mixedPool : List UInt8 := u16Bytes 7 ++ mixedConstants.flatMap StoredConstant.bytes ++ [0xAB]

theorem mixedPool_filled_in_step :
    StoredAs mixedPool 7 mixedConstants [0xAB] ∧ Reader.u16 ⟨0, mixedPool⟩ = .ok (7, ⟨2, mixedPool.drop 2⟩) ∧
      (∃ pool final, read ⟨0, mixedPool⟩ = .ok (pool, final) ∧ final.rest = [0xAB] ∧
        pool.slots = #[none, some (.text "A"), some .other, none, some (.classRef 1), some .other, none] ∧
        pool.LaidOut 7 mixedConstants) ∧
      ∃ later outcome, Filling.Runs 7 .start ⟨2, mixedPool.drop 2⟩ later outcome ∧ later.length ≤ 6 := by
  have stored : StoredAs mixedPool 7 mixedConstants [0xAB] := by
    refine ⟨rfl, ?_, rfl⟩
    have text : (ModifiedUtf8.decode? [0x41]).isSome = true := by decide +kernel
    simp only [mixedConstants, List.forall_mem_cons]
    exact ⟨.text (by decide) text, .fixed rfl, .fixed rfl, .fixed rfl, by simp⟩
  obtain ⟨ofRead, reading, looping⟩ := slots_filled_in_step ⟨0, mixedPool⟩
  obtain ⟨pool, final, accepted⟩ := reading _ _ _ stored
  obtain ⟨rest, laidOut⟩ := (ofRead pool final accepted).2 _ _ _ stored
  have counted : Reader.u16 ⟨0, mixedPool⟩ = .ok (7, ⟨2, mixedPool.drop 2⟩) := rfl
  have slots : (read ⟨0, mixedPool⟩).map (·.1.slots) =
      .ok #[none, some (.text "A"), some .other, none, some (.classRef 1), some .other, none] := by decide +kernel
  rw [accepted] at slots
  obtain ⟨later, outcome, runs, few, _⟩ := looping 7 _ counted
  exact ⟨stored, counted, ⟨pool, final, accepted, rest.symm, Except.ok.inj slots, laidOut⟩,
    later, outcome, runs, few⟩

end ClassMetrics.ConstantPool
