import ClassMetrics.Proofs.ClassFile.Lookups
import ClassMetrics.Proofs.ClassFile.RoundTrip

namespace ClassMetrics

/-!
Two readers on the same bytes. A reader simulates another if it reads whatever the other accepts, to the same value
and wherever the bytes stand. A pool in which more slots are filled resolves all that the pool resolves, so each
reader of the format is simulated by the same reader with such a pool.
-/

def Reader.SimulatedBy {α : Type} (first second : Reader α) : Prop :=
  ∀ offset bytes value final, first ⟨offset, bytes⟩ = .ok (value, final) →
    ∃ taken, bytes = taken ++ final.rest ∧ Reads second taken value

namespace Reader.SimulatedBy

variable {α β : Type} {first second : Reader α} {next other : α → Reader β}

protected theorem pure (value : α) : SimulatedBy (pure value) (pure value) := by
  intro offset bytes result final accepted
  cases accepted
  exact ⟨[], rfl, .pure value⟩

protected theorem throw (reason : FormatError) : SimulatedBy (throw reason) second := by
  intro offset bytes value final accepted
  cases accepted

theorem lift {result outcome : Except FormatError α} (found : ∀ value, result = .ok value → outcome = .ok value) :
    SimulatedBy (liftM result) (liftM outcome) := by
  intro offset bytes value final accepted
  cases result with
  | error reason => cases accepted
  | ok known =>
      cases accepted
      exact ⟨[], rfl, .lift (found value rfl)⟩

theorem bind (start : first.SimulatedBy second) (rest : ∀ value, (next value).SimulatedBy (other value)) :
    SimulatedBy (first >>= next) (second >>= other) := by
  intro offset bytes value final accepted
  obtain ⟨middle, cursor, early, late⟩ := Reader.bind_eq_ok_iff.mp accepted
  obtain ⟨taken, parts, reads⟩ := start _ _ _ _ early
  obtain ⟨further, partsRest, readsRest⟩ := rest middle _ _ _ _ late
  exact ⟨taken ++ further, by rw [parts, partsRest, List.append_assoc], reads.bind readsRest⟩

theorem map (simulated : first.SimulatedBy second) (change : α → β) :
    SimulatedBy (change <$> first) (change <$> second) := by
  rw [map_eq_pure_bind, map_eq_pure_bind]
  exact simulated.bind fun value => .pure (change value)

theorem take (count : Nat) : SimulatedBy (Reader.take count) (Reader.take count) := by
  intro offset bytes value final accepted
  obtain ⟨enough, parts, _⟩ := Reader.take_eq_ok_iff.mp accepted
  exact ⟨value, parts, .take enough⟩

theorem skip (count : Nat) : SimulatedBy (Reader.skip count) (Reader.skip count) :=
  (take count).bind fun _ => .pure ()

theorem unsigned (width : Nat) : SimulatedBy (Reader.unsigned width) (Reader.unsigned width) :=
  (take width).bind fun bytes => .pure (bigEndian bytes)

theorem u16 : SimulatedBy Reader.u16 Reader.u16 := unsigned 2

theorem u32 : SimulatedBy Reader.u32 Reader.u32 := unsigned 4

/-- Where the bytes stand may be asked for, as long as the answer changes nothing. -/
theorem bind_offset {next other : Nat → Reader β}
    (same : ∀ start elsewhere, (next start).SimulatedBy (other elsewhere)) :
    SimulatedBy (Reader.offset >>= next) (Reader.offset >>= other) := by
  intro offset bytes value final accepted
  have accepted : next offset ⟨offset, bytes⟩ = .ok (value, final) := accepted
  obtain ⟨taken, parts, _⟩ := same offset 0 _ _ _ _ accepted
  refine ⟨taken, parts, .bind_offset fun elsewhere => ?_⟩
  obtain ⟨again, partsAgain, reads⟩ := same offset elsewhere _ _ _ _ accepted
  have equal : taken = again := List.append_cancel_right (parts.symm.trans partsAgain)
  rwa [equal]

theorem within (inner : first.SimulatedBy second) (start elsewhere : Nat) (slice : List UInt8) :
    SimulatedBy (Reader.within start slice first) (Reader.within elsewhere slice second) := by
  intro offset bytes value final accepted
  cases read : first ⟨start, slice⟩ with
  | error reason => simp [Reader.within, read] at accepted
  | ok outcome =>
      simp only [Reader.within, read] at accepted
      cases accepted
      obtain ⟨taken, parts, reads⟩ := inner _ _ _ _ read
      have again := reads elsewhere outcome.2.rest
      rw [← parts] at again
      refine ⟨[], rfl, fun position rest => ?_⟩
      simp only [Reader.within, again]
      rfl

theorem collect (item : first.SimulatedBy second) (count : Nat) (items : Array α) :
    SimulatedBy (Reader.collect first count items) (Reader.collect second count items) := by
  induction count generalizing items with
  | zero => exact .pure items
  | succ count ih => exact item.bind fun value => ih (items.push value)

theorem times (item : first.SimulatedBy second) (count : Nat) :
    SimulatedBy (Reader.times count first) (Reader.times count second) :=
  (item.collect count #[]).bind fun items => .pure items.toList

theorem resolve {lookup wider : Nat → Except FormatError α}
    (found : ∀ index value, lookup index = .ok value → wider index = .ok value)
    (rest : ∀ value, (next value).SimulatedBy (other value)) :
    SimulatedBy (Reader.u16 >>= fun index => liftM (lookup index) >>= next)
      (Reader.u16 >>= fun index => liftM (wider index) >>= other) :=
  u16.bind fun index => (lift (found index)).bind rest

end Reader.SimulatedBy

open Reader (SimulatedBy)

namespace ConstantPool

/-- All that a slot of the pool holds, the other pool holds in the same slot. -/
def Within (pool wider : ConstantPool) : Prop :=
  ∀ index constant, pool.constant index = .ok constant → wider.constant index = .ok constant

theorem within_append (slots more : Array (Option Constant)) : Within ⟨slots⟩ ⟨slots ++ more⟩ := by
  intro index constant found
  rw [constant_eq_ok_iff] at found ⊢
  obtain ⟨inside, _⟩ := Array.getElem?_eq_some_iff.mp found
  exact (Array.getElem?_append_left inside).trans found

namespace Within

variable {pool wider : ConstantPool} {index : Nat}

theorem holds (within : pool.Within wider) {constant : Constant} (held : pool.Holds index constant) :
    wider.Holds index constant :=
  constant_eq_ok_iff.mp (within index constant (constant_eq_ok_iff.mpr held))

theorem text (within : pool.Within wider) {value : String} (found : pool.text index = .ok value) :
    wider.text index = .ok value := by
  rw [text_eq_ok_iff] at found ⊢
  exact within.holds found

theorem className (within : pool.Within wider) {value : String} (found : pool.className index = .ok value) :
    wider.className index = .ok value := by
  rw [className_eq_ok_iff] at found ⊢
  obtain ⟨name, held, named⟩ := found
  exact ⟨name, within.holds held, within.holds named⟩

theorem member (within : pool.Within wider) {value : MemberRef} (found : pool.member index = .ok value) :
    wider.member index = .ok value := by
  rw [member_eq_ok_iff] at found ⊢
  obtain ⟨owner, signature, ownerName, name, descriptor, held, pair, ownerClass, ownerHeld, named, typed⟩ := found
  exact ⟨owner, signature, ownerName, name, descriptor, within.holds held, within.holds pair,
    within.holds ownerClass, within.holds ownerHeld, within.holds named, within.holds typed⟩

theorem resolve (within : pool.Within wider) {opcode : UInt8} {operands : List UInt8} {instruction : Instruction}
    (found : Code.resolve pool opcode operands = .ok instruction) :
    Code.resolve wider opcode operands = .ok instruction := by
  unfold Code.resolve at found ⊢
  split
  · rename_i use uses
    rw [uses] at found
    obtain ⟨ref, referred, rest⟩ := bind_eq_ok_iff.mp found
    exact bind_eq_ok_iff.mpr ⟨ref, within.member referred, rest⟩
  · rename_i unused
    rwa [unused] at found

theorem decodeFrom (within : pool.Within wider) {pc : Nat} {code : List UInt8} {decoded all : Array Instruction}
    (found : Code.decodeFrom pool pc code decoded = .ok all) :
    Code.decodeFrom wider pc code decoded = .ok all := by
  fun_induction Code.decodeFrom pool pc code decoded with
  | case1 => rwa [Code.decodeFrom]
  | case2 pc decoded opcode operands ih =>
      rw [Code.decodeFrom]
      obtain ⟨length, complete, rest⟩ := bind_eq_ok_iff.mp found
      obtain ⟨instruction, resolved, rest⟩ := bind_eq_ok_iff.mp rest
      refine bind_eq_ok_iff.mpr ⟨length, complete, bind_eq_ok_iff.mpr ⟨instruction, ?_, ?_⟩⟩
      · exact within.resolve resolved
      · exact ih length instruction rest

theorem decode (within : pool.Within wider) {code : List UInt8} {instructions : List Instruction}
    (found : Code.decode pool code = .ok instructions) : Code.decode wider code = .ok instructions := by
  obtain ⟨all, decoded, rest⟩ := bind_eq_ok_iff.mp found
  exact bind_eq_ok_iff.mpr ⟨all, within.decodeFrom decoded, rest⟩

end Within

end ConstantPool

namespace ClassFile

variable {pool wider : ConstantPool}

theorem simulated_skipAttributes (count : Nat) : SimulatedBy (skipAttributes count) (skipAttributes count) := by
  induction count with
  | zero => exact .pure ()
  | succ count ih =>
      refine (SimulatedBy.skip 2).bind fun _ => SimulatedBy.u32.bind fun length => ?_
      exact (SimulatedBy.skip length).bind fun _ => ih

theorem simulated_readField (within : pool.Within wider) : SimulatedBy (readField pool) (readField wider) := by
  refine (SimulatedBy.skip 2).bind fun _ => ?_
  refine .resolve (fun _ _ => within.text) fun name => .resolve (fun _ _ => within.text) fun descriptor => ?_
  exact SimulatedBy.u16.bind fun count => (simulated_skipAttributes count).bind fun _ => .pure _

theorem simulated_readLocal (within : pool.Within wider) : SimulatedBy (readLocal pool) (readLocal wider) := by
  refine (SimulatedBy.skip 2).bind fun _ => (SimulatedBy.skip 2).bind fun _ => ?_
  refine .resolve (fun _ _ => within.text) fun name => .resolve (fun _ _ => within.text) fun descriptor => ?_
  exact (SimulatedBy.skip 2).bind fun _ => .pure _

theorem simulated_readCodeAttributes (within : pool.Within wider) (count : Nat) (method : Method) :
    SimulatedBy (readCodeAttributes pool count method) (readCodeAttributes wider count method) := by
  induction count generalizing method with
  | zero => exact .pure method
  | succ count ih =>
      refine .resolve (fun _ _ => within.text) fun name => SimulatedBy.u32.bind fun length => ?_
      split
      · refine SimulatedBy.u16.bind fun entries => ?_
        exact ((simulated_readLocal within).times entries).bind fun locals => ih _
      · exact (SimulatedBy.skip length).bind fun _ => ih method

theorem simulated_readCode (within : pool.Within wider) (method : Method) :
    SimulatedBy (readCode pool method) (readCode wider method) := by
  refine (SimulatedBy.skip 2).bind fun _ => (SimulatedBy.skip 2).bind fun _ => ?_
  refine SimulatedBy.u32.bind fun length => (SimulatedBy.take length).bind fun code => ?_
  refine (SimulatedBy.lift fun _ => within.decode).bind fun instructions => ?_
  refine SimulatedBy.u16.bind fun handlers => (SimulatedBy.skip _).bind fun _ => ?_
  exact SimulatedBy.u16.bind fun count => simulated_readCodeAttributes within count _

theorem simulated_readMethodAttributes (within : pool.Within wider) (count : Nat) (method : Method) :
    SimulatedBy (readMethodAttributes pool count method) (readMethodAttributes wider count method) := by
  induction count generalizing method with
  | zero => exact .pure method
  | succ count ih =>
      refine .resolve (fun _ _ => within.text) fun name => SimulatedBy.u32.bind fun length => ?_
      refine .bind_offset fun start elsewhere => (SimulatedBy.take length).bind fun body => ?_
      split
      · exact ((simulated_readCode within method).within start elsewhere body).bind ih
      · exact ih method

theorem simulated_readMethod (within : pool.Within wider) : SimulatedBy (readMethod pool) (readMethod wider) := by
  refine (SimulatedBy.skip 2).bind fun _ => ?_
  refine .resolve (fun _ _ => within.text) fun name => .resolve (fun _ _ => within.text) fun descriptor => ?_
  exact SimulatedBy.u16.bind fun count => simulated_readMethodAttributes within count _

/-- All that stands before the pool. -/
def readHeader : Reader Unit := do
  let found ← Reader.u32
  if found ≠ magic then
    throw (.badMagic found)
  Reader.skip 2
  Reader.skip 2

/-- All that stands behind the pool. -/
def readBody (pool : ConstantPool) : Reader ClassFile := do
  let accessFlags ← Reader.u16
  let name ← pool.className (← Reader.u16)
  let parent ← Reader.u16
  let superclass ← if parent = 0 then pure none else some <$> pool.className parent
  Reader.skip ((← Reader.u16) * 2)
  let fields ← Reader.times (← Reader.u16) (readField pool)
  let methods ← Reader.times (← Reader.u16) (readMethod pool)
  skipAttributes (← Reader.u16)
  return { name, superclass, accessFlags := UInt16.ofNat accessFlags, fields, methods }

theorem read_eq : read = (do readHeader; let pool ← ConstantPool.read; readBody pool) := by
  unfold read readHeader
  simp only [bind_assoc]
  congr 1
  funext found
  split
  · rfl
  · simp only [bind_assoc]
    rfl

theorem spans_readHeader : Reader.Spans readHeader 8 := by
  have versions : Reader.Spans (Reader.skip 2 >>= fun _ => Reader.skip 2) 4 :=
    (Reader.Spans.skip 2).bind fun _ => Reader.Spans.skip 2
  have number : Reader.u32.Spans 4 := .unsigned 4
  change Reader.Spans _ (4 + 4)
  refine number.bind fun found => ?_
  split
  · intro cursor value final accepted
    cases accepted
  · exact versions

theorem simulated_readHeader : SimulatedBy readHeader readHeader := by
  have versions : SimulatedBy (Reader.skip 2 >>= fun _ => Reader.skip 2) (Reader.skip 2 >>= fun _ => Reader.skip 2) :=
    (SimulatedBy.skip 2).bind fun _ => SimulatedBy.skip 2
  refine SimulatedBy.u32.bind fun found => ?_
  split
  · exact (SimulatedBy.throw _).bind fun _ => versions
  · exact versions

theorem simulated_readBody (within : pool.Within wider) : SimulatedBy (readBody pool) (readBody wider) := by
  refine SimulatedBy.u16.bind fun flags => .resolve (fun _ _ => within.className) fun name => ?_
  refine SimulatedBy.u16.bind fun parent => ?_
  extract_lets afterParent afterParentWider
  have rest (superclass : Option String) : SimulatedBy (afterParent superclass) (afterParentWider superclass) := by
    refine SimulatedBy.u16.bind fun interfaces => (SimulatedBy.skip _).bind fun _ => ?_
    refine SimulatedBy.u16.bind fun fieldCount => ((simulated_readField within).times fieldCount).bind fun fields => ?_
    refine SimulatedBy.u16.bind fun methodCount =>
      ((simulated_readMethod within).times methodCount).bind fun methods => ?_
    exact SimulatedBy.u16.bind fun count => (simulated_skipAttributes count).bind fun _ => .pure _
  split
  · exact (SimulatedBy.pure none).bind rest
  · exact ((SimulatedBy.lift fun _ => within.className).map some).bind rest

end ClassFile

end ClassMetrics
