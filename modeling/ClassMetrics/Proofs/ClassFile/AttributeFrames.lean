import ClassMetrics.Proofs.ClassFile.AttributeTrace
import ClassMetrics.Proofs.ClassFile.Prefixes

namespace ClassMetrics

/-!
Where reading goes on behind an attribute. The content of a table of locals is as long as its entries are; any other
attribute takes the length that it states. So attributes take the lengths that they state exactly when the tables of
locals state the size of their entries.
-/

def numberAt (bytes : List UInt8) (offset width : Nat) : Nat :=
  bigEndian ((bytes.drop offset).take width)

/-- The bytes that are read for the content of an attribute, which starts at `offset`. -/
def contentSize (bytes : List UInt8) (holder : AttributeHolder) (name : Option String) (length offset : Nat) : Nat :=
  if holder = .code ∧ name = some "LocalVariableTable" then 2 + 10 * numberAt bytes offset 2 else length

structure AttributeVisit.ReadFrom (bytes : List UInt8) (visit : AttributeVisit) : Prop where
  length : visit.length = numberAt bytes (visit.start + 2) 4
  next : visit.next =
    visit.start + 6 + contentSize bytes visit.holder visit.name visit.length (visit.start + 6)

/-- Each attribute starts where reading went on behind the one before. -/
def AttributeVisit.Chained : Nat → List AttributeVisit → Prop
  | _, [] => True
  | offset, visit :: visits => visit.start = offset ∧ Chained visit.next visits

structure AttributeTable.ReadFrom (bytes : List UInt8) (table : AttributeTable) : Prop where
  count : table.visits.length = numberAt bytes table.start 2
  chained : AttributeVisit.Chained (table.start + 2) table.visits
  each : ∀ visit ∈ table.visits, visit.ReadFrom bytes

/-- What is left to read stands in the bytes where the cursor says. -/
def Cursor.In (cursor : Cursor) (bytes : List UInt8) : Prop :=
  cursor.rest <+: bytes.drop cursor.offset

section Cursors

variable {α : Type} {bytes : List UInt8} {cursor final : Cursor}

theorem Cursor.In.advance {taken : List UInt8} (inside : cursor.In bytes) (parts : cursor.rest = taken ++ final.rest)
    (stop : final.offset = cursor.offset + taken.length) : final.In bytes := by
  obtain ⟨behind, stands⟩ := inside
  refine ⟨behind, ?_⟩
  rw [stop, ← List.drop_drop, ← stands, parts, List.append_assoc, List.drop_left]

theorem Reader.Spans.keeps {reader : Reader α} {size : Nat} {value : α} (spans : reader.Spans size)
    (inside : cursor.In bytes) (accepted : reader cursor = .ok (value, final)) :
    final.In bytes ∧ final.offset = cursor.offset + size := by
  obtain ⟨taken, rfl, parts, stop⟩ := spans _ _ _ accepted
  exact ⟨inside.advance parts stop, stop⟩

theorem Cursor.In.number {width number : Nat} (inside : cursor.In bytes)
    (accepted : Reader.unsigned width cursor = .ok (number, final)) : number = numberAt bytes cursor.offset width := by
  obtain ⟨small, parts, _⟩ := Reader.unsigned_eq_ok accepted
  obtain ⟨behind, stands⟩ := inside
  rw [numberAt, ← stands, parts, List.append_assoc, List.take_left' (length_bigEndianBytes width number),
    bigEndian_bytes small]

/-- What a reader takes for itself stands where the reader stood. -/
theorem Cursor.In.taken {count : Nat} {taken : List UInt8} (inside : cursor.In bytes)
    (accepted : Reader.take count cursor = .ok (taken, final)) : Cursor.In ⟨cursor.offset, taken⟩ bytes := by
  obtain ⟨_, parts, _⟩ := Reader.take_eq_ok_iff.mp accepted
  exact (parts ▸ List.prefix_append taken final.rest : taken <+: cursor.rest).trans inside

end Cursors

namespace Reader

theorem offset_bind_apply {α : Type} (next : Nat → Reader α) (cursor : Cursor) :
    (Reader.offset >>= next) cursor = next cursor.offset cursor := rfl

theorem within_eq_ok_iff {α : Type} {start : Nat} {slice : List UInt8} {inner : Reader α} {cursor final : Cursor}
    {value : α} :
    Reader.within start slice inner cursor = .ok (value, final) ↔
      (∃ left, inner ⟨start, slice⟩ = .ok (value, left)) ∧ final = cursor := by
  cases read : inner ⟨start, slice⟩ with
  | error reason => simp [Reader.within, read]
  | ok outcome =>
      obtain ⟨found, left⟩ := outcome
      simp [Reader.within, read, eq_comm]

/-- On bytes of the file, what the reader accepts satisfies the condition. -/
def Ensures {α : Type} (bytes : List UInt8) (reader : Reader α) (holds : α → Prop) : Prop :=
  ∀ cursor value final, cursor.In bytes → reader cursor = .ok (value, final) → final.In bytes ∧ holds value

namespace Ensures

variable {α β : Type} {bytes : List UInt8} {reader : Reader α} {next : α → Reader β} {middle : α → Prop}
  {holds : β → Prop}

protected theorem pure {value : β} (satisfied : holds value) : Ensures bytes (pure value) holds := by
  intro cursor result final inside accepted
  cases accepted
  exact ⟨inside, satisfied⟩

theorem bind (first : reader.Ensures bytes middle) (second : ∀ value, middle value → (next value).Ensures bytes holds) :
    Ensures bytes (reader >>= next) holds := by
  intro cursor value final inside accepted
  obtain ⟨found, between, early, late⟩ := Reader.bind_eq_ok_iff.mp accepted
  obtain ⟨insideBetween, satisfied⟩ := first _ _ _ inside early
  exact second found satisfied _ _ _ insideBetween late

theorem after {size : Nat} (spans : reader.Spans size) (second : ∀ value, (next value).Ensures bytes holds) :
    Ensures bytes (reader >>= next) holds := by
  intro cursor value final inside accepted
  obtain ⟨found, between, early, late⟩ := Reader.bind_eq_ok_iff.mp accepted
  exact second found _ _ _ (spans.keeps inside early).1 late

theorem resolve {lookup : Nat → Except FormatError α} (second : ∀ value, (next value).Ensures bytes holds) :
    Ensures bytes (Reader.u16 >>= fun index => liftM (lookup index) >>= next) holds :=
  after (.unsigned 2) fun index => after (.lift (lookup index)) second

theorem collect {item : Reader β} (each : item.Ensures bytes holds) (count : Nat) (items : Array β)
    (earlier : ∀ item ∈ items, holds item) :
    Ensures bytes (Reader.collect item count items) fun found => ∀ item ∈ found, holds item := by
  induction count generalizing items with
  | zero => exact .pure earlier
  | succ count ih =>
      refine each.bind fun value satisfied => ih (items.push value) fun item member => ?_
      rcases Array.mem_push.mp member with among | rfl
      · exact earlier item among
      · exact satisfied

theorem times {item : Reader β} (each : item.Ensures bytes holds) (count : Nat) :
    Ensures bytes (Reader.times count item) fun found => ∀ item ∈ found, holds item :=
  (each.collect count #[] (by simp)).bind fun items satisfied => .pure (by simpa using satisfied)

end Ensures

theorem Spans.map {α β : Type} {reader : Reader α} {size : Nat} (spans : reader.Spans size) (change : α → β) :
    Spans (change <$> reader) size := by
  rw [map_eq_pure_bind]
  exact spans.bind fun value => .pure (change value)

theorem Spans.collect {α : Type} {item : Reader α} {size : Nat} (each : item.Spans size) (count : Nat)
    (items : Array α) : Spans (Reader.collect item count items) (size * count) := by
  induction count generalizing items with
  | zero => exact .pure items
  | succ count ih =>
      have both := each.bind fun value => ih (items.push value)
      rwa [Nat.add_comm size, ← Nat.mul_succ] at both

theorem Spans.times {α : Type} {item : Reader α} {size : Nat} (each : item.Spans size) (count : Nat) :
    Spans (Reader.times count item) (size * count) :=
  (each.collect count #[]).bind fun items => .pure items.toList

end Reader

namespace ClassFile

open Reader (Spans Ensures)

section Loop

variable {σ : Type} {bytes : List UInt8} {holder : AttributeHolder} {name : Reader (Option String)}
  {content : Option String → Nat → σ → Reader σ} {keeps : σ → Prop}

/-- The content of an attribute ends where its size says, and keeps what is known of the state. -/
def Sized (bytes : List UInt8) (holder : AttributeHolder) (content : Option String → Nat → σ → Reader σ)
    (keeps : σ → Prop) : Prop :=
  ∀ name length state cursor next final, cursor.In bytes → keeps state →
    content name length state cursor = .ok (next, final) →
      final.In bytes ∧ final.offset = cursor.offset + contentSize bytes holder name length cursor.offset ∧ keeps next

theorem readFrom_of_traceAttribute {state next : σ} {visit : AttributeVisit} {cursor final : Cursor}
    (named : name.Spans 2) (sized : Sized bytes holder content keeps) (inside : cursor.In bytes) (kept : keeps state)
    (accepted : traceAttribute holder name content state cursor = .ok ((next, visit), final)) :
    final.In bytes ∧ visit.start = cursor.offset ∧ visit.next = final.offset ∧ visit.ReadFrom bytes ∧ keeps next := by
  rw [traceAttribute, Reader.offset_bind_apply] at accepted
  obtain ⟨found, behindName, nameRead, rest⟩ := Reader.bind_eq_ok_iff.mp accepted
  obtain ⟨length, behindLength, lengthRead, rest⟩ := Reader.bind_eq_ok_iff.mp rest
  obtain ⟨later, behindContent, contentRead, rest⟩ := Reader.bind_eq_ok_iff.mp rest
  cases rest
  obtain ⟨insideName, nameEnd⟩ := named.keeps inside nameRead
  obtain ⟨insideLength, lengthEnd⟩ := (Spans.unsigned 4).keeps insideName lengthRead
  obtain ⟨insideContent, contentEnd, laterKept⟩ := sized _ _ _ _ _ _ insideLength kept contentRead
  have header : behindLength.offset = cursor.offset + 6 := by omega
  refine ⟨insideContent, rfl, rfl, ⟨?_, ?_⟩, laterKept⟩
  · rw [insideName.number lengthRead, nameEnd]
  · rw [contentEnd, header]

theorem readFrom_of_traceAttributes {count : Nat} {state next : σ} {visits : List AttributeVisit}
    {cursor final : Cursor} (named : name.Spans 2) (sized : Sized bytes holder content keeps)
    (inside : cursor.In bytes) (kept : keeps state)
    (accepted : traceAttributes (traceAttribute holder name content) count state cursor =
      .ok ((next, visits), final)) :
    final.In bytes ∧ visits.length = count ∧ AttributeVisit.Chained cursor.offset visits ∧
      (∀ visit ∈ visits, visit.ReadFrom bytes) ∧ keeps next := by
  induction count generalizing state visits cursor with
  | zero =>
      cases accepted
      exact ⟨inside, rfl, trivial, by simp, kept⟩
  | succ count ih =>
      obtain ⟨⟨middle, first⟩, behindFirst, firstRead, rest⟩ := Reader.bind_eq_ok_iff.mp accepted
      obtain ⟨⟨last, others⟩, behindOthers, othersRead, rest⟩ := Reader.bind_eq_ok_iff.mp rest
      cases rest
      obtain ⟨insideFirst, started, stopped, firstFrom, middleKept⟩ :=
        readFrom_of_traceAttribute named sized inside kept firstRead
      obtain ⟨insideOthers, length, chained, othersFrom, lastKept⟩ := ih insideFirst middleKept othersRead
      rw [← stopped] at chained
      exact ⟨insideOthers, congrArg Nat.succ length, ⟨started, chained⟩,
        List.forall_mem_cons.mpr ⟨firstFrom, othersFrom⟩, lastKept⟩

theorem ensures_traceTable {state : σ} (named : name.Spans 2) (sized : Sized bytes holder content keeps)
    (kept : keeps state) :
    Ensures bytes (traceTable (traceAttribute holder name content) state)
      fun found => keeps found.1 ∧ found.2.ReadFrom bytes := by
  intro cursor found final inside accepted
  rw [traceTable, Reader.offset_bind_apply] at accepted
  obtain ⟨count, behindCount, countRead, rest⟩ := Reader.bind_eq_ok_iff.mp accepted
  obtain ⟨⟨next, visits⟩, behindVisits, visitsRead, rest⟩ := Reader.bind_eq_ok_iff.mp rest
  cases rest
  obtain ⟨insideCount, countEnd⟩ := (Spans.unsigned 2).keeps inside countRead
  obtain ⟨insideVisits, length, chained, each, nextKept⟩ :=
    readFrom_of_traceAttributes named sized insideCount kept visitsRead
  rw [countEnd] at chained
  exact ⟨insideVisits, nextKept, length.trans (inside.number countRead), chained, each⟩

end Loop

variable {bytes : List UInt8} (pool : ConstantPool)

theorem spans_readNoName : Spans readNoName 2 :=
  (Spans.skip 2).bind fun _ => .pure none

theorem spans_readName : Spans (readName pool) 2 :=
  (Spans.unsigned 2).bind fun index => (Spans.lift (pool.text index)).bind fun name => .pure (some name)

theorem spans_readLocal : Spans (readLocal pool) 10 := by
  have parts : Spans (readLocal pool) (2 + (2 + (2 + (0 + (2 + (0 + (2 + 0))))))) := by
    refine (Spans.skip 2).bind fun _ => (Spans.skip 2).bind fun _ => ?_
    refine (Spans.unsigned 2).bind fun index => (Spans.lift _).bind fun name => ?_
    refine (Spans.unsigned 2).bind fun index => (Spans.lift _).bind fun descriptor => ?_
    exact (Spans.skip 2).bind fun _ => .pure _
  exact parts

theorem ensures_traceSkipped {holder : AttributeHolder} (outside : holder ≠ .code) :
    Ensures bytes (traceTable (traceSkipped holder) ()) fun found => found.2.ReadFrom bytes := by
  have sized : Sized bytes holder (fun _ length (_ : Unit) => Reader.skip length) fun _ => True := by
    intro name length state cursor next final inside _ accepted
    obtain ⟨insideNext, stop⟩ := (Spans.skip length).keeps inside accepted
    exact ⟨insideNext, by simp [contentSize, outside, stop], trivial⟩
  intro cursor found final inside accepted
  obtain ⟨insideNext, _, readFrom⟩ := ensures_traceTable spans_readNoName sized trivial _ _ _ inside accepted
  exact ⟨insideNext, readFrom⟩

theorem ensures_traceField : Ensures bytes (traceField pool) fun found => found.2.ReadFrom bytes := by
  refine .after (.skip 2) fun _ => .resolve fun name => .resolve fun descriptor => ?_
  exact (ensures_traceSkipped (by decide)).bind fun skipped readFrom => .pure readFrom

theorem sized_readCodeContent : Sized bytes .code (readCodeContent pool) fun _ => True := by
  intro name length method cursor next final inside _ accepted
  unfold readCodeContent at accepted
  split at accepted
  · rename_i isTable
    obtain ⟨count, behindCount, countRead, rest⟩ := Reader.bind_eq_ok_iff.mp accepted
    obtain ⟨locals, behindLocals, localsRead, rest⟩ := Reader.bind_eq_ok_iff.mp rest
    cases rest
    obtain ⟨insideCount, countEnd⟩ := (Spans.unsigned 2).keeps inside countRead
    obtain ⟨insideLocals, localsEnd⟩ := ((spans_readLocal pool).times count).keeps insideCount localsRead
    have entries := inside.number countRead
    refine ⟨insideLocals, ?_, trivial⟩
    rw [contentSize, if_pos ⟨rfl, isTable⟩]
    omega
  · rename_i isOther
    obtain ⟨_, behindContent, skipped, rest⟩ := Reader.bind_eq_ok_iff.mp accepted
    cases rest
    obtain ⟨insideContent, stop⟩ := (Spans.skip length).keeps inside skipped
    exact ⟨insideContent, by simp [contentSize, isOther, stop], trivial⟩

theorem ensures_traceCode (method : Method) :
    Ensures bytes (traceCode pool method) fun found => found.2.ReadFrom bytes := by
  refine .after (.skip 2) fun _ => .after (.skip 2) fun _ => .after (.unsigned 4) fun length => ?_
  refine .after (.take length) fun code => .after (.lift (Code.decode pool code)) fun instructions => ?_
  refine .after (.unsigned 2) fun handlers => .after (.skip (handlers * 8)) fun _ => ?_
  intro cursor found final inside accepted
  obtain ⟨insideNext, _, readFrom⟩ :=
    ensures_traceTable (spans_readName pool) (sized_readCodeContent pool) trivial _ _ _ inside accepted
  exact ⟨insideNext, readFrom⟩

theorem sized_traceMethodContent :
    Sized bytes .method (traceMethodContent pool) fun state => ∀ table ∈ state.2, table.ReadFrom bytes := by
  intro name length state cursor next final inside kept accepted
  rw [traceMethodContent, Reader.offset_bind_apply] at accepted
  obtain ⟨body, behindBody, bodyRead, rest⟩ := Reader.bind_eq_ok_iff.mp accepted
  obtain ⟨insideBody, bodyEnd⟩ := (Spans.take length).keeps inside bodyRead
  have size : contentSize bytes .method name length cursor.offset = length := by simp [contentSize]
  split at rest
  · obtain ⟨found, behindCode, codeRead, rest⟩ := Reader.bind_eq_ok_iff.mp rest
    cases rest
    -- The code is read on bytes of its own, which stand in the file where the content does.
    obtain ⟨⟨left, read⟩, rfl⟩ := Reader.within_eq_ok_iff.mp codeRead
    obtain ⟨_, readFrom⟩ := ensures_traceCode pool state.1 _ _ _ (inside.taken bodyRead) read
    refine ⟨insideBody, by rw [size, bodyEnd], fun table member => ?_⟩
    rcases List.mem_append.mp member with among | last
    · exact kept table among
    · rwa [List.mem_singleton.mp last]
  · cases rest
    exact ⟨insideBody, by rw [size, bodyEnd], kept⟩

theorem ensures_traceMethod :
    Ensures bytes (traceMethod pool) fun found => ∀ table ∈ found.2, table.ReadFrom bytes := by
  refine .after (.skip 2) fun _ => .resolve fun name => .resolve fun descriptor => ?_
  refine (ensures_traceTable (spans_readName pool) (sized_traceMethodContent pool) (by simp)).bind ?_
  rintro ⟨⟨method, codes⟩, own⟩ ⟨nested, readFrom⟩
  exact .pure (List.forall_mem_cons.mpr ⟨readFrom, nested⟩)

structure TracedFrom (bytes : List UInt8) (classFile : ClassFile) (tables : ClassTables) : Prop where
  fields : tables.fields.length = classFile.fields.length
  methods : tables.methods.length = classFile.methods.length
  each : ∀ table ∈ tables.all, table.ReadFrom bytes

theorem ensures_traceBody : Ensures bytes (traceBody pool) fun found => TracedFrom bytes found.1 found.2 := by
  refine .after (.unsigned 2) fun flags => .resolve fun name => .after (.unsigned 2) fun parent => ?_
  extract_lets afterParent
  have rest (superclass : Option String) :
      Ensures bytes (afterParent superclass) fun found => TracedFrom bytes found.1 found.2 := by
    refine .after (.unsigned 2) fun interfaces => .after (.skip (interfaces * 2)) fun _ => ?_
    refine .after (.unsigned 2) fun fieldCount => ((ensures_traceField pool).times fieldCount).bind ?_
    intro fields fieldsFrom
    refine .after (.unsigned 2) fun methodCount => ((ensures_traceMethod pool).times methodCount).bind ?_
    intro methods methodsFrom
    refine (ensures_traceSkipped (by decide)).bind fun skipped skippedFrom => .pure ?_
    refine ⟨by simp, by simp, fun table member => ?_⟩
    simp only [ClassTables.all, List.mem_append, List.mem_map, List.mem_flatten, List.mem_singleton] at member
    rcases member with (⟨field, among, rfl⟩ | ⟨_, ⟨method, among, rfl⟩, nested⟩) | rfl
    · exact fieldsFrom field among
    · exact methodsFrom method among table nested
    · exact skippedFrom
  split
  · exact .after (.pure none) rest
  · exact .after ((Spans.lift _).map some) rest

theorem tracedFrom_of_traceRead {cursor final : Cursor} {found : ClassFile × ClassTables} (inside : cursor.In bytes)
    (accepted : traceRead cursor = .ok (found, final)) : TracedFrom bytes found.1 found.2 := by
  obtain ⟨_, behindHeader, headerRead, rest⟩ := Reader.bind_eq_ok_iff.mp accepted
  obtain ⟨pool, behindPool, poolRead, bodyRead⟩ := Reader.bind_eq_ok_iff.mp rest
  obtain ⟨insideHeader, _⟩ := spans_readHeader.keeps inside headerRead
  obtain ⟨taken, left, parts, rfl, _⟩ := ConstantPool.steady_read.accepts poolRead
  have insidePool : Cursor.In ⟨behindHeader.offset + taken.length, left⟩ bytes := insideHeader.advance parts.symm rfl
  exact (ensures_traceBody pool _ _ _ insidePool bodyRead).2

/-- Every attribute is read from where the one before it ended. Reading goes on at the end of the length that it
states, for all of them, exactly when each table of locals states the size of its entries. -/
theorem attributes_framed_iff_tables_sized {classFile : ClassFile} (decoded : decode bytes = .ok classFile) :
    ∃ tables, trace bytes = .ok (classFile, tables) ∧ TracedFrom bytes classFile tables ∧
      ((∀ visit ∈ tables.visits, visit.next = visit.start + 6 + visit.length) ↔
        ∀ visit ∈ tables.visits, visit.holder = .code → visit.name = some "LocalVariableTable" →
          visit.length = 2 + 10 * numberAt bytes (visit.start + 6) 2) := by
  obtain ⟨final, accepted⟩ := decode_eq_ok_iff.mp decoded
  rw [← map_traceRead, map_eq_pure_bind] at accepted
  obtain ⟨⟨found, tables⟩, behind, traced, done⟩ := Reader.bind_eq_ok_iff.mp accepted
  cases done
  have whole : Cursor.In ⟨0, bytes⟩ bytes := List.prefix_rfl
  have readFrom := tracedFrom_of_traceRead whole traced
  refine ⟨tables, by rw [trace, traced]; rfl, readFrom, ?_⟩
  have ends (visit : AttributeVisit) (member : visit ∈ tables.visits) : visit.next =
      visit.start + 6 + contentSize bytes visit.holder visit.name visit.length (visit.start + 6) := by
    obtain ⟨table, among, visited⟩ := List.mem_flatMap.mp member
    exact ((readFrom.each table among).each visit visited).next
  constructor
  · intro framed visit member held named
    have stated := framed visit member
    rw [ends visit member, contentSize, if_pos ⟨held, named⟩] at stated
    omega
  · intro sized visit member
    rw [ends visit member, contentSize]
    split
    · rename_i isTable
      rw [sized visit member isTable.1 isTable.2]
    · rfl

/-- Two tables of locals, of which the first states ten bytes more than its one entry takes. -/
def overstatedClass : List UInt8 :=
  [0xCA, 0xFE, 0xBA, 0xBE, 0, 0, 0, 52, 0, 10, 1, 0, 1, 0x41, 7, 0, 1, 1, 0, 4, 0x43, 0x6F, 0x64, 0x65,
    1, 0, 18, 0x4C, 0x6F, 0x63, 0x61, 0x6C, 0x56, 0x61, 0x72, 0x69, 0x61, 0x62, 0x6C, 0x65,
    0x54, 0x61, 0x62, 0x6C, 0x65,
    1, 0, 1, 0x49, 1, 0, 1, 0x78, 1, 0, 1, 0x79, 1, 0, 1, 0x6D, 1, 0, 3, 0x28, 0x29, 0x56,
    0, 0x21, 0, 2, 0, 0, 0, 0, 0, 0, 0, 1, 0, 0, 0, 8, 0, 9, 0, 1,
    0, 3, 0, 0, 0, 59, 0, 0, 0, 1, 0, 0, 0, 1, 0xB1, 0, 0, 0, 2,
    0, 4, 0, 0, 0, 22, 0, 1, 0, 0, 0, 1, 0, 6, 0, 5, 0, 0, 0, 1, 0, 0, 0, 4, 0, 0, 0, 0,
    0, 4, 0, 0, 0, 12, 0, 1, 0, 0, 0, 1, 0, 7, 0, 5, 0, 0, 0, 0]

theorem overstatedClass_framed_iff_tables_sized :
    ∃ tables, trace overstatedClass =
        .ok (⟨"A", none, 0x21, [], [⟨"m", "()V", [.other 0xB1], [⟨"x", "I"⟩]⟩]⟩, tables) ∧
      TracedFrom overstatedClass ⟨"A", none, 0x21, [], [⟨"m", "()V", [.other 0xB1], [⟨"x", "I"⟩]⟩]⟩ tables ∧
      ((∀ visit ∈ tables.visits, visit.next = visit.start + 6 + visit.length) ↔
        ∀ visit ∈ tables.visits, visit.holder = .code → visit.name = some "LocalVariableTable" →
          visit.length = 2 + 10 * numberAt overstatedClass (visit.start + 6) 2) := by
  have decoded : decode overstatedClass =
      .ok ⟨"A", none, 0x21, [], [⟨"m", "()V", [.other 0xB1], [⟨"x", "I"⟩]⟩]⟩ := by decide +kernel
  exact attributes_framed_iff_tables_sized decoded

/-- Reading goes on in the middle of the first table, and what stands there is taken for the second attribute. -/
def overstatedTables : ClassTables where
  fields := []
  methods := [[⟨85, [⟨.method, some "Code", 87, 59, 152⟩]⟩,
    ⟨104, [⟨.code, some "LocalVariableTable", 106, 22, 124⟩, ⟨.code, some "A", 124, 4, 134⟩]⟩]]
  own := ⟨152, []⟩

theorem overstated_table_not_framed :
    trace overstatedClass =
        .ok (⟨"A", none, 0x21, [], [⟨"m", "()V", [.other 0xB1], [⟨"x", "I"⟩]⟩]⟩, overstatedTables) ∧
      ¬ ∀ visit ∈ overstatedTables.visits, visit.next = visit.start + 6 + visit.length := by
  decide +kernel

end ClassFile

end ClassMetrics
