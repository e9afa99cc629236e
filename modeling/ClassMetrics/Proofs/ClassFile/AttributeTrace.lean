import ClassMetrics.Proofs.ClassFile.Simulation

namespace ClassMetrics

/-!
Reading a class and noting its attributes. The readers below read what the readers of the format read and note, for
every attribute, where it starts, which length it states and where reading goes on behind it. Without the notes they
are the readers of the format: `ClassFile.map_traceRead`.
-/

inductive AttributeHolder where
  | classFile
  | field
  | method
  | code
deriving Repr, DecidableEq

structure AttributeVisit where
  holder : AttributeHolder
  /-- The name, where it is looked up. -/
  name : Option String
  start : Nat
  length : Nat
  next : Nat
deriving Repr, DecidableEq

/-- Attributes that stand one after another behind their number, which stands at `start`. -/
structure AttributeTable where
  start : Nat
  visits : List AttributeVisit
deriving Repr, DecidableEq

structure ClassTables where
  fields : List AttributeTable
  /-- Of each method, its own attributes and then those of each of its codes. -/
  methods : List (List AttributeTable)
  own : AttributeTable
deriving Repr, DecidableEq

def ClassTables.all (tables : ClassTables) : List AttributeTable :=
  tables.fields ++ tables.methods.flatten ++ [tables.own]

def ClassTables.visits (tables : ClassTables) : List AttributeVisit :=
  tables.all.flatMap (·.visits)

namespace ClassFile

section Tracing

variable {σ : Type}

/-- One attribute, whose content may change a state. -/
def traceAttribute (holder : AttributeHolder) (name : Reader (Option String))
    (content : Option String → Nat → σ → Reader σ) (state : σ) : Reader (σ × AttributeVisit) := do
  let start ← Reader.offset
  let name ← name
  let length ← Reader.u32
  let state ← content name length state
  let next ← Reader.offset
  return (state, { holder, name, start, length, next })

def traceAttributes (one : σ → Reader (σ × AttributeVisit)) : Nat → σ → Reader (σ × List AttributeVisit)
  | 0, state => pure (state, [])
  | count + 1, state => do
      let first ← one state
      let others ← traceAttributes one count first.1
      return (others.1, first.2 :: others.2)

def traceTable (one : σ → Reader (σ × AttributeVisit)) (state : σ) : Reader (σ × AttributeTable) := do
  let start ← Reader.offset
  let found ← traceAttributes one (← Reader.u16) state
  return (found.1, { start, visits := found.2 })

end Tracing

def readNoName : Reader (Option String) := do
  Reader.skip 2
  return none

def readName (pool : ConstantPool) : Reader (Option String) := do
  return some (← pool.text (← Reader.u16))

def traceSkipped (holder : AttributeHolder) : Unit → Reader (Unit × AttributeVisit) :=
  traceAttribute holder readNoName fun _ length _ => Reader.skip length

def traceField (pool : ConstantPool) : Reader (TypedName × AttributeTable) := do
  Reader.skip 2
  let name ← pool.text (← Reader.u16)
  let descriptor ← pool.text (← Reader.u16)
  let skipped ← traceTable (traceSkipped .field) ()
  return ({ name, descriptor }, skipped.2)

def readCodeContent (pool : ConstantPool) (name : Option String) (length : Nat) (method : Method) : Reader Method := do
  if name = some "LocalVariableTable" then
    let locals ← Reader.times (← Reader.u16) (readLocal pool)
    return { method with locals := method.locals ++ locals }
  else
    Reader.skip length
    return method

def traceCode (pool : ConstantPool) (method : Method) : Reader (Method × AttributeTable) := do
  Reader.skip 2
  Reader.skip 2
  let code ← Reader.take (← Reader.u32)
  let instructions ← Code.decode pool code
  Reader.skip ((← Reader.u16) * 8)
  traceTable (traceAttribute .code (readName pool) (readCodeContent pool)) { method with instructions }

/-- The state is the method so far and the tables of its codes. -/
def traceMethodContent (pool : ConstantPool) (name : Option String) (length : Nat)
    (state : Method × List AttributeTable) : Reader (Method × List AttributeTable) := do
  let start ← Reader.offset
  let body ← Reader.take length
  if name = some "Code" then
    let found ← Reader.within start body (traceCode pool state.1)
    return (found.1, state.2 ++ [found.2])
  else
    return state

def traceMethod (pool : ConstantPool) : Reader (Method × List AttributeTable) := do
  Reader.skip 2
  let name ← pool.text (← Reader.u16)
  let descriptor ← pool.text (← Reader.u16)
  let found ← traceTable (traceAttribute .method (readName pool) (traceMethodContent pool))
    ({ name, descriptor, instructions := [], locals := [] }, [])
  return (found.1.1, found.2 :: found.1.2)

def traceBody (pool : ConstantPool) : Reader (ClassFile × ClassTables) := do
  let accessFlags ← Reader.u16
  let name ← pool.className (← Reader.u16)
  let parent ← Reader.u16
  let superclass ← if parent = 0 then pure none else some <$> pool.className parent
  Reader.skip ((← Reader.u16) * 2)
  let fields ← Reader.times (← Reader.u16) (traceField pool)
  let methods ← Reader.times (← Reader.u16) (traceMethod pool)
  let skipped ← traceTable (traceSkipped .classFile) ()
  return ({
      name
      superclass
      accessFlags := UInt16.ofNat accessFlags
      fields := fields.map (·.1)
      methods := methods.map (·.1) }, {
      fields := fields.map (·.2)
      methods := methods.map (·.2)
      own := skipped.2 })

def traceRead : Reader (ClassFile × ClassTables) := do
  readHeader
  traceBody (← ConstantPool.read)

/-- The class that the bytes store, and its attributes as they were met. -/
def trace (bytes : List UInt8) : Except FormatError (ClassFile × ClassTables) :=
  (traceRead ⟨0, bytes⟩).map (·.1)

section Erasure

variable {α β σ τ : Type}

/-- Where the bytes stand does not matter to a reader that does not ask. -/
theorem offset_bind (reader : Reader α) : (Reader.offset >>= fun _ => reader) = reader := rfl

theorem collect_map (item : Reader α) (change : α → β) (count : Nat) (items : Array α) :
    Array.map change <$> Reader.collect item count items =
      Reader.collect (change <$> item) count (items.map change) := by
  induction count generalizing items with
  | zero => simp [Reader.collect]
  | succ count ih =>
      simp only [Reader.collect, map_bind, bind_map_left, ih, Array.map_push]

theorem times_map (item : Reader α) (change : α → β) (count : Nat) :
    List.map change <$> Reader.times count item = Reader.times count (change <$> item) := by
  have mapped := collect_map item change count #[]
  rw [Array.map_empty] at mapped
  simp only [Reader.times, ← mapped, map_bind, map_pure, bind_map_left, Array.toList_map]

theorem map_traceAttribute (holder : AttributeHolder) (name : Reader (Option String))
    (content : Option String → Nat → σ → Reader σ) (state : σ) :
    Prod.fst <$> traceAttribute holder name content state =
      (do content (← name) (← Reader.u32) state) := by
  simp only [traceAttribute, map_bind, map_pure, offset_bind, bind_pure]

/-- A loop over attributes is the traced loop, if each of its rounds is one traced attribute. -/
theorem map_traceTable {one : σ → Reader (σ × AttributeVisit)} (view : σ → τ) (loop : Nat → τ → Reader τ)
    (done : ∀ state, loop 0 state = pure state)
    (round : ∀ count state, loop (count + 1) (view state) =
      (Prod.fst <$> one state) >>= fun next => loop count (view next)) (state : σ) :
    (fun found => view found.1) <$> traceTable one state = Reader.u16 >>= fun count => loop count (view state) := by
  have loops (count : Nat) (state : σ) :
      (fun found => view found.1) <$> traceAttributes one count state = loop count (view state) := by
    induction count generalizing state with
    | zero => simp only [traceAttributes, map_pure, done]
    | succ count ih =>
        simp only [traceAttributes, round, map_bind, bind_map_left, ← ih, bind_pure_comp, Functor.map_map]
  simp only [traceTable, map_bind, offset_bind, ← loops, bind_pure_comp, Functor.map_map]

theorem map_traceSkipped (holder : AttributeHolder) :
    (fun _ => ()) <$> traceTable (traceSkipped holder) () = Reader.u16 >>= skipAttributes := by
  refine map_traceTable (fun _ => ()) (fun count _ => skipAttributes count) (fun _ => rfl) (fun count state => ?_) ()
  simp only [traceSkipped, map_traceAttribute, readNoName, skipAttributes, bind_assoc, pure_bind]

/-- What follows a table that is read over gets nothing from it. -/
theorem traceSkipped_bind (holder : AttributeHolder) (reader : Reader α) :
    (traceTable (traceSkipped holder) () >>= fun _ => reader) =
      Reader.u16 >>= fun count => skipAttributes count >>= fun _ => reader := by
  rw [← bind_assoc, ← map_traceSkipped holder, bind_map_left]

theorem map_traceField (pool : ConstantPool) : Prod.fst <$> traceField pool = readField pool := by
  simp only [traceField, readField, map_bind, map_pure, traceSkipped_bind]

theorem map_traceCode (pool : ConstantPool) (method : Method) :
    Prod.fst <$> traceCode pool method = readCode pool method := by
  have attributes (method : Method) :
      Prod.fst <$> traceTable (traceAttribute .code (readName pool) (readCodeContent pool)) method =
        Reader.u16 >>= fun count => readCodeAttributes pool count method := by
    refine map_traceTable id (readCodeAttributes pool) (fun _ => rfl) (fun count state => ?_) method
    simp only [map_traceAttribute, readName, readCodeAttributes, readCodeContent, bind_assoc, pure_bind, id,
      Option.some.injEq]
    refine bind_congr fun index => bind_congr fun name => bind_congr fun length => ?_
    split <;> simp only [bind_assoc, pure_bind]
  simp only [traceCode, readCode, map_bind, attributes]

theorem within_map (start : Nat) (bytes : List UInt8) (inner : Reader α) (change : α → β) :
    change <$> Reader.within start bytes inner = Reader.within start bytes (change <$> inner) := by
  funext cursor
  change Except.bind _ _ = _
  cases read : inner ⟨start, bytes⟩ with
  | error reason => simp [Reader.within, read, Functor.map, StateT.map, bind, Except.bind]
  | ok outcome => simp [Reader.within, read, Functor.map, StateT.map, bind, Except.bind, pure, Except.pure]

theorem map_traceMethod (pool : ConstantPool) : Prod.fst <$> traceMethod pool = readMethod pool := by
  have attributes (state : Method × List AttributeTable) :
      (fun found => found.1.1) <$> traceTable (traceAttribute .method (readName pool) (traceMethodContent pool)) state =
        Reader.u16 >>= fun count => readMethodAttributes pool count state.1 := by
    refine map_traceTable Prod.fst (readMethodAttributes pool) (fun _ => rfl) (fun count state => ?_) state
    simp only [map_traceAttribute, readName, readMethodAttributes, traceMethodContent, bind_assoc, pure_bind,
      Option.some.injEq]
    refine bind_congr fun index => bind_congr fun name => bind_congr fun length => ?_
    refine bind_congr fun start => bind_congr fun body => ?_
    split
    · simp only [bind_assoc, pure_bind, ← map_traceCode, ← within_map, bind_map_left]
    · simp only [pure_bind]
  simp only [traceMethod, readMethod, map_bind, bind_pure_comp, Functor.map_map, attributes]

theorem map_traceBody (pool : ConstantPool) : Prod.fst <$> traceBody pool = readBody pool := by
  simp only [traceBody, readBody, map_bind, ← map_traceField, ← map_traceMethod, ← times_map, bind_map_left]
  refine bind_congr fun flags => bind_congr fun index => bind_congr fun name => bind_congr fun parent => ?_
  split <;> simp only [map_bind, map_pure, traceSkipped_bind]

theorem map_traceRead : Prod.fst <$> traceRead = read := by
  simp only [traceRead, read_eq, map_bind, map_traceBody]

end Erasure

end ClassFile

end ClassMetrics
