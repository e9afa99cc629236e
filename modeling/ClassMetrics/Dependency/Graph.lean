import ClassMetrics.Data.ArcTable
import ClassMetrics.Data.NameTable

namespace ClassMetrics

/-!
The dependency graph: names, and at most one arc from one name to another name. Names and arcs keep
their slots, which fix the order of `vertices` and `arcs`; the arcs at a name are listed by age, which fixes the
order of neighbours.
-/

structure Arc where
  source : String
  target : String
deriving Repr, DecidableEq

def Arc.label (arc : Arc) : String := s!"{arc.source} -> {arc.target}"

/-- Whether an arc may stand before another: by source, then by target. -/
def Arc.precedes (first second : Arc) : Bool :=
  first.source < second.source || (first.source == second.source && first.target ≤ second.target)

def Arc.get (arc : Arc) : End → String
  | .source => arc.source
  | .target => arc.target

/-- Whether an arc starts or ends at a name. -/
def Arc.touches (arc : Arc) (name : String) : Bool :=
  arc.source == name || arc.target == name

structure DependencyGraph where
  nameTable : NameTable
  arcTable : ArcTable
  headed : arcTable.vertexCount = nameTable.size
deriving Repr, DecidableEq

namespace DependencyGraph

def empty : DependencyGraph := ⟨.empty, .empty, rfl⟩

section Questions

variable (graph : DependencyGraph)

/-- The slot of a name. -/
abbrev slot? (name : String) : Option Nat := graph.nameTable.slot? name

def contains (name : String) : Bool := (graph.slot? name).isSome

def nameOf (slot : Nat) : String := (graph.nameTable.name? slot).getD ""

/-- An arc by the names of its ends. -/
def named (ends : Ends Nat) : Arc := ⟨graph.nameOf ends.source, graph.nameOf ends.target⟩

def vertices : List String := graph.nameTable.names

def arcs : List Arc := graph.arcTable.slots.values.map graph.named

/-- Goes through the arcs from one slot, looking for one to the other. -/
def joins (source target : Nat) : Bool :=
  (graph.arcTable.arcsAt .source source).any fun arc => (graph.arcTable.ends? arc).any (·.target == target)

def hasArc (arc : Arc) : Bool :=
  match graph.slot? arc.source, graph.slot? arc.target with
  | some source, some target => graph.joins source target
  | _, _ => false

def vertexCount : Nat := graph.vertices.length

def arcCount : Nat := graph.arcs.length

def isEmpty : Bool := graph.vertices.isEmpty

/-- The names across the arcs that have a name at this end, newest arc first. -/
def neighbours (side : End) (name : String) : List String :=
  match graph.slot? name with
  | none => []
  | some slot =>
      (graph.arcTable.arcsAt side slot).filterMap fun arc =>
        (graph.arcTable.ends? arc).map fun ends => (graph.named ends).get side.other

/-- Targets of the arcs from a name, newest arc first. -/
def successors (name : String) : List String := graph.neighbours .source name

/-- Sources of the arcs to a name, newest arc first. -/
def predecessors (name : String) : List String := graph.neighbours .target name

def outDegree (name : String) : Nat := (graph.successors name).length

def inDegree (name : String) : Nat := (graph.predecessors name).length

/-- Whether `connect` would add an arc. -/
def accepts (source target : String) : Bool :=
  source != target && !graph.hasArc ⟨source, target⟩

end Questions

def addVertex (graph : DependencyGraph) (name : String) (fresh : graph.slot? name = none) : DependencyGraph where
  nameTable := graph.nameTable.add name fresh
  arcTable := graph.arcTable.cover graph.nameTable.slots.next
  headed := by
    have place : graph.nameTable.slots.next ≤ graph.nameTable.size := graph.nameTable.slots.next_le
    rw [ArcTable.vertexCount_cover, NameTable.size_add, graph.headed]
    split <;> omega

/-- The slot of a name, and the graph in which the name is a vertex. -/
def enter (graph : DependencyGraph) (name : String) : Nat × DependencyGraph :=
  match found : graph.slot? name with
  | some slot => (slot, graph)
  | none => (graph.nameTable.slots.next, graph.addVertex name found)

/-- The graph in which `name` is a vertex. -/
def ensure (graph : DependencyGraph) (name : String) : DependencyGraph := (graph.enter name).2

theorem enter_lt (graph : DependencyGraph) (name : String) :
    (graph.enter name).1 < (graph.enter name).2.nameTable.size := by
  unfold enter
  split
  · rename_i slot found
    exact NameTable.slot_lt_size found
  · simp only [addVertex, NameTable.size_add]
    omega

theorem size_le_enter (graph : DependencyGraph) (name : String) :
    graph.nameTable.size ≤ (graph.enter name).2.nameTable.size := by
  unfold enter
  split
  · exact Nat.le_refl _
  · simp only [addVertex, NameTable.size_add]
    omega

def addArc (graph : DependencyGraph) (ends : Ends Nat) (inside : ∀ side, ends.get side < graph.nameTable.size) :
    DependencyGraph where
  nameTable := graph.nameTable
  arcTable := graph.arcTable.add ends (graph.headed ▸ inside)
  headed := by rw [ArcTable.vertexCount_add, graph.headed]

/-- Adds an arc and its ends. An arc from a name to itself adds the name alone, and an arc that is there
is not added again. -/
def connect (graph : DependencyGraph) (source target : String) : DependencyGraph :=
  let first := graph.enter source
  if source = target then first.2
  else
    let second := first.2.enter target
    if second.2.joins first.1 second.1 then second.2
    else
      second.2.addArc ⟨first.1, second.1⟩ fun side =>
        match side with
        | .source => Nat.lt_of_lt_of_le (graph.enter_lt source) (first.2.size_le_enter target)
        | .target => first.2.enter_lt target

def removeVertex (graph : DependencyGraph) (name : String) (slot : Nat) (found : graph.slot? name = some slot) :
    DependencyGraph where
  nameTable := graph.nameTable.remove name slot found
  arcTable := graph.arcTable.clear slot
  headed := by rw [ArcTable.vertexCount_clear, NameTable.size_remove, graph.headed]

/-- Removes a name with its arcs. -/
def remove (graph : DependencyGraph) (name : String) : DependencyGraph :=
  match found : graph.slot? name with
  | none => graph
  | some slot => graph.removeVertex name slot found

theorem contains_iff {graph : DependencyGraph} {name : String} : graph.contains name = true ↔ name ∈ graph.vertices :=
  NameTable.mem_names.symm

theorem vertices_remove (graph : DependencyGraph) (name : String) :
    (graph.remove name).vertices = graph.vertices.filter (· ≠ name) := by
  unfold remove
  split
  · rename_i absent
    refine (List.filter_eq_self.mpr fun held member => ?_).symm
    have present : (graph.slot? held).isSome := NameTable.mem_names.mp member
    have other : held ≠ name := by
      intro same
      rw [same, absent] at present
      cases present
    simpa using other
  · rename_i slot found
    exact NameTable.names_remove found

def ofArcs (pairs : List (String × String)) : DependencyGraph :=
  pairs.foldl (fun graph pair => graph.connect pair.1 pair.2) empty

end DependencyGraph

end ClassMetrics
