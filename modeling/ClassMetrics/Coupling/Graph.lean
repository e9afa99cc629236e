import ClassMetrics.Data.Adjacency
import ClassMetrics.Data.Lists

namespace ClassMetrics

/-!
The coupling graph: class keys in the order of their first mention, and every occurrence of a relation
between two classes as an edge of its own, in the order of occurrence. Classes and edges have numbers. A
question about a class looks its number up and follows the edges that are listed there; a question about the
whole graph goes through all edges.
-/

inductive RelationKind where
  | superclass
  | instanceVariable
  | callsMethod
  | localVariable
  | parameterType
  | accessPublicVariable
deriving Repr, DecidableEq

namespace RelationKind

def all : List RelationKind :=
  [.superclass, .instanceVariable, .callsMethod, .localVariable, .parameterType, .accessPublicVariable]

def name : RelationKind → String
  | .superclass => "SUPERCLASS"
  | .instanceVariable => "INSTANCE_VARIABLE"
  | .callsMethod => "CALLS_METHOD"
  | .localVariable => "LOCAL_VARIABLE"
  | .parameterType => "PARAMETER_TYPE"
  | .accessPublicVariable => "ACCESS_PUBLIC_VARIABLE"

/-- The colour of an edge of this kind in a drawing. -/
def colour : RelationKind → String
  | .superclass => "violet"
  | .instanceVariable => "chocolate"
  | .callsMethod => "blue"
  | .localVariable => "orange"
  | .parameterType => "green"
  | .accessPublicVariable => "red"

def ofName? (name : String) : Option RelationKind :=
  all.find? fun kind => kind.name == name

end RelationKind

structure Relation where
  source : String
  target : String
  kind : RelationKind
deriving Repr, DecidableEq

/-- An edge by the numbers of its ends. -/
structure NumberedEdge where
  ends : Ends Nat
  kind : RelationKind
deriving Repr, DecidableEq

/-- The edges that have a vertex at one end, the newest first. -/
def incident (arcs : Array NumberedEdge) (side : End) (vertex : Nat) : List Nat :=
  (List.range arcs.size).reverse.filter fun edge => arcs[edge]?.any (·.ends.get side == vertex)

theorem incident_push (arcs : Array NumberedEdge) (arc : NumberedEdge) (side : End) (vertex : Nat) :
    incident (arcs.push arc) side vertex =
      if arc.ends.get side = vertex then arcs.size :: incident arcs side vertex else incident arcs side vertex := by
  have old : (List.range arcs.size).reverse.filter
      (fun edge => (arcs.push arc)[edge]?.any (·.ends.get side == vertex)) = incident arcs side vertex := by
    apply List.filter_congr
    intro edge member
    have before : edge ≠ arcs.size := by
      have := List.mem_range.mp (List.mem_reverse.mp member)
      omega
    rw [Array.getElem?_push, if_neg before]
  unfold incident
  rw [Array.size_push, List.range_succ, List.reverse_concat, List.filter_cons, old]
  simp [incident]

structure CouplingGraph where
  /-- Names by number. -/
  vertices : Array String
  /-- Edges by number. -/
  arcs : Array NumberedEdge
  adjacency : Adjacency
  /-- The numbers of names. -/
  numbers : List (String × Nat)
  numbered : ∀ name number, Keyed.get? name numbers = some number ↔ vertices[number]? = some name
  headed : adjacency.heads.size = vertices.size
  linked : adjacency.links.size = arcs.size
  inside : ∀ arc ∈ arcs, ∀ side, arc.ends.get side < vertices.size
  listed : adjacency.Lists (incident arcs)
deriving Repr, DecidableEq

namespace CouplingGraph

def empty : CouplingGraph where
  vertices := #[]
  arcs := #[]
  adjacency := .empty
  numbers := []
  numbered _ _ := by simp [Keyed.get?]
  headed := rfl
  linked := rfl
  inside _ member := by simp at member
  listed := .empty

/-- Where a vertex stands in the order of first mention. -/
def position? (graph : CouplingGraph) (name : String) : Option Nat :=
  Keyed.get? name graph.numbers

def contains (graph : CouplingGraph) (name : String) : Bool :=
  (graph.position? name).isSome

def addVertex (graph : CouplingGraph) (name : String) (fresh : graph.position? name = none) : CouplingGraph where
  vertices := graph.vertices.push name
  arcs := graph.arcs
  adjacency := graph.adjacency.addVertex
  numbers := Keyed.insert name graph.vertices.size graph.numbers
  numbered other number := by
    have known := graph.numbered other number
    rw [Keyed.get?_insert, Array.getElem?_push]
    by_cases same : name = other
    · subst same
      have unknown : graph.vertices[number]? ≠ some name := by
        intro held
        have found : graph.position? name = some number := known.mpr held
        rw [fresh] at found
        cases found
      by_cases last : number = graph.vertices.size
      · simp [last]
      · simp [last, Ne.symm last, unknown]
    · by_cases last : number = graph.vertices.size
      · simpa [last, same] using known
      · simpa [last, same] using known
  headed := by rw [Adjacency.addVertex, Array.size_push, Array.size_push, graph.headed]
  linked := graph.linked
  inside arc member side := by
    have := graph.inside arc member side
    rw [Array.size_push]
    omega
  listed := graph.listed.addVertex

/-- The number of a name, and the graph in which the name is a vertex. -/
def enter (graph : CouplingGraph) (name : String) : Nat × CouplingGraph :=
  match found : graph.position? name with
  | some number => (number, graph)
  | none => (graph.vertices.size, graph.addVertex name found)

/-- The graph in which `name` is a vertex. -/
def ensure (graph : CouplingGraph) (name : String) : CouplingGraph :=
  (graph.enter name).2

def addEdge (graph : CouplingGraph) (arc : NumberedEdge) (inside : ∀ side, arc.ends.get side < graph.vertices.size) :
    CouplingGraph where
  vertices := graph.vertices
  arcs := graph.arcs.push arc
  adjacency := graph.adjacency.link graph.arcs.size arc.ends
  numbers := graph.numbers
  numbered := graph.numbered
  headed := by rw [Adjacency.size_heads_link, graph.headed]
  linked := by
    rw [Adjacency.size_links_link (Nat.le_of_eq graph.linked.symm), graph.linked, Array.size_push]
    omega
  inside other member := by
    rcases Array.mem_push.mp member with old | rfl
    · exact graph.inside other old
    · exact inside
  listed := by
    have unused (side : End) (vertex : Nat) : graph.arcs.size ∉ incident graph.arcs side vertex := by
      simp [incident]
    rw [funext fun side => funext fun vertex => incident_push graph.arcs arc side vertex]
    exact graph.listed.link (Nat.le_of_eq graph.linked.symm) unused (by simpa [graph.headed] using inside)

theorem enter_lt (graph : CouplingGraph) (name : String) :
    (graph.enter name).1 < (graph.enter name).2.vertices.size := by
  unfold enter
  split
  · rename_i number found
    exact (Array.getElem?_eq_some_iff.mp ((graph.numbered name number).mp found)).1
  · simp [addVertex]

theorem size_le_enter (graph : CouplingGraph) (name : String) :
    graph.vertices.size ≤ (graph.enter name).2.vertices.size := by
  unfold enter
  split
  · exact Nat.le_refl _
  · simp [addVertex]

/-- Adds one edge, and its ends where they are missing. -/
def relate (graph : CouplingGraph) (relation : Relation) : CouplingGraph :=
  let first := graph.enter relation.source
  let second := first.2.enter relation.target
  second.2.addEdge ⟨⟨first.1, second.1⟩, relation.kind⟩ fun side =>
    match side with
    | .source => Nat.lt_of_lt_of_le (graph.enter_lt relation.source) (first.2.size_le_enter relation.target)
    | .target => first.2.enter_lt relation.target

def vertexCount (graph : CouplingGraph) : Nat := graph.vertices.size

def edgeCount (graph : CouplingGraph) : Nat := graph.arcs.size

def isEmpty (graph : CouplingGraph) : Bool := graph.vertices.isEmpty

def nameOf (graph : CouplingGraph) (vertex : Nat) : String :=
  graph.vertices.getD vertex ""

/-- An edge by the names of its ends. -/
def relationOf (graph : CouplingGraph) (arc : NumberedEdge) : Relation :=
  ⟨graph.nameOf arc.ends.source, graph.nameOf arc.ends.target, arc.kind⟩

/-- All edges, in the order of occurrence. -/
def edges (graph : CouplingGraph) : Array Relation :=
  graph.arcs.map graph.relationOf

/-- The edges at a class, the newest first; none if the class is unknown. -/
def arcsAt (graph : CouplingGraph) (side : End) (name : String) : List NumberedEdge :=
  match graph.position? name with
  | none => []
  | some vertex => (graph.adjacency.edgesAt side vertex).filterMap (graph.arcs[·]?)

/-- The edges from one class to another. -/
def arcsBetween (graph : CouplingGraph) (source target : String) : List NumberedEdge :=
  match graph.position? target with
  | none => []
  | some vertex => (graph.arcsAt .source source).filter (·.ends.target == vertex)

def countBetween (graph : CouplingGraph) (source target : String) : Nat :=
  (graph.arcsBetween source target).length

def countOfKind (graph : CouplingGraph) (source target : String) (kind : RelationKind) : Nat :=
  (graph.arcsBetween source target).countP (·.kind == kind)

def countByKind (graph : CouplingGraph) (kind : RelationKind) : Nat :=
  graph.arcs.toList.countP (·.kind == kind)

def outDegree (graph : CouplingGraph) (name : String) : Nat :=
  (graph.arcsAt .source name).length

def inDegree (graph : CouplingGraph) (name : String) : Nat :=
  (graph.arcsAt .target name).length

/-- The classes that a class relates to, each once, in string order. -/
def outNeighbours (graph : CouplingGraph) (name : String) : List String :=
  let targets := (graph.arcsAt .source name).map fun arc => graph.nameOf arc.ends.target
  targets.eraseDups.mergeSort fun first second => decide (first ≤ second)

/-- Coupling between objects: how many classes a class relates to. -/
def cbo (graph : CouplingGraph) (name : String) : Nat :=
  (graph.outNeighbours name).length

end CouplingGraph

structure PairScore where
  first : String
  second : String
  score : Nat
deriving Repr, DecidableEq

/-- The number of edges between two classes, either way, for every pair of vertices. -/
def CouplingGraph.pairScores (graph : CouplingGraph) : List PairScore :=
  (pairs graph.vertices.toList).map fun (first, second) =>
    { first, second, score := graph.countBetween first second + graph.countBetween second first }

end ClassMetrics
