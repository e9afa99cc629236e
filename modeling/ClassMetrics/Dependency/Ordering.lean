import ClassMetrics.Dependency.Graph

namespace ClassMetrics.DependencyGraph

/-!
An order of the vertices in which few arcs point back. Sinks are taken off and put in front of the back
part, sources are taken off and put at the end of the front part; where neither is left, the vertex
whose outgoing arcs exceed its incoming ones by most goes to the end of the front part.
-/

def sinks (graph : DependencyGraph) : List String :=
  graph.vertices.filter fun name => graph.outDegree name == 0

def sources (graph : DependencyGraph) : List String :=
  graph.vertices.filter fun name => graph.inDegree name == 0

/-- Outgoing arcs less incoming arcs. -/
def degreeDelta (graph : DependencyGraph) (name : String) : Int :=
  (graph.outDegree name : Int) - graph.inDegree name

/-- The first name with the greatest score. -/
def firstMaximum (score : String → Int) : List String → Option String
  | [] => none
  | name :: rest =>
      match firstMaximum score rest with
      | none => some name
      | some best => if score name < score best then some best else some name

theorem firstMaximum_mem {score : String → Int} {names : List String} {best : String}
    (found : firstMaximum score names = some best) : best ∈ names := by
  induction names generalizing best with
  | nil => contradiction
  | cons name rest ih =>
      unfold firstMaximum at found
      split at found
      · cases found
        exact List.mem_cons_self
      · rename_i later chosen
        split at found
        · cases found
          exact List.mem_cons_of_mem _ (ih chosen)
        · cases found
          exact List.mem_cons_self

def highestDelta? (graph : DependencyGraph) : Option String :=
  firstMaximum graph.degreeDelta graph.vertices

def removeAll (graph : DependencyGraph) (names : List String) : DependencyGraph :=
  names.foldl remove graph

theorem vertices_removeAll (graph : DependencyGraph) (names : List String) :
    (graph.removeAll names).vertices = graph.vertices.filter (· ∉ names) := by
  unfold removeAll
  induction names generalizing graph with
  | nil => exact (List.filter_eq_self.mpr (by simp)).symm
  | cons name rest ih =>
      rw [List.foldl_cons, ih, vertices_remove, List.filter_filter]
      congr 1
      funext held
      simp [List.mem_cons, Bool.and_comm]

theorem vertexCount_removeAll_lt {graph : DependencyGraph} {names : List String}
    (nonempty : names ≠ []) (present : ∀ name ∈ names, name ∈ graph.vertices) :
    (graph.removeAll names).vertexCount < graph.vertexCount := by
  obtain ⟨name, member⟩ := List.exists_mem_of_ne_nil names nonempty
  unfold vertexCount
  rw [vertices_removeAll]
  exact List.length_filter_lt_length_iff_exists.mpr ⟨name, present name member, by simpa using member⟩

theorem vertexCount_remove_lt {graph : DependencyGraph} {name : String}
    (present : name ∈ graph.vertices) : (graph.remove name).vertexCount < graph.vertexCount := by
  unfold vertexCount
  rw [vertices_remove]
  exact List.length_filter_lt_length_iff_exists.mpr ⟨name, present, by simp⟩

/-- Takes sinks off in rounds; `back` is the back part of the order. -/
def peelSinks (graph : DependencyGraph) (back : List String) : DependencyGraph × List String :=
  if _ : graph.sinks = [] then (graph, back)
  else peelSinks (graph.removeAll graph.sinks) (graph.sinks.reverse ++ back)
termination_by graph.vertexCount
decreasing_by
  exact vertexCount_removeAll_lt ‹_› fun _ member => (List.mem_filter.mp member).1

/-- Takes sources off in rounds; `front` is the front part of the order. -/
def peelSources (graph : DependencyGraph) (front : List String) : DependencyGraph × List String :=
  if _ : graph.sources = [] then (graph, front)
  else peelSources (graph.removeAll graph.sources) (front ++ graph.sources)
termination_by graph.vertexCount
decreasing_by
  exact vertexCount_removeAll_lt ‹_› fun _ member => (List.mem_filter.mp member).1

theorem vertexCount_peelSinks_le (graph : DependencyGraph) (back : List String) :
    (graph.peelSinks back).1.vertexCount ≤ graph.vertexCount := by
  fun_induction peelSinks graph back with
  | case1 => exact Nat.le_refl _
  | case2 graph back some ih =>
      have fewer := vertexCount_removeAll_lt some fun _ member => (List.mem_filter.mp member).1
      omega

theorem vertexCount_peelSources_le (graph : DependencyGraph) (front : List String) :
    (graph.peelSources front).1.vertexCount ≤ graph.vertexCount := by
  fun_induction peelSources graph front with
  | case1 => exact Nat.le_refl _
  | case2 graph front some ih =>
      have fewer := vertexCount_removeAll_lt some fun _ member => (List.mem_filter.mp member).1
      omega

/-- Orders what is left of the graph between the two parts. -/
def orderBetween (graph : DependencyGraph) (front back : List String) : List String :=
  let peeledBack := graph.peelSinks back
  let peeledFront := peeledBack.1.peelSources front
  match _ : peeledFront.1.highestDelta? with
  | none => peeledFront.2 ++ peeledBack.2
  | some name => orderBetween (peeledFront.1.remove name) (peeledFront.2 ++ [name]) peeledBack.2
termination_by graph.vertexCount
decreasing_by
  have sinksLess := graph.vertexCount_peelSinks_le back
  have sourcesLess := (graph.peelSinks back).1.vertexCount_peelSources_le front
  have chosen := firstMaximum_mem ‹_ = some name›
  have fewer : (((graph.peelSinks back).1.peelSources front).1.remove name).vertexCount < _ :=
    vertexCount_remove_lt chosen
  omega

/-- Every vertex once, so that few arcs point back. -/
def ordering (graph : DependencyGraph) : List String :=
  graph.orderBetween [] []

/-- The arcs from the remaining names, in order, to names already visited. -/
def backwardArcs (graph : DependencyGraph) (visited : List String) : List String → List Arc
  | [] => []
  | name :: rest =>
      ((graph.successors name).filter visited.contains).map (fun target => ⟨name, target⟩) ++
        graph.backwardArcs (name :: visited) rest

/-- The arcs that point back in the order of the vertices, by source, then by target. Without them no cycle is left. -/
def feedbackArcs (graph : DependencyGraph) : List Arc :=
  (graph.backwardArcs [] graph.ordering).mergeSort Arc.precedes

end ClassMetrics.DependencyGraph
