import ClassMetrics.Data.Adjacency

namespace ClassMetrics

/-- Arcs between numbered vertices. They stand in slots, and each is listed at both of its ends. -/
structure ArcTable where
  slots : Slots (Ends Nat)
  adjacency : Adjacency
  linked : adjacency.links.size = slots.cells.size
  listed : adjacency.Lists adjacency.edgesAt
  mem_edgesAt : ∀ side vertex arc, arc ∈ adjacency.edgesAt side vertex ↔ (slots.get? arc).map (·.get side) = some vertex
deriving Repr, DecidableEq

namespace ArcTable

theorem linked_empty : Adjacency.empty.links.size = (Slots.empty : Slots (Ends Nat)).cells.size := rfl

theorem mem_edgesAt_empty (side : End) (vertex arc : Nat) :
    arc ∈ Adjacency.empty.edgesAt side vertex ↔
      ((Slots.empty : Slots (Ends Nat)).get? arc).map (·.get side) = some vertex := by
  rw [Adjacency.Lists.empty.edgesAt_eq]
  simp [Slots.empty, Slots.get?]

def empty : ArcTable where
  slots := .empty
  adjacency := .empty
  linked := linked_empty
  listed := Adjacency.Lists.empty.own
  mem_edgesAt := mem_edgesAt_empty

section Operations

variable (table : ArcTable)

/-- The ends of an arc. -/
def ends? (arc : Nat) : Option (Ends Nat) :=
  table.slots.get? arc

/-- The arcs that have a vertex at this end, the newest first. -/
def arcsAt (side : End) (vertex : Nat) : List Nat :=
  table.adjacency.edgesAt side vertex

def vertexCount : Nat := table.adjacency.heads.size

/-- Makes room for a vertex. One that was there before has no arcs left and starts as a new one does. -/
def cover (vertex : Nat) : ArcTable :=
  if vertex < table.vertexCount then table
  else
    { table with
      adjacency := table.adjacency.addVertex
      listed := table.listed.addVertex.own
      mem_edgesAt := fun side held arc => by
        rw [table.listed.addVertex.edgesAt_eq]
        exact table.mem_edgesAt side held arc }

theorem link (ends : Ends Nat) (inside : ∀ side, ends.get side < table.vertexCount) :
    (table.adjacency.link table.slots.next ends).Lists fun side vertex =>
      if ends.get side = vertex then table.slots.next :: table.arcsAt side vertex else table.arcsAt side vertex := by
  refine table.listed.link (table.linked ▸ table.slots.next_le) (fun side vertex member => ?_) inside
  have held := (table.mem_edgesAt side vertex table.slots.next).mp member
  rw [table.slots.get?_next] at held
  cases held

def add (ends : Ends Nat) (inside : ∀ side, ends.get side < table.vertexCount) : ArcTable where
  slots := table.slots.insert ends
  adjacency := table.adjacency.link table.slots.next ends
  linked := by
    have place : table.slots.next ≤ table.adjacency.links.size := table.linked ▸ table.slots.next_le
    rw [Adjacency.size_links_link place, table.linked, Slots.insert, size_putAt table.slots.next_le]
  listed := (table.link ends inside).own
  mem_edgesAt side vertex arc := by
    have old := table.mem_edgesAt side vertex arc
    rw [(table.link ends inside).edgesAt_eq, Slots.get?_insert]
    by_cases new : table.slots.next = arc
    · subst new
      rw [table.slots.get?_next] at old
      by_cases here : ends.get side = vertex
      · simp [here]
      · simpa [here, arcsAt] using old
    · by_cases here : ends.get side = vertex
      · simpa [here, new, Ne.symm new, arcsAt] using old
      · simpa [here, new, arcsAt] using old

variable {table} in
theorem unlink {arc : Nat} {ends : Ends Nat} (found : table.slots.get? arc = some ends) :
    (table.adjacency.unlink arc ends).Lists fun side vertex => (table.arcsAt side vertex).erase arc := by
  refine table.listed.unlink fun side vertex member => ?_
  have held := (table.mem_edgesAt side vertex arc).mp member
  rw [found] at held
  exact Option.some.inj held

def remove (arc : Nat) : ArcTable :=
  match found : table.slots.get? arc with
  | none => table
  | some ends => {
      slots := table.slots.release arc (by simp [found])
      adjacency := table.adjacency.unlink arc ends
      linked := by
        rw [Adjacency.size_links_unlink, table.linked]
        simp [Slots.release]
      listed := (unlink found).own
      mem_edgesAt := fun side vertex other => by
        have distinct := (table.listed.chain side vertex).nodup
        rw [(unlink found).edgesAt_eq, Slots.get?_release, arcsAt, distinct.mem_erase_iff, table.mem_edgesAt]
        by_cases same : arc = other
        · simp [same]
        · simp [same, Ne.symm same] }

/-- Removes the arcs that have a vertex at this end. -/
def strip (side : End) (vertex : Nat) : ArcTable :=
  (table.arcsAt side vertex).foldl remove table

/-- Removes the arcs at a vertex, first those that leave it. -/
def clear (vertex : Nat) : ArcTable :=
  (table.strip .source vertex).strip .target vertex

end Operations

variable (table : ArcTable)

theorem vertexCount_cover (vertex : Nat) :
    (table.cover vertex).vertexCount =
      if vertex < table.vertexCount then table.vertexCount else table.vertexCount + 1 := by
  unfold cover
  split
  · rfl
  · simp [vertexCount, Adjacency.addVertex]

theorem vertexCount_add (ends : Ends Nat) (inside : ∀ side, ends.get side < table.vertexCount) :
    (table.add ends inside).vertexCount = table.vertexCount :=
  Adjacency.size_heads_link _ _

theorem vertexCount_remove (arc : Nat) : (table.remove arc).vertexCount = table.vertexCount := by
  unfold remove
  split
  · rfl
  · exact Adjacency.size_heads_unlink _ _ _

theorem vertexCount_foldl_remove (arcs : List Nat) : (arcs.foldl remove table).vertexCount = table.vertexCount := by
  induction arcs generalizing table with
  | nil => rfl
  | cons arc rest ih => rw [List.foldl_cons, ih, vertexCount_remove]

theorem vertexCount_clear (vertex : Nat) : (table.clear vertex).vertexCount = table.vertexCount := by
  rw [clear, strip, vertexCount_foldl_remove, strip, vertexCount_foldl_remove]

end ArcTable

end ClassMetrics
