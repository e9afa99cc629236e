import ClassMetrics.Data.Slots

namespace ClassMetrics

/-!
The edges at a vertex, as two lists that run through the edges themselves: one of the edges that leave the vertex and
one of those that reach it. A vertex knows the first edge of either list, and an edge the next one of either list that
it stands in. A new edge comes first. Main statements: `Adjacency.Lists.link` and `Adjacency.Lists.unlink`.
-/

inductive End where
  | source
  | target
deriving Repr, DecidableEq

def End.other : End → End
  | .source => .target
  | .target => .source

/-- One thing for either end of an edge. -/
structure Ends (α : Type) where
  source : α
  target : α
deriving Repr, DecidableEq

namespace Ends

variable {α : Type}

def get (ends : Ends α) : End → α
  | .source => ends.source
  | .target => ends.target

def set (ends : Ends α) (side : End) (value : α) : Ends α :=
  match side with
  | .source => { ends with source := value }
  | .target => { ends with target := value }

theorem get_set (ends : Ends α) (side other : End) (value : α) :
    (ends.set side value).get other = if side = other then value else ends.get other := by
  cases side <;> cases other <;> rfl

end Ends

/-- The list behind a link. -/
inductive Chain (next : Nat → Option Nat) : Option Nat → List Nat → Prop where
  | done : Chain next none []
  | step {edge : Nat} {rest : List Nat} : Chain next (next edge) rest → Chain next (some edge) (edge :: rest)

/-- Follows links, for a number of steps at most. -/
def walk (next : Nat → Option Nat) : Nat → Option Nat → List Nat
  | 0, _ => []
  | _ + 1, none => []
  | steps + 1, some edge => edge :: walk next steps (next edge)

namespace Chain

variable {next other : Nat → Option Nat} {first : Option Nat} {edges more : List Nat} {edge : Nat}

theorem walk_eq (chain : Chain next first edges) {steps : Nat} (enough : edges.length ≤ steps) :
    walk next steps first = edges := by
  induction chain generalizing steps with
  | done => cases steps <;> rfl
  | @step edge rest chain ih =>
      cases steps with
      | zero => simp at enough
      | succ steps => rw [walk, ih (by simpa using enough)]

theorem unique (chain : Chain next first edges) (same : Chain next first more) : edges = more := by
  induction chain generalizing more with
  | done =>
      cases same
      rfl
  | step chain ih =>
      cases same with
      | step rest => rw [ih rest]

/-- Links elsewhere have no part in it. -/
theorem frame (chain : Chain next first edges) (same : ∀ edge ∈ edges, other edge = next edge) :
    Chain other first edges := by
  induction chain with
  | done => exact .done
  | @step edge rest chain ih =>
      apply Chain.step
      rw [same edge List.mem_cons_self]
      exact ih fun later member => same later (List.mem_cons_of_mem edge member)

/-- What follows an edge is the same wherever the edge is met. -/
theorem suffix (chain : Chain next first edges) (member : edge ∈ edges) :
    ∃ before after, edges = before ++ edge :: after ∧ Chain next (next edge) after := by
  induction chain with
  | done => cases member
  | @step here rest chain ih =>
      by_cases found : edge = here
      · subst found
        exact ⟨[], rest, rfl, chain⟩
      · obtain ⟨before, after, split, behind⟩ := ih ((List.mem_cons.mp member).resolve_left found)
        exact ⟨here :: before, after, by rw [split, List.cons_append], behind⟩

theorem nodup (chain : Chain next first edges) : edges.Nodup := by
  induction chain with
  | done => exact .nil
  | @step edge rest chain ih =>
      refine List.nodup_cons.mpr ⟨fun again => ?_, ih⟩
      -- Met again further on, the edge would be followed by a shorter list than here.
      obtain ⟨before, after, split, behind⟩ := chain.suffix again
      have longer := congrArg List.length split
      rw [chain.unique behind, List.length_append, List.length_cons] at longer
      omega

theorem cons_iff : Chain next first (edge :: edges) ↔ first = some edge ∧ Chain next (next edge) edges := by
  constructor
  · intro chain
    cases chain with
    | step behind => exact ⟨rfl, behind⟩
  · intro both
    exact both.1 ▸ .step both.2

/-- An edge is left out by linking the one before it to the one behind it. -/
theorem leave_out {before after : List Nat} {previous : Nat}
    (chain : Chain next first (before ++ previous :: edge :: after))
    (changed : other previous = next edge) (kept : ∀ held, held ≠ previous → other held = next held) :
    Chain other first (before ++ previous :: after) := by
  have distinct := chain.nodup
  induction before generalizing first with
  | nil =>
      obtain ⟨rfl, behind⟩ := cons_iff.mp chain
      obtain ⟨_, behind⟩ := cons_iff.mp behind
      apply Chain.step
      rw [changed]
      refine behind.frame fun held member => kept held fun same => ?_
      subst same
      exact (List.nodup_cons.mp distinct).1 (List.mem_cons_of_mem edge member)
  | cons here before ih =>
      obtain ⟨rfl, behind⟩ := cons_iff.mp chain
      obtain ⟨onlyHere, distinct⟩ := List.nodup_cons.mp distinct
      apply Chain.step
      rw [kept here fun same => onlyHere (by simp [same])]
      exact ih behind distinct

theorem exists_previous (chain : Chain next first edges) (member : edge ∈ edges) (later : first ≠ some edge) :
    ∃ previous ∈ edges, next previous = some edge := by
  induction chain with
  | done => cases member
  | @step here rest chain ih =>
      have further : edge ∈ rest := (List.mem_cons.mp member).resolve_left fun same => later (same ▸ rfl)
      by_cases found : next here = some edge
      · exact ⟨here, List.mem_cons_self, found⟩
      · obtain ⟨previous, among, links⟩ := ih further found
        exact ⟨previous, List.mem_cons_of_mem here among, links⟩

end Chain

structure Adjacency where
  /-- By vertex: the first edge that leaves it, and the first that reaches it. -/
  heads : Array (Ends (Option Nat))
  /-- By edge: the next edge with the same source, and the next with the same target. -/
  links : Array (Ends (Option Nat))
deriving Repr, DecidableEq

namespace Adjacency

def empty : Adjacency := ⟨#[], #[]⟩

section Operations

variable (adjacency : Adjacency)

def head (side : End) (vertex : Nat) : Option Nat :=
  adjacency.heads[vertex]?.bind (·.get side)

def next (side : End) (edge : Nat) : Option Nat :=
  adjacency.links[edge]?.bind (·.get side)

/-- The edges that have the vertex at this end, the newest first. -/
def edgesAt (side : End) (vertex : Nat) : List Nat :=
  walk (adjacency.next side) adjacency.links.size (adjacency.head side vertex)

def addVertex : Adjacency :=
  { adjacency with heads := adjacency.heads.push ⟨none, none⟩ }

def setHead (side : End) (vertex : Nat) (first : Option Nat) : Adjacency :=
  { adjacency with heads := adjacency.heads.modify vertex (·.set side first) }

def setNext (side : End) (edge : Nat) (next : Option Nat) : Adjacency :=
  { adjacency with links := adjacency.links.modify edge (·.set side next) }

/-- Puts an edge before the others in the lists of its ends. -/
def link (edge : Nat) (ends : Ends Nat) : Adjacency :=
  let behind := ⟨adjacency.head .source ends.source, adjacency.head .target ends.target⟩
  let linked := { adjacency with links := putAt adjacency.links edge behind }
  (linked.setHead .source ends.source (some edge)).setHead .target ends.target (some edge)

/-- Takes an edge out of one list: what links to it links to the edge behind it. -/
def unlinkAt (side : End) (edge vertex : Nat) : Adjacency :=
  if adjacency.head side vertex = some edge then adjacency.setHead side vertex (adjacency.next side edge)
  else
    match (adjacency.edgesAt side vertex).find? fun previous => adjacency.next side previous = some edge with
    | some previous => adjacency.setNext side previous (adjacency.next side edge)
    | none => adjacency

def unlink (edge : Nat) (ends : Ends Nat) : Adjacency :=
  (adjacency.unlinkAt .source edge ends.source).unlinkAt .target edge ends.target

end Operations

variable {adjacency : Adjacency} {lists : End → Nat → List Nat} {side other : End} {vertex edge : Nat}

theorem head_setHead (inside : vertex < adjacency.heads.size) (side other : End) (first : Option Nat) (held : Nat) :
    (adjacency.setHead side vertex first).head other held =
      if vertex = held ∧ side = other then first else adjacency.head other held := by
  unfold head setHead
  rw [Array.getElem?_modify]
  by_cases here : vertex = held
  · subst here
    rw [if_pos rfl, Array.getElem?_eq_getElem inside]
    simp [Ends.get_set]
  · simp [here]

theorem next_setNext (inside : edge < adjacency.links.size) (side other : End) (next : Option Nat) (held : Nat) :
    (adjacency.setNext side edge next).next other held =
      if edge = held ∧ side = other then next else adjacency.next other held := by
  unfold Adjacency.next setNext
  rw [Array.getElem?_modify]
  by_cases here : edge = held
  · subst here
    rw [if_pos rfl, Array.getElem?_eq_getElem inside]
    simp [Ends.get_set]
  · simp [here]

theorem head_addVertex (adjacency : Adjacency) (side : End) (held : Nat) :
    adjacency.addVertex.head side held = adjacency.head side held := by
  unfold head addVertex
  rw [Array.getElem?_push]
  by_cases last : held = adjacency.heads.size
  · subst last
    rw [if_pos rfl, Array.getElem?_eq_none (Nat.le_refl _)]
    cases side <;> rfl
  · rw [if_neg last]

section Link

variable {ends : Ends Nat}

theorem head_link (inside : ∀ side, ends.get side < adjacency.heads.size) (edge : Nat) (side : End) (vertex : Nat) :
    (adjacency.link edge ends).head side vertex =
      if ends.get side = vertex then some edge else adjacency.head side vertex := by
  have source : ends.source < adjacency.heads.size := inside .source
  have target : ends.target < adjacency.heads.size := inside .target
  unfold link
  rw [head_setHead (by simpa [setHead] using target), head_setHead (by exact source)]
  cases side with
  | source => by_cases here : ends.source = vertex <;> simp [Ends.get, head, here]
  | target => by_cases here : ends.target = vertex <;> simp [Ends.get, head, here]

theorem next_link (place : edge ≤ adjacency.links.size) (side : End) (held : Nat) :
    (adjacency.link edge ends).next side held =
      if edge = held then adjacency.head side (ends.get side) else adjacency.next side held := by
  unfold link Adjacency.next
  simp only [setHead, getElem?_putAt place]
  by_cases here : edge = held
  · simp only [here, if_true]
    cases side <;> rfl
  · simp only [here, if_false]

theorem size_heads_link (edge : Nat) (ends : Ends Nat) :
    (adjacency.link edge ends).heads.size = adjacency.heads.size := by
  simp [link, setHead]

theorem size_links_link (place : edge ≤ adjacency.links.size) (ends : Ends Nat) :
    (adjacency.link edge ends).links.size = max adjacency.links.size (edge + 1) :=
  size_putAt place _

end Link

theorem size_unlinkAt (adjacency : Adjacency) (side : End) (edge vertex : Nat) :
    (adjacency.unlinkAt side edge vertex).heads.size = adjacency.heads.size ∧
      (adjacency.unlinkAt side edge vertex).links.size = adjacency.links.size := by
  unfold unlinkAt
  split
  · simp [setHead]
  · split <;> simp [setNext]

theorem size_heads_unlink (adjacency : Adjacency) (edge : Nat) (ends : Ends Nat) :
    (adjacency.unlink edge ends).heads.size = adjacency.heads.size := by
  rw [unlink, (size_unlinkAt _ _ _ _).1, (size_unlinkAt _ _ _ _).1]

theorem size_links_unlink (adjacency : Adjacency) (edge : Nat) (ends : Ends Nat) :
    (adjacency.unlink edge ends).links.size = adjacency.links.size := by
  rw [unlink, (size_unlinkAt _ _ _ _).2, (size_unlinkAt _ _ _ _).2]

/-- The lists are those that run through the edges. No edge is in two lists of one side. -/
structure Lists (adjacency : Adjacency) (lists : End → Nat → List Nat) : Prop where
  chain : ∀ side vertex, Chain (adjacency.next side) (adjacency.head side vertex) (lists side vertex)
  apart : ∀ side vertex other, ∀ edge ∈ lists side vertex, edge ∈ lists side other → vertex = other
  inside : ∀ side vertex, ∀ edge ∈ lists side vertex, edge < adjacency.links.size

namespace Lists

theorem length_le (listed : adjacency.Lists lists) (side : End) (vertex : Nat) :
    (lists side vertex).length ≤ adjacency.links.size := by
  have subset : lists side vertex ⊆ List.range adjacency.links.size :=
    fun edge member => List.mem_range.mpr (listed.inside side vertex edge member)
  have := (listed.chain side vertex).nodup.length_le_of_subset subset
  simpa using this

theorem edgesAt_eq (listed : adjacency.Lists lists) (side : End) (vertex : Nat) :
    adjacency.edgesAt side vertex = lists side vertex :=
  (listed.chain side vertex).walk_eq (listed.length_le side vertex)

theorem own (listed : adjacency.Lists lists) : adjacency.Lists adjacency.edgesAt := by
  have same : adjacency.edgesAt = lists := funext fun side => funext fun vertex => listed.edgesAt_eq side vertex
  rwa [same]

theorem empty : Adjacency.empty.Lists fun _ _ => [] where
  chain _ _ := .done
  apart _ _ _ _ member := by cases member
  inside _ _ _ member := by cases member

theorem addVertex (listed : adjacency.Lists lists) : adjacency.addVertex.Lists lists where
  chain side vertex := by
    rw [head_addVertex]
    exact listed.chain side vertex
  apart := listed.apart
  inside := listed.inside

/-- A new edge stands first in the lists of its ends. -/
theorem link {ends : Ends Nat} (listed : adjacency.Lists lists) (place : edge ≤ adjacency.links.size)
    (unused : ∀ side vertex, edge ∉ lists side vertex) (ends_inside : ∀ side, ends.get side < adjacency.heads.size) :
    (adjacency.link edge ends).Lists fun side vertex =>
      if ends.get side = vertex then edge :: lists side vertex else lists side vertex where
  chain side vertex := by
    have kept : Chain ((adjacency.link edge ends).next side) (adjacency.head side vertex) (lists side vertex) := by
      refine (listed.chain side vertex).frame fun held member => ?_
      have other : edge ≠ held := fun same => unused side vertex (same ▸ member)
      rw [next_link place, if_neg other]
    rw [head_link ends_inside]
    by_cases here : ends.get side = vertex
    · rw [if_pos here, if_pos here]
      apply Chain.step
      rwa [next_link place, if_pos rfl, here]
    · rwa [if_neg here, if_neg here]
  apart side vertex other held member also := by
    have old {vertex : Nat} (member : held ∈ if ends.get side = vertex then edge :: lists side vertex
        else lists side vertex) : held = edge ∧ ends.get side = vertex ∨ held ∈ lists side vertex := by
      by_cases here : ends.get side = vertex
      · rw [if_pos here, List.mem_cons] at member
        exact member.imp (fun same => ⟨same, here⟩) id
      · rw [if_neg here] at member
        exact .inr member
    rcases old member with ⟨rfl, here⟩ | before
    · rcases old also with ⟨_, there⟩ | before
      · exact here.symm.trans there
      · exact absurd before (unused side other)
    · rcases old also with ⟨rfl, _⟩ | alsoBefore
      · exact absurd before (unused side vertex)
      · exact listed.apart side vertex other held before alsoBefore
  inside side vertex held member := by
    rw [size_links_link place]
    by_cases here : ends.get side = vertex
    · rw [if_pos here, List.mem_cons] at member
      rcases member with rfl | old
      · omega
      · have := listed.inside side vertex held old
        omega
    · rw [if_neg here] at member
      have := listed.inside side vertex held member
      omega

/-- Lists that have lost edges are still apart. -/
theorem fewer {after : Adjacency} {left : End → Nat → List Nat} (listed : adjacency.Lists lists)
    (size : after.links.size = adjacency.links.size)
    (chain : ∀ side vertex, Chain (after.next side) (after.head side vertex) (left side vertex))
    (subset : ∀ side vertex, left side vertex ⊆ lists side vertex) : after.Lists left where
  chain := chain
  apart side vertex other edge member also :=
    listed.apart side vertex other edge (subset side vertex member) (subset side other also)
  inside side vertex edge member := size ▸ listed.inside side vertex edge (subset side vertex member)

theorem unlinkAt_head (listed : adjacency.Lists lists) (first : adjacency.head side vertex = some edge)
    (other : End) (held : Nat) :
    let after := adjacency.setHead side vertex (adjacency.next side edge)
    Chain (after.next other) (after.head other held)
      (if side = other ∧ vertex = held then (lists other held).erase edge else lists other held) := by
  intro after
  have chain := listed.chain other held
  have inside : vertex < adjacency.heads.size := by
    rw [head, Option.bind_eq_some_iff] at first
    obtain ⟨_, present, _⟩ := first
    exact (Array.getElem?_eq_some_iff.mp present).1
  change Chain (adjacency.next other) (after.head other held) _
  rw [head_setHead inside]
  by_cases here : side = other ∧ vertex = held
  · obtain ⟨rfl, rfl⟩ := here
    rw [first] at chain
    cases whole : lists side vertex with
    | nil =>
        rw [whole] at chain
        cases chain
    | cons edge rest =>
        rw [whole] at chain
        obtain ⟨same, behind⟩ := Chain.cons_iff.mp chain
        cases same
        simpa using behind
  · rw [if_neg here, if_neg fun both => here both.symm]
    exact chain

theorem unlinkAt_next (listed : adjacency.Lists lists) {previous : Nat} (among : previous ∈ lists side vertex)
    (linked : adjacency.next side previous = some edge) (other : End) (held : Nat) :
    let after := adjacency.setNext side previous (adjacency.next side edge)
    Chain (after.next other) (after.head other held)
      (if side = other ∧ vertex = held then (lists other held).erase edge else lists other held) := by
  intro after
  have chain := listed.chain other held
  have next (held : Nat) (elsewhere : held ≠ previous ∨ side ≠ other) :
      after.next other held = adjacency.next other held := by
    rw [next_setNext (listed.inside side vertex previous among), if_neg]
    intro both
    exact elsewhere.elim (fun other => other both.1.symm) fun other => other both.2
  change Chain (after.next other) (adjacency.head other held) _
  by_cases here : side = other ∧ vertex = held
  · obtain ⟨rfl, rfl⟩ := here
    obtain ⟨before, after, split, behind⟩ := chain.suffix among
    rw [linked] at behind
    cases behind with
    | @step _ rest behind =>
        have distinct := chain.nodup
        rw [split] at distinct
        have notBefore : edge ∉ before := fun member =>
          (List.nodup_append.mp distinct).2.2 edge member edge (by simp) rfl
        have different : previous ≠ edge := fun same =>
          (List.nodup_cons.mp (List.nodup_append.mp distinct).2.1).1 (by simp [same])
        have erased : (lists side vertex).erase edge = before ++ previous :: rest := by
          rw [split, List.erase_append_right _ notBefore, List.erase_cons_tail (by simpa using different),
            List.erase_cons_head]
        rw [if_pos ⟨rfl, rfl⟩, erased]
        rw [split] at chain
        refine chain.leave_out ?_ fun held other => next held (.inl other)
        rw [next_setNext (listed.inside side vertex previous among), if_pos ⟨rfl, rfl⟩]
  · rw [if_neg here]
    refine chain.frame fun edge member => next edge ?_
    by_cases same : side = other
    · subst same
      refine .inl fun there => here ⟨rfl, ?_⟩
      exact listed.apart side vertex held previous among (there ▸ member)
    · exact .inr same

theorem unlinkAt (listed : adjacency.Lists lists) (side : End) (edge vertex : Nat) :
    (adjacency.unlinkAt side edge vertex).Lists fun other held =>
      if side = other ∧ vertex = held then (lists other held).erase edge else lists other held := by
  have subset (other : End) (held : Nat) :
      (if side = other ∧ vertex = held then (lists other held).erase edge else lists other held) ⊆
        lists other held := by
    split
    · exact List.erase_subset
    · exact List.Subset.refl _
  unfold Adjacency.unlinkAt
  by_cases first : adjacency.head side vertex = some edge
  · rw [if_pos first]
    exact listed.fewer rfl (listed.unlinkAt_head first) subset
  · rw [if_neg first, listed.edgesAt_eq]
    split
    · rename_i previous found
      have linked : adjacency.next side previous = some edge := by simpa using List.find?_some found
      exact listed.fewer (by simp [setNext]) (listed.unlinkAt_next (List.mem_of_find?_eq_some found) linked) subset
    · rename_i missing
      have absent : edge ∉ lists side vertex := by
        intro member
        obtain ⟨previous, among, linked⟩ := (listed.chain side vertex).exists_previous member first
        exact List.find?_eq_none.mp missing previous among (decide_eq_true linked)
      refine listed.fewer rfl (fun other held => ?_) subset
      split
      · rename_i here
        obtain ⟨rfl, rfl⟩ := here
        rw [List.erase_of_not_mem absent]
        exact listed.chain side vertex
      · exact listed.chain other held

/-- An edge leaves all lists, and the others keep their order. -/
theorem unlink {ends : Ends Nat} (listed : adjacency.Lists lists)
    (belongs : ∀ side vertex, edge ∈ lists side vertex → ends.get side = vertex) :
    (adjacency.unlink edge ends).Lists fun side vertex => (lists side vertex).erase edge := by
  have both := (listed.unlinkAt .source edge ends.source).unlinkAt .target edge ends.target
  have kept (side : End) (vertex : Nat) (elsewhere : ends.get side ≠ vertex) :
      (lists side vertex).erase edge = lists side vertex :=
    List.erase_of_not_mem fun member => elsewhere (belongs side vertex member)
  have same : (fun side vertex => (lists side vertex).erase edge) = fun other held =>
      if End.target = other ∧ ends.target = held then
        (if End.source = other ∧ ends.source = held then (lists other held).erase edge
          else lists other held).erase edge
      else if End.source = other ∧ ends.source = held then (lists other held).erase edge
      else lists other held := by
    funext side vertex
    cases side with
    | source =>
        by_cases here : ends.source = vertex
        · simp [here]
        · simpa [here] using kept .source vertex here
    | target =>
        by_cases here : ends.target = vertex
        · simp [here]
        · simpa [here] using kept .target vertex here
  rw [same]
  exact both

end Lists

end Adjacency

end ClassMetrics
