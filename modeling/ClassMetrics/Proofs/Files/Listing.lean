import ClassMetrics.Files.FileSystem
import Mathlib.Data.List.Nodup

namespace ClassMetrics

/-- What a directory lists, entry by entry. -/
inductive Listing where
  | nil
  | file (name : String) (content : List UInt8) (rest : Listing)
  | directory (name : String) (inner rest : Listing)

namespace Listing

def names : Listing → List String
  | .nil => []
  | .file name _ rest => name :: rest.names
  | .directory name _ rest => name :: rest.names

/-- No directory lists a name twice. -/
def WellFormed : Listing → Prop
  | .nil => True
  | .file name _ rest => name ∉ rest.names ∧ rest.WellFormed
  | .directory name inner rest => name ∉ rest.names ∧ inner.WellFormed ∧ rest.WellFormed

/-- All that lies below a place, each directory before what it holds. -/
def walk (place : Location) : Listing → List (Location × Entry)
  | .nil => []
  | .file name content rest => (place ++ [name], .file content) :: rest.walk place
  | .directory name inner rest =>
      (place ++ [name], .directory) :: (inner.walk (place ++ [name]) ++ rest.walk place)

/-- What stands at a place, as seen from the directory that is listed. -/
inductive Holds : Listing → Location → Entry → Prop where
  | file {name : String} {content : List UInt8} {rest : Listing} :
      Holds (.file name content rest) [name] (.file content)
  | directory {name : String} {inner rest : Listing} : Holds (.directory name inner rest) [name] .directory
  | inside {name : String} {inner rest : Listing} {below : Location} {entry : Entry} (held : Holds inner below entry) :
      Holds (.directory name inner rest) (name :: below) entry
  | afterFile {name : String} {content : List UInt8} {rest : Listing} {place : Location} {entry : Entry}
      (held : Holds rest place entry) : Holds (.file name content rest) place entry
  | afterDirectory {name : String} {inner rest : Listing} {place : Location} {entry : Entry}
      (held : Holds rest place entry) : Holds (.directory name inner rest) place entry

/-- Listings of one tree, in whatever order. -/
def SameTree (listing other : Listing) : Prop :=
  ∀ place entry, listing.Holds place entry ↔ other.Holds place entry

variable {listing other : Listing} {place location : Location} {entry : Entry}

theorem Holds.head (held : listing.Holds place entry) : ∃ name below, place = name :: below ∧ name ∈ listing.names := by
  induction held with
  | file => exact ⟨_, _, rfl, List.mem_cons_self⟩
  | directory => exact ⟨_, _, rfl, List.mem_cons_self⟩
  | inside => exact ⟨_, _, rfl, List.mem_cons_self⟩
  | afterFile _ ih =>
      obtain ⟨name, below, rfl, listed⟩ := ih
      exact ⟨name, below, rfl, List.mem_cons_of_mem _ listed⟩
  | afterDirectory _ ih =>
      obtain ⟨name, below, rfl, listed⟩ := ih
      exact ⟨name, below, rfl, List.mem_cons_of_mem _ listed⟩

theorem mem_walk_of_holds {below : Location} (held : listing.Holds below entry) (place : Location) :
    (place ++ below, entry) ∈ listing.walk place := by
  induction held generalizing place with
  | file => exact List.mem_cons_self
  | directory => exact List.mem_cons_self
  | @inside name inner rest below entry _ ih =>
      have deeper := ih (place ++ [name])
      rw [List.append_assoc] at deeper
      exact List.mem_cons_of_mem _ (List.mem_append_left _ deeper)
  | afterFile _ ih => exact List.mem_cons_of_mem _ (ih place)
  | afterDirectory _ ih => exact List.mem_cons_of_mem _ (List.mem_append_right _ (ih place))

theorem exists_holds_of_mem_walk (member : (location, entry) ∈ listing.walk place) :
    ∃ below, location = place ++ below ∧ listing.Holds below entry := by
  induction listing generalizing place with
  | nil => cases member
  | file name content rest ih =>
      rcases List.mem_cons.mp member with same | later
      · cases same
        exact ⟨_, rfl, .file⟩
      · obtain ⟨below, rfl, held⟩ := ih later
        exact ⟨below, rfl, .afterFile held⟩
  | directory name inner rest innerIH restIH =>
      rcases List.mem_cons.mp member with same | later
      · cases same
        exact ⟨_, rfl, .directory⟩
      · rcases List.mem_append.mp later with within | behind
        · obtain ⟨below, rfl, held⟩ := innerIH within
          exact ⟨name :: below, by simp, .inside held⟩
        · obtain ⟨below, rfl, held⟩ := restIH behind
          exact ⟨below, rfl, .afterDirectory held⟩

theorem holds_iff_mem_walk : listing.Holds place entry ↔ (place, entry) ∈ listing.walk [] := by
  constructor
  · intro held
    exact mem_walk_of_holds held []
  · intro member
    obtain ⟨below, rfl, held⟩ := exists_holds_of_mem_walk member
    exact held

/-- A place that is visited starts with a name that is listed. -/
theorem exists_name_of_mem_places (member : location ∈ (listing.walk place).map (·.1)) :
    ∃ name below, location = place ++ name :: below ∧ name ∈ listing.names := by
  obtain ⟨⟨_, entry⟩, visited, rfl⟩ := List.mem_map.mp member
  obtain ⟨below, same, held⟩ := exists_holds_of_mem_walk visited
  obtain ⟨name, deeper, rfl, listed⟩ := held.head
  exact ⟨name, deeper, same, listed⟩

theorem notMem_places {name : String} (fresh : name ∉ listing.names) (below : Location) :
    place ++ name :: below ∉ (listing.walk place).map (·.1) := by
  intro member
  obtain ⟨other, deeper, same, listed⟩ := exists_name_of_mem_places member
  cases List.append_cancel_left same
  exact fresh listed

theorem WellFormed.nodup_places (wellFormed : listing.WellFormed) (place : Location) :
    ((listing.walk place).map (·.1)).Nodup := by
  induction listing generalizing place with
  | nil => exact .nil
  | file name content rest ih =>
      exact List.nodup_cons.mpr ⟨notMem_places wellFormed.1 [], ih wellFormed.2 place⟩
  | directory name inner rest innerIH restIH =>
      obtain ⟨fresh, innerFormed, restFormed⟩ := wellFormed
      rw [walk, List.map_cons, List.map_append, List.nodup_cons, List.nodup_append]
      refine ⟨?_, innerIH innerFormed _, restIH restFormed place, ?_⟩
      · -- The directory itself is neither inside itself nor listed again.
        intro member
        rcases List.mem_append.mp member with within | behind
        · obtain ⟨deeper, below, same, _⟩ := exists_name_of_mem_places within
          simp at same
        · exact notMem_places fresh [] behind
      · intro first within second behind same
        obtain ⟨deeper, below, rfl, _⟩ := exists_name_of_mem_places within
        rw [← same, List.append_assoc] at behind
        exact notMem_places fresh _ behind

theorem SameTree.walk_perm (same : listing.SameTree other) (wellFormed : listing.WellFormed)
    (otherFormed : other.WellFormed) : (listing.walk []).Perm (other.walk []) := by
  apply (List.perm_ext_iff_of_nodup (wellFormed.nodup_places []).of_map (otherFormed.nodup_places []).of_map).mpr
  intro visited
  rw [← holds_iff_mem_walk, ← holds_iff_mem_walk, same]

theorem sameTree_of_perm (reordered : (listing.walk []).Perm (other.walk [])) : listing.SameTree other := by
  intro place entry
  rw [holds_iff_mem_walk, holds_iff_mem_walk, reordered.mem_iff]

end Listing

end ClassMetrics
