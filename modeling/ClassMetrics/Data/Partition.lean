namespace ClassMetrics

structure Partition (α : Type) where
  assignments : List (α × α)
deriving Repr

namespace Partition

variable {α : Type} [DecidableEq α]

/-- Every member in a set of its own. -/
def discrete (members : List α) : Partition α :=
  ⟨members.map fun member => (member, member)⟩

def representative? (partition : Partition α) (member : α) : Option α :=
  (partition.assignments.find? fun assignment => assignment.1 = member).map (·.2)

def unite (partition : Partition α) (first second : α) : Partition α :=
  match partition.representative? first, partition.representative? second with
  | some kept, some dropped =>
      ⟨partition.assignments.map fun (member, representative) =>
        (member, if representative = dropped then kept else representative)⟩
  | _, _ => partition

/-- The number of sets. -/
def count (partition : Partition α) : Nat :=
  (partition.assignments.map (·.2)).eraseDups.length

/-- The sets that the given links leave apart. -/
def ofLinks (members : List α) (links : List (α × α)) : Partition α :=
  links.foldl (fun partition link => partition.unite link.1 link.2) (discrete members)

end Partition

end ClassMetrics
