namespace ClassMetrics

/-- The unordered pairs of entries of a list, those of the first entry first. -/
def pairs {α : Type} : List α → List (α × α)
  | [] => []
  | first :: rest => rest.map (fun second => (first, second)) ++ pairs rest

namespace Keyed

variable {α : Type}

/-- Puts an entry in its place; an equal key is replaced. -/
def insert (key : String) (value : α) : List (String × α) → List (String × α)
  | [] => [(key, value)]
  | (other, held) :: rest =>
      if key < other then (key, value) :: (other, held) :: rest
      else if key = other then (key, value) :: rest
      else (other, held) :: insert key value rest

/-- Of entries with equal keys the last one counts. -/
def ofList (entries : List (String × α)) : List (String × α) :=
  entries.foldl (fun placed entry => insert entry.1 entry.2 placed) []

def get? (key : String) (entries : List (String × α)) : Option α :=
  (entries.find? fun entry => entry.1 == key).map (·.2)

def erase (key : String) (entries : List (String × α)) : List (String × α) :=
  entries.filter fun entry => entry.1 != key

theorem get?_insert (key other : String) (value : α) (entries : List (String × α)) :
    get? other (insert key value entries) = if key = other then some value else get? other entries := by
  induction entries with
  | nil => by_cases same : key = other <;> simp [insert, get?, same]
  | cons entry rest ih =>
      obtain ⟨place, held⟩ := entry
      unfold insert
      split
      · by_cases same : key = other <;> simp [get?, same]
      · split
        · rename_i found
          subst found
          by_cases same : key = other <;> simp [get?, same]
        · rename_i found
          by_cases here : place = other
          · have later : key ≠ other := fun same => found (same.trans here.symm)
            simp [get?, here, later]
          · simpa [get?, here] using ih

theorem get?_erase (key other : String) (entries : List (String × α)) :
    get? other (erase key entries) = if key = other then none else get? other entries := by
  unfold get? erase
  rw [List.find?_filter]
  by_cases same : key = other
  · simp [same]
  · rw [if_neg same]
    congr 2
    funext entry
    by_cases here : entry.1 = other <;> simp [here, Ne.symm same]

end Keyed

end ClassMetrics
