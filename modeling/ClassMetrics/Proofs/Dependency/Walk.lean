import ClassMetrics.Dependency.Graph
import Mathlib.Data.Fintype.Card
import Mathlib.Data.Set.Finite.Basic
import Mathlib.Logic.Relation

namespace ClassMetrics

def Leads (arcs : List Arc) (source target : String) : Prop :=
  ⟨source, target⟩ ∈ arcs

instance (arcs : List Arc) (source target : String) : Decidable (Leads arcs source target) :=
  inferInstanceAs (Decidable (⟨source, target⟩ ∈ arcs))

def Cyclic (arcs : List Arc) : Prop :=
  ∃ name, Relation.TransGen (Leads arcs) name name

theorem Cyclic.mono {fewer more : List Arc} (included : ∀ arc ∈ fewer, arc ∈ more)
    (cyclic : Cyclic fewer) : Cyclic more := by
  obtain ⟨name, walk⟩ := cyclic
  exact ⟨name, Relation.TransGen.mono (fun _ _ leads => included _ leads) _ _ walk⟩

theorem not_cyclic_of_rank {arcs : List Arc} (rank : String → Nat)
    (ascending : ∀ arc ∈ arcs, rank arc.source < rank arc.target) : ¬ Cyclic arcs := by
  rintro ⟨name, walk⟩
  have higher {source target : String} (walk : Relation.TransGen (Leads arcs) source target) :
      rank source < rank target := by
    induction walk with
    | single leads => exact ascending _ leads
    | tail _ leads ih => exact ih.trans (ascending _ leads)
  exact Nat.lt_irrefl _ (higher walk)

/-- Going on from name to name among finitely many must come to a name again. -/
theorem exists_closed_walk {step : String → String → Prop} {names : List String} {here : String → Prop}
    {first : String} (within : ∀ name, here name → name ∈ names) (start : here first)
    (onward : ∀ name, here name → ∃ next, here next ∧ step name next) :
    ∃ name, here name ∧ Relation.TransGen step name name := by
  by_contra noneClosed
  let Follows (later earlier : {name // here name}) : Prop :=
    Relation.TransGen step earlier.1 later.1
  have finite : Finite {name // here name} :=
    ((List.finite_toSet names).subset within).to_subtype
  have transitive : IsTrans _ Follows := ⟨fun _ _ _ later earlier => earlier.trans later⟩
  have irreflexive : Std.Irrefl Follows := ⟨fun name walk => noneClosed ⟨name.1, name.2, walk⟩⟩
  have wellFounded := Finite.wellFounded_of_trans_of_irrefl Follows
  have impossible (name : {name // here name}) : False := by
    induction name using wellFounded.induction with
    | _ name ih =>
        obtain ⟨next, stays, leads⟩ := onward name.1 name.2
        exact ih ⟨next, stays⟩ (.single leads)
  exact impossible ⟨first, start⟩

end ClassMetrics
