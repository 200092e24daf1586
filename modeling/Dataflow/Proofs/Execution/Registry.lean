import Dataflow.Execution
import Dataflow.Proofs.Table

/-!
# Registered executors

Which types of a graph a registry lacks, and what a sequence of registrations leaves: for
every type the executor that was registered last (`executor?_of_last`), whatever was called
in between.
-/

namespace Dataflow

namespace Registry

variable {g : Graph} {registry : Registry} {type : String}

/-- The missing types are those of nodes for which no executor is registered. -/
theorem mem_missing :
    type ∈ registry.missing g ↔ (∃ n ∈ g.nodes, n.type = type) ∧ registry.has type = false := by
  simp [missing, Table.mem_sortedNames]

theorem missing_eq_nil_iff :
    registry.missing g = [] ↔ ∀ n ∈ g.nodes, registry.has n.type = true := by
  rw [List.eq_nil_iff_forall_not_mem]
  constructor
  · intro none n member
    by_contra lacking
    exact none n.type (mem_missing.mpr ⟨⟨n, member, rfl⟩, Bool.eq_false_iff.mpr lacking⟩)
  · intro all type lacking
    obtain ⟨⟨n, member, rfl⟩, lacking⟩ := mem_missing.mp lacking
    rw [all n member] at lacking
    cases lacking

/-- The first missing type is the least. -/
theorem head_missing_le {rest : List String} (first : registry.missing g = type :: rest) :
    ∀ other ∈ registry.missing g, type ≤ other := by
  intro other member
  have ascending : (registry.missing g).Pairwise (· < ·) := Table.sortedNames_ascending _
  rw [first] at member ascending
  rcases List.mem_cons.mp member with rfl | later
  · exact String.le_refl other
  · exact String.not_lt.mp (String.lt_asymm ((List.pairwise_cons.mp ascending).1 other later))

theorem has_iff : registry.has type = true ↔ ∃ executor, registry.executor? type = some executor :=
  Option.isSome_iff_exists

end Registry

namespace Registrations

variable {r : Registrations} {made : List Context} {type : String} {executor : HistoryExecutor}

/-- The executor was registered for the type, and none was later. -/
def Last (r : Registrations) (type : String) (executor : HistoryExecutor) : Prop :=
  ∃ before after, r = before ++ (type, executor) :: after ∧ ∀ e ∈ after, e.1 ≠ type

theorem executors_registry (r : Registrations) (made : List Context) :
    (r.registry made).executors = Table.ofList (r.map fun e => (e.1, e.2 made)) := by
  rw [Table.ofList, List.foldl_map]
  exact (List.foldl_hom Registry.executors fun _ _ => rfl).symm

/-- An executor is at hand for exactly the types that were registered. -/
theorem has_registry_iff : (r.registry made).has type = true ↔ type ∈ r.types := by
  rw [Registry.has, Registry.executor?, executors_registry]
  refine Table.contains_iff_mem.trans ?_
  rw [Table.mem_keys_ofList, List.map_map]
  rfl

/-- A registered type has a last registration, which is the one that counts. -/
theorem exists_last (known : type ∈ r.types) : ∃ executor, r.Last type executor := by
  induction r with
  | nil => cases known
  | cons e rest ih =>
      by_cases later : type ∈ types rest
      · obtain ⟨executor, before, after, rfl, others⟩ := ih later
        exact ⟨executor, e :: before, after, rfl, others⟩
      · obtain rfl : type = e.1 := (List.mem_cons.mp known).resolve_right later
        refine ⟨e.2, [], rest, rfl, fun other member same => later ?_⟩
        exact same ▸ List.mem_map_of_mem member

/-- Whatever was called before, the executor of a type is the one that was registered last. -/
theorem executor?_of_last (last : r.Last type executor) (made : List Context) :
    (r.registry made).executor? type = some (executor made) := by
  obtain ⟨before, after, rfl, others⟩ := last
  rw [Registry.executor?, executors_registry, Table.get?_ofList, List.lookup_eq_some_iff]
  refine ⟨(after.map fun e => (e.1, e.2 made)).reverse,
    (before.map fun e => (e.1, e.2 made)).reverse, by simp, fun p member => ?_⟩
  obtain ⟨e, among, rfl⟩ := List.mem_map.mp (List.mem_reverse.mp member)
  exact bne_iff_ne.mpr (others e among).symm

end Registrations

end Dataflow
