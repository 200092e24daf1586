import Dataflow.Planning.Payload
import Mathlib.Data.List.Forall2

/-!
# Graphs under present names

A graph is up to date when no node goes by a former name of its type. Replacing a list of
aliases leaves none of their former names, as long as none of them gives a former name as the
present one; the list in use is of that kind, so `updated` brings every graph up to date and
leaves a graph alone that is. It renames types and does nothing else (`updatesTo_updated`).
-/

namespace Dataflow

/-- The node, or the node under the present name of its type where it went by the former one. -/
def Node.RenamedBy (table : List Alias) (n n' : Node) : Prop :=
  n' = n ∨ ∃ a ∈ table, n.type = a.legacy ∧ n' = { n with type := a.current }

namespace Graph

variable {g : Graph} {table : List Alias}

/-- No node goes by a former name of its type. -/
def IsUpToDate (g : Graph) : Prop := ∀ n ∈ g.nodes, ∀ a ∈ aliases, n.type ≠ a.legacy

/-- A name that no alias of a list introduces does not come up when they are replaced. -/
theorem renameAll_avoids {name : String} (others : ∀ a ∈ table, a.current ≠ name)
    (avoids : ∀ n ∈ g.nodes, n.type ≠ name) : ∀ n ∈ (g.renameAll table).nodes, n.type ≠ name := by
  induction table generalizing g with
  | nil => exact avoids
  | cons a rest ih =>
      obtain ⟨other, others⟩ := List.forall_mem_cons.mp others
      apply ih others
      intro n member
      obtain ⟨n, known, rfl⟩ := List.mem_map.mp member
      unfold Alias.rename
      split
      · exact other
      · exact avoids n known

/-- No former name is left once the aliases of a list are replaced. -/
theorem renameAll_settles (settled : ∀ a ∈ table, ∀ b ∈ table, a.current ≠ b.legacy) :
    ∀ n ∈ (g.renameAll table).nodes, ∀ a ∈ table, n.type ≠ a.legacy := by
  induction table generalizing g with
  | nil => simp
  | cons a rest ih =>
      intro n member b listed
      rcases List.mem_cons.mp listed with rfl | later
      · -- the first alias is gone after its own step, and the others do not bring it back
        refine renameAll_avoids (fun c among => settled c (List.mem_cons_of_mem _ among) b
          List.mem_cons_self) ?_ n member
        intro n member
        obtain ⟨n, -, rfl⟩ := List.mem_map.mp member
        unfold Alias.rename
        split
        · exact settled b List.mem_cons_self b List.mem_cons_self
        · assumption
      · have rest_settled : ∀ c ∈ rest, ∀ d ∈ rest, c.current ≠ d.legacy := fun c hc d hd =>
          settled c (List.mem_cons_of_mem _ hc) d (List.mem_cons_of_mem _ hd)
        exact ih rest_settled n member b later

/-- A graph without former names is left alone. -/
theorem renameAll_eq_self (none : ∀ n ∈ g.nodes, ∀ a ∈ table, n.type ≠ a.legacy) :
    g.renameAll table = g := by
  induction table with
  | nil => rfl
  | cons a rest ih =>
      have same : g.rename a = g := by
        have kept : ∀ n ∈ g.nodes, a.rename n = id n := fun n member =>
          if_neg (none n member a List.mem_cons_self)
        rw [rename, List.map_congr_left kept, List.map_id]
      show (g.rename a).renameAll rest = g
      rw [same]
      exact ih fun n member b later => none n member b (List.mem_cons_of_mem _ later)

/-- No present name is a former one. -/
theorem aliases_settled : ∀ a ∈ aliases, ∀ b ∈ aliases, a.current ≠ b.legacy := by decide

theorem updated_isUpToDate (g : Graph) : g.updated.IsUpToDate := renameAll_settles aliases_settled

/-- The graphs that updating leaves as they are, are the ones up to date. -/
theorem updated_eq_self_iff : g.updated = g ↔ g.IsUpToDate := by
  constructor
  · intro same
    rw [← same]
    exact g.updated_isUpToDate
  · exact renameAll_eq_self

/-! ## What becomes of a graph -/

/-- The edges, and node by node the nodes up to the names of their types. -/
structure UpdatesTo (g g' : Graph) : Prop where
  nodes : List.Forall₂ (Node.RenamedBy aliases) g.nodes g'.nodes
  edges : g'.edges = g.edges

theorem UpdatesTo.refl (g : Graph) : g.UpdatesTo g :=
  ⟨List.forall₂_same.mpr fun _ _ => Or.inl rfl, rfl⟩

theorem renameAll_edges (g : Graph) (table : List Alias) :
    (g.renameAll table).edges = g.edges := by
  induction table generalizing g with
  | nil => rfl
  | cons a rest ih => exact ih (g.rename a)

/-- Every node is renamed by the table, or left alone, in its place. -/
theorem renameAll_renamedBy (settled : ∀ a ∈ table, ∀ b ∈ table, a.current ≠ b.legacy) :
    List.Forall₂ (Node.RenamedBy table) g.nodes (g.renameAll table).nodes := by
  induction table generalizing g with
  | nil => exact List.forall₂_same.mpr fun _ _ => Or.inl rfl
  | cons a rest ih =>
      have onward : List.Forall₂ (Node.RenamedBy rest) (g.rename a).nodes
          ((g.rename a).renameAll rest).nodes :=
        ih fun c hc d hd => settled c (List.mem_cons_of_mem _ hc) d (List.mem_cons_of_mem _ hd)
      rw [rename, List.forall₂_map_left_iff] at onward
      refine onward.imp fun n n' renamed => ?_
      by_cases here : n.type = a.legacy
      · rw [Alias.rename, if_pos here] at renamed
        rcases renamed with rfl | ⟨b, later, again, -⟩
        · exact Or.inr ⟨a, List.mem_cons_self, here, rfl⟩
        · -- a present name is no former one, so a node is renamed once
          exact absurd again (settled a List.mem_cons_self b (List.mem_cons_of_mem _ later))
      · rw [Alias.rename, if_neg here] at renamed
        rcases renamed with rfl | ⟨b, later, here, made⟩
        · exact Or.inl rfl
        · exact Or.inr ⟨b, List.mem_cons_of_mem _ later, here, made⟩

theorem updatesTo_updated (g : Graph) : g.UpdatesTo g.updated :=
  ⟨renameAll_renamedBy aliases_settled, g.renameAll_edges aliases⟩

end Graph

end Dataflow
