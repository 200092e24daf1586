import Dataflow.Generation.Plan
import Dataflow.Proofs.Graph.Link
import Mathlib.Data.List.Zip

/-!
# Nodes in a row

A chain links each of its nodes to the next one. Where the ids differ, no edge leads into the
first node and one into every other (`incoming_first`, `incoming_of_next`), at most one leads out
of each (`outgoing_le_one`), the edges lead onward in the list, so that there is no cycle
(`chain_acyclic`), and the first node leads to all (`path_chain`).
-/

namespace Dataflow.Graph

open Relation

/-! ## Edges at an id -/

section

variable {g : Graph}

theorem length_incoming (g : Graph) (id : String) :
    (g.incoming id).length = (g.edges.map (·.target)).count id := by
  rw [incoming, List.count_eq_countP, List.countP_map, List.countP_eq_length_filter]
  rfl

theorem length_outgoing (g : Graph) (id : String) :
    (g.outgoing id).length = (g.edges.map (·.source)).count id := by
  rw [outgoing, List.count_eq_countP, List.countP_map, List.countP_eq_length_filter]
  rfl

/-- Where ids can be ranked so that every link leads upward, there is no cycle. -/
theorem acyclic_of_rank (rank : String → Nat) (upward : ∀ u v, g.Link u v → rank u < rank v) :
    g.Acyclic := by
  have higher : ∀ {u v}, TransGen g.Link u v → rank u < rank v := by
    intro u v path
    induction path with
    | single link => exact upward _ _ link
    | tail _ link ih => exact Nat.lt_trans ih (upward _ _ link)
  exact fun id loop => Nat.lt_irrefl _ (higher loop)

end

/-! ## Chains -/

variable {nodes rest : List Node} {first a b n : Node} {e : Edge} {id : String}

@[simp] theorem nodes_chain : (chain nodes).nodes = nodes := rfl

@[simp] theorem ids_chain : (chain nodes).ids = nodes.map (·.id) := rfl

/-- The edges of a chain lead from a node to the next. -/
theorem mem_edges_chain : e ∈ (chain nodes).edges ↔
    ∃ pair ∈ nodes.zip nodes.tail, Edge.between pair.1.id pair.2.id = e := List.mem_map

theorem fst_zip_tail {α : Type} (items : List α) :
    (items.zip items.tail).map Prod.fst = items.dropLast := by
  induction items with
  | nil => rfl
  | cons a rest ih =>
      cases rest with
      | nil => rfl
      | cons b rest => exact congrArg (a :: ·) ih

theorem snd_zip_tail {α : Type} (items : List α) :
    (items.zip items.tail).map Prod.snd = items.tail :=
  List.map_snd_zip (by simp)

/-- Every node of a chain but the last is the source of an edge. -/
theorem sources_chain : (chain nodes).edges.map (·.source) = nodes.dropLast.map (·.id) := by
  rw [← fst_zip_tail, chain, List.map_map, List.map_map]
  rfl

/-- Every node of a chain but the first is the target of an edge. -/
theorem targets_chain : (chain nodes).edges.map (·.target) = nodes.tail.map (·.id) := by
  rw [← snd_zip_tail, chain, List.map_map, List.map_map]
  rfl

theorem mem_of_zip_tail {pair : Node × Node} (next : pair ∈ nodes.zip nodes.tail) :
    pair.1 ∈ nodes ∧ pair.2 ∈ nodes := by
  obtain ⟨before, behind⟩ := List.of_mem_zip next
  exact ⟨before, List.mem_of_mem_tail behind⟩

/-- Every node behind the first has one before it. -/
theorem exists_before (member : b ∈ nodes.tail) : ∃ a, (a, b) ∈ nodes.zip nodes.tail := by
  rw [← snd_zip_tail] at member
  obtain ⟨⟨a, _⟩, next, rfl⟩ := List.mem_map.mp member
  exact ⟨a, next⟩

/-- Every node before the last has one behind it. -/
theorem exists_behind (member : a ∈ nodes.dropLast) : ∃ b, (a, b) ∈ nodes.zip nodes.tail := by
  rw [← fst_zip_tail] at member
  obtain ⟨⟨_, b⟩, next, rfl⟩ := List.mem_map.mp member
  exact ⟨b, next⟩

section

variable (distinct : (nodes.map (·.id)).Nodup)

include distinct

/-- The edges into a node of a chain: one if another node comes before it. -/
theorem incoming_of_next {pair : Node × Node} (next : pair ∈ nodes.zip nodes.tail) :
    ((chain nodes).incoming pair.2.id).length = 1 := by
  rw [length_incoming, targets_chain]
  refine List.count_eq_one_of_mem ?_ (List.mem_map_of_mem (List.of_mem_zip next).2)
  exact distinct.sublist ((List.tail_sublist nodes).map _)

theorem outgoing_le_one : ((chain nodes).outgoing id).length ≤ 1 := by
  rw [length_outgoing, sources_chain]
  exact List.nodup_iff_count_le_one.mp (distinct.sublist ((List.dropLast_sublist nodes).map _)) id

/-- A node with an edge out of it has another one behind it. -/
theorem exists_next_of_outgoing (member : n ∈ nodes)
    (some : 0 < ((chain nodes).outgoing n.id).length) : ∃ b, (n, b) ∈ nodes.zip nodes.tail := by
  rw [length_outgoing, sources_chain, List.count_pos_iff] at some
  obtain ⟨a, before, same⟩ := List.mem_map.mp some
  have inside := List.dropLast_subset nodes before
  exact exists_behind (List.inj_on_of_nodup_map distinct inside member same ▸ before)

/-- The ids of a chain stand in the order of its links. -/
theorem idxOf_lt_of_next {pair : Node × Node} (next : pair ∈ nodes.zip nodes.tail) :
    (nodes.map (·.id)).idxOf pair.1.id < (nodes.map (·.id)).idxOf pair.2.id := by
  induction nodes with
  | nil => cases next
  | cons a rest ih =>
      cases rest with
      | nil => cases next
      | cons b rest =>
          obtain ⟨fresh, distinct⟩ := List.nodup_cons.mp distinct
          have later : ∀ n ∈ b :: rest,
              ((a :: b :: rest).map (·.id)).idxOf n.id =
                ((b :: rest).map (·.id)).idxOf n.id + 1 := by
            intro n member
            refine List.idxOf_cons_ne _ fun same => fresh ?_
            exact same ▸ List.mem_map_of_mem member
          rcases List.mem_cons.mp next with rfl | next
          · rw [later b List.mem_cons_self, List.map_cons, List.idxOf_cons_self]
            exact Nat.succ_pos _
          · obtain ⟨before, behind⟩ := mem_of_zip_tail next
            rw [later _ before, later _ behind]
            exact Nat.succ_lt_succ (ih distinct next)

theorem chain_acyclic : (chain nodes).Acyclic := by
  refine acyclic_of_rank (nodes.map (·.id)).idxOf ?_
  rintro u v ⟨⟨e, member, rfl, rfl⟩, -, -⟩
  obtain ⟨pair, next, rfl⟩ := mem_edges_chain.mp member
  exact idxOf_lt_of_next distinct next

end

/-- The first node of a chain has nothing before it. -/
theorem incoming_first (distinct : ((first :: rest).map (·.id)).Nodup) :
    (chain (first :: rest)).incoming first.id = [] := by
  rw [← List.length_eq_zero_iff, length_incoming, targets_chain, List.count_eq_zero]
  exact (List.nodup_cons.mp distinct).1

theorem outgoing_of_next {pair : Node × Node} (next : pair ∈ nodes.zip nodes.tail) :
    0 < ((chain nodes).outgoing pair.1.id).length := by
  rw [length_outgoing, sources_chain, List.count_pos_iff, ← fst_zip_tail]
  exact List.mem_map_of_mem (List.mem_map_of_mem next)

/-- From the first node of a chain a path leads to each of its nodes. -/
theorem path_chain (member : n ∈ first :: rest) :
    ReflTransGen (chain (first :: rest)).Arc first.id n.id := by
  induction rest generalizing first with
  | nil =>
      rw [List.mem_singleton.mp member]
  | cons b rest ih =>
      rcases List.mem_cons.mp member with rfl | member
      · exact .refl
      · -- a chain has the edges of the chain behind its first node, and one more
        have edges : (chain (first :: b :: rest)).edges =
            .between first.id b.id :: (chain (b :: rest)).edges := rfl
        have step : (chain (first :: b :: rest)).Arc first.id b.id :=
          ⟨_, edges ▸ List.mem_cons_self, rfl, rfl⟩
        refine .head step (ReflTransGen.mono ?_ _ _ (ih member))
        rintro u v ⟨e, inside, source, target⟩
        exact ⟨e, edges ▸ List.mem_cons_of_mem _ inside, source, target⟩

end Dataflow.Graph
