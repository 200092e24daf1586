import Dataflow.Proofs.Graph.Link
import Dataflow.Proofs.Graph.Sweep
import Dataflow.Proofs.Lists
import Dataflow.Proofs.Validation.Rules

/-!
# The topological order

The order of a graph, read off the sweep that ran dry. Whatever the graph looks like,
with parallel edges, edges that lead nowhere, edges from an id to itself and ids that
repeat, the order holds the ids that are neither on a cycle nor behind one, each once
and after all ids with a link into it. So validation reports a cycle when there is
one, or when ids repeat.
-/

namespace Dataflow.Graph

open Relation

variable {g : Graph} {u v id : String}

theorem mem_distinctIds : id ∈ g.distinctIds ↔ id ∈ g.ids := List.mem_eraseDups

theorem nodup_distinctIds (g : Graph) : g.distinctIds.Nodup := nodup_eraseDups g.ids

theorem links_closed (g : Graph) : ∀ e ∈ g.links, e.target ∈ g.distinctIds := by
  intro e link
  exact mem_distinctIds.mpr (mem_links.mp link).2.2

/-! ## The sweep of a graph -/

/-- The sweep of a graph when it has run dry. -/
def sweep (g : Graph) : Sweep :=
  Sweep.steps g.links g.distinctIds.length (Sweep.start g.distinctIds g.links)

theorem sweep_order (g : Graph) : g.sweep.order = g.order := rfl

theorem sweep_invariant (g : Graph) : Sweep.Invariant g.distinctIds g.links g.sweep :=
  (Sweep.invariant_start g.nodup_distinctIds g.links).steps g.links_closed _

/-- The sweep ends with nothing left to release. -/
theorem sweep_queue (g : Graph) : g.sweep.queue = [] := by
  refine (Sweep.invariant_start g.nodup_distinctIds g.links).steps_queue g.links_closed ?_
  exact Or.inr (Nat.le_add_left _ _)

/-! ## What the order holds -/

/-- No id is released twice. -/
theorem order_nodup (g : Graph) : g.order.Nodup := by
  have nodup := g.sweep_invariant.nodup
  rwa [sweep_queue, List.append_nil] at nodup

theorem mem_ids_of_mem_order (member : id ∈ g.order) : id ∈ g.ids :=
  mem_distinctIds.mp (g.sweep_invariant.known id (List.mem_append_left _ member))

/-- A link leads from an id to a later one. -/
theorem order_onward (link : g.Link u v) (member : v ∈ g.order) :
    u ∈ g.order ∧ g.order.idxOf u < g.order.idxOf v := by
  obtain ⟨e, linked, rfl, rfl⟩ := link_iff.mp link
  exact g.sweep_invariant.onward e linked member

/-- An id is in the order when all ids with a link into it are. -/
theorem mem_order_iff (inside : id ∈ g.ids) :
    id ∈ g.order ↔ ∀ u, g.Link u id → u ∈ g.order := by
  rw [← sweep_order, g.sweep_invariant.released_iff g.sweep_queue (mem_distinctIds.mpr inside)]
  constructor
  · rintro released u link
    obtain ⟨e, linked, rfl, target⟩ := link_iff.mp link
    exact released e linked target
  · rintro released e linked target
    exact released e.source (link_iff.mpr ⟨e, linked, rfl, target⟩)

/-- A path leads from an id to a later one. -/
theorem order_onward_path (path : TransGen g.Link u v) (member : v ∈ g.order) :
    u ∈ g.order ∧ g.order.idxOf u < g.order.idxOf v := by
  induction path using TransGen.head_induction_on with
  | single link => exact order_onward link member
  | head link _ ih =>
      obtain ⟨source, before⟩ := order_onward link ih.1
      exact ⟨source, before.trans ih.2⟩

/-- What lies behind a cycle is never released. -/
theorem not_mem_order_of_behindCycle (behind : g.BehindCycle id) : id ∉ g.order := by
  obtain ⟨c, loop, path⟩ := behind
  intro member
  have onCycle : c ∈ g.order := by
    rcases reflTransGen_iff_eq_or_transGen.mp path with rfl | path
    · exact member
    · exact (order_onward_path path member).1
  exact Nat.lt_irrefl _ (order_onward_path loop onCycle).2

/-- An id is missing from the order exactly when it lies on a cycle or behind one. -/
theorem not_mem_order_iff (inside : id ∈ g.ids) : id ∉ g.order ↔ g.BehindCycle id := by
  constructor
  · intro missing
    -- going back from a missing id there is always another missing one
    have back : ∀ x ∈ g.ids.filter (· ∉ g.order), ∃ y ∈ g.ids.filter (· ∉ g.order),
        g.Link y x := by
      intro x member
      obtain ⟨known, left⟩ := List.mem_filter.mp member
      have held := mt (mem_order_iff known).mpr (of_decide_eq_true left)
      push Not at held
      obtain ⟨y, link, missing⟩ := held
      exact ⟨y, List.mem_filter.mpr ⟨link.2.1, decide_eq_true missing⟩, link⟩
    obtain ⟨c, -, loop, path⟩ := exists_cycle_before back
      (List.mem_filter.mpr ⟨inside, decide_eq_true missing⟩)
    exact ⟨c, loop, path⟩
  · exact not_mem_order_of_behindCycle

/-! ## How long the order is -/

theorem order_subperm (g : Graph) : g.order.Subperm g.distinctIds :=
  g.order_nodup.subperm fun _ member => mem_distinctIds.mpr (mem_ids_of_mem_order member)

/-- The order holds every id exactly when there is no cycle. -/
theorem acyclic_iff_order : g.Acyclic ↔ ∀ id ∈ g.ids, id ∈ g.order := by
  constructor
  · intro acyclic id inside
    by_contra missing
    obtain ⟨c, loop, -⟩ := (not_mem_order_iff inside).mp missing
    exact acyclic c loop
  · intro complete id loop
    exact not_mem_order_of_behindCycle ⟨id, loop, .refl⟩ (complete id (mem_ids_of_path loop))

/-- The order is complete exactly when there is no cycle. -/
theorem length_order_eq_iff : g.order.length = g.distinctIds.length ↔ g.Acyclic := by
  rw [acyclic_iff_order]
  constructor
  · intro same id inside
    have perm := g.order_subperm.perm_of_length_le (by omega)
    exact perm.mem_iff.mpr (mem_distinctIds.mpr inside)
  · intro complete
    have back := (g.nodup_distinctIds.subperm
      fun _ member => complete _ (mem_distinctIds.mp member)).length_le
    have := g.order_subperm.length_le
    omega

/-- The order is as long as the list of nodes exactly when there is no cycle and ids
do not repeat. -/
theorem order_length_lt_iff :
    g.order.length < g.nodes.length ↔ ¬ g.Acyclic ∨ ¬ g.ids.Nodup := by
  have order_le := g.order_subperm.length_le
  have ids_le := length_eraseDups_le g.ids
  have nodes_eq : g.ids.length = g.nodes.length := List.length_map _
  rw [← length_order_eq_iff, ← length_eraseDups_eq_iff g.ids, distinctIds] at *
  omega

/-- What a topological order of a graph is: ids of nodes, none twice, every link leads
onward, and only ids on a cycle or behind one are left out. -/
structure IsTopological (g : Graph) (order : List String) : Prop where
  nodup : order.Nodup
  known : ∀ id ∈ order, id ∈ g.ids
  onward : ∀ u v, g.Link u v → v ∈ order → u ∈ order ∧ order.idxOf u < order.idxOf v
  missing : ∀ id ∈ g.ids, id ∉ order ↔ g.BehindCycle id

/-- The order of any graph is topological; the graph counts as acyclic exactly when it
has no cycle, and a report names a cycle exactly when there is one or ids repeat. -/
theorem order_isTopological (g : Graph) :
    g.IsTopological g.order ∧
    (g.isAcyclic = true ↔ ¬ ∃ id, TransGen g.Link id id) ∧
    ∀ m, (g.validate m).hasCode .graphCycle = true ↔
      (∃ id, TransGen g.Link id id) ∨ ¬ g.ids.Nodup := by
  refine ⟨⟨g.order_nodup, fun _ => mem_ids_of_mem_order, fun _ _ => order_onward,
    fun _ => not_mem_order_iff⟩, ?_, ?_⟩
  · rw [isAcyclic, beq_iff_eq, length_order_eq_iff, Acyclic, not_exists]
  · intro m
    rw [hasCode_cycle_iff, order_length_lt_iff, Acyclic, not_forall_not]

end Dataflow.Graph
