import Dataflow.Proofs.Graph.Diff
import Dataflow.Proofs.Graph.Link

/-!
# Tidy graphs

What tidying arrives at, said of a graph alone: a graph is tidy (`Graph.IsTidy`) when its edges
connect nodes and its nodes have the parameters of their types.

* **normal form**: every tidied graph is tidy (`tidied_isTidy`);
* **fixed points**: tidying leaves alone exactly the graphs that are tidy
  (`tidied_eq_self_iff`), and reports no repair on them;
* **frame**: whatever tidying does, nodes keep their places, ids, types and labels, edges
  their order, and a node that is held to no type is not touched.

Parameters that are absent become none without a repair being reported, so a graph that needs no
repair need not be tidy; after one pass it is.
-/

namespace Dataflow

/-! ## Nodes -/

namespace Node

variable {n : Node} {m : Manifest} {type : NodeType}

/-- What a node keeps in tidying. -/
structure Keeps (m : Manifest) (n n' : Node) : Prop where
  id_eq : n'.id = n.id
  type_eq : n'.type = n.type
  label_eq : n'.label? = n.label?
  /-- A marked node, or one of a type that is not in the manifest, keeps everything. -/
  exempt : n.isMarked = true ∨ m.contains n.type = false → n' = n

theorem tidy_label (n : Node) (m : Manifest) : (n.tidy m).label? = n.label? := by
  unfold tidy
  split <;> rfl

theorem keeps_tidy (n : Node) (m : Manifest) : Keeps m n (n.tidy m) where
  id_eq := n.tidy_id m
  type_eq := n.tidy_type m
  label_eq := n.tidy_label m
  exempt := fun exempt => tidy_of_none (Manifest.typeOf?_eq_none_iff.mpr exempt)

/-- A node is tidy when its parameters are there and have the declared names. -/
theorem tidy_eq_self_iff : n.tidy m = n ↔ ∀ type, m.typeOf? n = some type →
    ∃ params, n.params? = some params ∧ params.keys = type.defaults.keys := by
  constructor
  · intro same type typed
    refine ⟨mergedParams type.defaults n.params, ?_, keys_mergedParams⟩
    rw [tidy_of_some typed] at same
    exact (congrArg Node.params? same).symm
  · intro held
    cases typed : m.typeOf? n with
    | none => exact tidy_of_none typed
    | some type =>
        obtain ⟨params, given, names⟩ := held type typed
        have same : n.params = params := by rw [Node.params, given]; rfl
        -- given values go before defaults, so where the names agree all values are the given ones
        rw [tidy_of_some typed, same, mergedParams_eq_self names.symm, ← given]

/-- A tidied node that is held to a type was held to it before. It may be that it was, and is
no longer: where the defaults mark it as a placeholder. -/
theorem typeOf?_of_tidy (typed : m.typeOf? (n.tidy m) = some type) : m.typeOf? n = some type := by
  cases before : m.typeOf? n with
  | none =>
      rw [tidy_of_none before, before] at typed
      cases typed
  | some type' =>
      have held := (Manifest.typeOf?_eq_some_iff.mp typed).2
      rw [tidy_type, (Manifest.typeOf?_eq_some_iff.mp before).2] at held
      exact held

theorem tidy_tidy (n : Node) (m : Manifest) : (n.tidy m).tidy m = n.tidy m := by
  rw [tidy_eq_self_iff]
  intro type typed
  -- a tidied node that became a placeholder is not touched again; any other has its type still
  refine ⟨mergedParams type.defaults n.params, ?_, keys_mergedParams⟩
  rw [tidy_of_some (typeOf?_of_tidy typed)]

end Node

/-! ## Graphs -/

namespace Graph

variable {g : Graph} {m : Manifest}

/-- Every edge connects two nodes, and every node that is held to a type has the parameters
that the type has defaults for. -/
structure IsTidy (g : Graph) (m : Manifest) : Prop where
  connected : ∀ e ∈ g.edges, e.source ∈ g.ids ∧ e.target ∈ g.ids
  params : ∀ n ∈ g.nodes, ∀ type, m.typeOf? n = some type →
    ∃ params, n.params? = some params ∧ params.keys = type.defaults.keys

theorem IsTidy.node (tidy : g.IsTidy m) {n : Node} (member : n ∈ g.nodes) : n.tidy m = n :=
  Node.tidy_eq_self_iff.mpr (tidy.params n member)

/-- What comes of tidying is tidy. -/
theorem tidied_isTidy (g : Graph) (m : Manifest) : (g.tidied m).IsTidy m where
  connected := by
    intro e link
    rw [edges_tidied, mem_links] at link
    rw [ids_tidied]
    exact link.2
  params := by
    intro n' member
    obtain ⟨n, -, rfl⟩ := List.mem_map.mp member
    exact Node.tidy_eq_self_iff.mp (n.tidy_tidy m)

/-- The tidy graphs are those that tidying leaves as they are. -/
theorem tidied_eq_self_iff : g.tidied m = g ↔ g.IsTidy m := by
  constructor
  · intro same
    rw [← same]
    exact g.tidied_isTidy m
  · intro tidy
    have nodes : g.nodes.map (·.tidy m) = g.nodes.map id :=
      List.map_congr_left fun n member => tidy.node member
    show Graph.mk (g.nodes.map (·.tidy m)) g.links = g
    rw [nodes, List.map_id, links_eq_edges tidy.connected]

theorem IsTidy.fixes_eq_nil (tidy : g.IsTidy m) : g.fixes m = [] := by
  rw [fixes_eq_nil_iff, List.all_eq_true, changedParams, List.map_eq_nil_iff,
    List.filter_eq_nil_iff]
  constructor
  · -- no edge dangles
    intro e member
    obtain ⟨source, target⟩ := tidy.connected e member
    rw [connects, hasNode_iff.mpr source, hasNode_iff.mpr target, Bool.and_self]
  · -- and no parameters change
    intro n member
    rw [tidy.node member, bne, beq_self_eq_true, Bool.not_true]
    exact Bool.false_ne_true

/-- Tidying keeps every node in its place, with all it may keep. -/
theorem keeps_tidied (g : Graph) (m : Manifest) :
    List.Forall₂ (Node.Keeps m) g.nodes (g.tidied m).nodes := by
  rw [nodes_tidied, List.forall₂_map_right_iff, List.forall₂_same]
  exact fun n _ => n.keeps_tidy m

/-- One pass is enough. It leaves the edges that connect two nodes, in their order, and the
nodes in their places with all but their parameters; what it makes is tidy, so that a second
pass changes nothing and has no repair to report. -/
theorem tidy_idempotent (g : Graph) (m : Manifest) :
    let r := g.tidy m
    r.graph.tidy m = ⟨r.graph, []⟩ ∧ r.graph.IsTidy m ∧
    List.Forall₂ (Node.Keeps m) g.nodes r.graph.nodes ∧
    r.graph.edges = g.edges.filter fun e => e.source ∈ g.ids ∧ e.target ∈ g.ids := by
  intro r
  have tidy : r.graph.IsTidy m := g.tidied_isTidy m
  refine ⟨?_, tidy, g.keeps_tidied m, ?_⟩
  · show (⟨r.graph.tidied m, r.graph.fixes m⟩ : Tidied) = ⟨r.graph, []⟩
    rw [tidied_eq_self_iff.mpr tidy, tidy.fixes_eq_nil]
  · show g.links = _
    refine List.filter_congr fun e _ => ?_
    simp [connects, hasNode]

end Graph

end Dataflow
