import Dataflow.Graph.Tidy
import Dataflow.Graph.Traversal
import Dataflow.Proofs.Graph.Link
import Dataflow.Proofs.Json.Equality
import Dataflow.Proofs.Table

/-!
# What tidying keeps

Tidying changes parameters of nodes and drops dangling edges; ids, types and labels stay as
they were, so whatever is read off those stays too: which ids there are, which edges connect
two nodes, and with them the topological order.

Parameters merged with defaults have the names of the defaults. They are the parameters that
were there exactly when those had these names already (`mergedParams_beq_iff`), so that a
change in tidying is always a change of names.
-/

namespace Dataflow

/-! ## Merged parameters -/

section

variable {defaults params : Params} {name : String}

@[simp] theorem keys_mergedParams : (mergedParams defaults params).keys = defaults.keys :=
  Table.keys_map _ _

/-- Each name the type declares has its own value, or the default where there is none. -/
theorem get?_mergedParams : (mergedParams defaults params).get? name =
    (defaults.get? name).map fun value => (params.get? name).getD value :=
  Table.get?_map _ _ _

/-- Parameters that have the declared names are kept as they are. -/
theorem mergedParams_eq_self (same : defaults.keys = params.keys) :
    mergedParams defaults params = params := by
  apply Table.eq_of_get?
  intro name
  rw [get?_mergedParams]
  cases default : defaults.get? name with
  | none =>
      rw [Table.get?_eq_none_iff, same, ← Table.get?_eq_none_iff] at default
      rw [default]
      rfl
  | some value =>
      have named : name ∈ params.keys := by
        rw [← same, ← Table.contains_iff_mem, Table.contains, default]
        rfl
      obtain ⟨held, found⟩ := Table.contains_iff.mp (Table.contains_iff_mem.mpr named)
      rw [found]
      rfl

/-- Merging leaves parameters as they are when they have the names of the defaults. -/
theorem mergedParams_beq_iff :
    (mergedParams defaults params == params) = true ↔ defaults.keys = params.keys := by
  constructor
  · intro same
    rw [← Table.keys_eq_of_beq same, keys_mergedParams]
  · intro same
    rw [mergedParams_eq_self same]
    exact beq_self_eq_true params

end

/-! ## Nodes -/

/-- A node is held to the type of its name unless it is marked. -/
theorem Manifest.typeOf?_eq_some_iff {m : Manifest} {n : Node} {type : NodeType} :
    m.typeOf? n = some type ↔ n.isMarked = false ∧ m.type? n.type = some type := by
  unfold typeOf?
  cases n.isMarked <;> simp

/-- A node is held to no type when it is marked or its type is unknown. -/
theorem Manifest.typeOf?_eq_none_iff {m : Manifest} {n : Node} :
    m.typeOf? n = none ↔ n.isMarked = true ∨ m.contains n.type = false := by
  unfold typeOf? contains Table.contains type?
  cases n.isMarked <;> simp

namespace Node

variable {n : Node} {m : Manifest} {type : NodeType}

theorem tidy_of_none (untyped : m.typeOf? n = none) : n.tidy m = n := by
  rw [tidy, untyped]

theorem tidy_of_some (typed : m.typeOf? n = some type) :
    n.tidy m = { n with params? := some (mergedParams type.defaults n.params) } := by
  rw [tidy, typed]

theorem params_tidy (typed : m.typeOf? n = some type) :
    (n.tidy m).params = mergedParams type.defaults n.params := by
  rw [tidy_of_some typed]
  rfl

@[simp] theorem tidy_id (n : Node) (m : Manifest) : (n.tidy m).id = n.id := by
  unfold tidy
  split <;> rfl

@[simp] theorem tidy_type (n : Node) (m : Manifest) : (n.tidy m).type = n.type := by
  unfold tidy
  split <;> rfl

/-- Tidying changes the parameters of nodes of a known type whose parameters are not named
as those of the type, and of no others. -/
theorem params_tidy_beq_iff : ((n.tidy m).params == n.params) = true ↔
    ∀ type, m.typeOf? n = some type → type.defaults.keys = n.params.keys := by
  cases typed : m.typeOf? n with
  | none => simp [tidy_of_none typed]
  | some type =>
      rw [params_tidy typed, mergedParams_beq_iff]
      simp

end Node

/-! ## Graphs -/

namespace Graph

variable (g : Graph) (m : Manifest)

@[simp] theorem ids_tidied : (g.tidied m).ids = g.ids := by
  simp [tidied, ids, Function.comp_def]

@[simp] theorem distinctIds_tidied : (g.tidied m).distinctIds = g.distinctIds := by
  rw [distinctIds, distinctIds, ids_tidied]

@[simp] theorem hasNode_tidied : (g.tidied m).hasNode = g.hasNode := by
  funext id
  rw [hasNode, hasNode, ids_tidied]

@[simp] theorem connects_tidied : (g.tidied m).connects = g.connects := by
  funext e
  rw [connects, connects, hasNode_tidied]

theorem nodes_tidied : (g.tidied m).nodes = g.nodes.map (·.tidy m) := rfl

/-- What is left of the edges is the links. -/
@[simp] theorem edges_tidied : (g.tidied m).edges = g.links := rfl

/-- Tidying changes no link: what it removes dangles. -/
@[simp] theorem links_tidied : (g.tidied m).links = g.links := by
  rw [links, connects_tidied, edges_tidied, links, List.filter_filter]
  simp only [Bool.and_self]

/-- The tidied graph has the same order. -/
theorem order_tidied : (g.tidied m).order = g.order := by
  rw [order, order, distinctIds_tidied, links_tidied]

theorem isAcyclic_tidied : (g.tidied m).isAcyclic = g.isAcyclic := by
  rw [isAcyclic, isAcyclic, order_tidied, distinctIds_tidied]

theorem node?_tidied (id : String) :
    (g.tidied m).node? id = (g.node? id).map (·.tidy m) := by
  rw [node?, node?, nodes_tidied, List.find?_map]
  simp only [Function.comp_def, Node.tidy_id]

variable {g}

theorem links_eq_edges (closed : ∀ e ∈ g.edges, e.source ∈ g.ids ∧ e.target ∈ g.ids) :
    g.links = g.edges := by
  refine List.filter_eq_self.mpr fun e member => ?_
  obtain ⟨source, target⟩ := closed e member
  rw [connects, hasNode_iff.mpr source, hasNode_iff.mpr target, Bool.and_self]

end Graph

end Dataflow
