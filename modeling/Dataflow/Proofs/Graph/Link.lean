import Dataflow.Graph.Basic
import Dataflow.Graph.Traversal
import Mathlib.Data.Fintype.Card
import Mathlib.Data.List.Nodup
import Mathlib.Data.Set.Finite.List
import Mathlib.Logic.Relation
import Mathlib.Order.WellFounded

/-!
# Links, cycles and what lies behind them

The edges of a graph as relations between ids. An *arc* is any edge; a *link* is an
edge whose two ends are ids of nodes. Paths are the closures of these relations, so
a cycle is a path of at least one link from an id to itself, and an edge from an id
to itself is one.

`exists_cycle_before` is the combinatorial core: going back along a relation inside
a finite set, without ever getting stuck, runs into a cycle.
-/

namespace Dataflow

/-!
## Ids and the nodes that have them

Looking up an id finds a node of that id. Where ids do not repeat it finds the node, so
look-up and membership say the same (`node?_eq_some`).
-/

namespace Graph

variable {g : Graph} {n : Node} {id : String}

theorem hasNode_iff : g.hasNode id = true ↔ id ∈ g.ids := by
  simp [hasNode]

theorem mem_of_node? (found : g.node? id = some n) : n ∈ g.nodes ∧ n.id = id := by
  rw [node?] at found
  have same := List.find?_some found
  exact ⟨List.mem_of_find?_eq_some found, eq_of_beq same⟩

theorem node?_eq_none_iff : g.node? id = none ↔ id ∉ g.ids := by
  simp [node?, ids]

theorem exists_node? (inside : id ∈ g.ids) : ∃ n, g.node? id = some n := by
  cases found : g.node? id with
  | none => exact absurd inside (node?_eq_none_iff.mp found)
  | some n => exact ⟨n, rfl⟩

/-- Where ids are distinct, looking a node up by its id finds it. -/
theorem node?_eq_some (distinct : g.ids.Nodup) (member : n ∈ g.nodes) :
    g.node? n.id = some n := by
  obtain ⟨first, found⟩ := exists_node? (List.mem_map_of_mem member)
  obtain ⟨inside, same⟩ := mem_of_node? found
  rw [found, List.inj_on_of_nodup_map distinct inside member same]

end Graph

/-! ## Links -/

open Relation

/-- Where every member of a finite set has a predecessor in the set, there is a cycle
before every member. -/
theorem exists_cycle_before {α : Type} {r : α → α → Prop} {members : List α}
    (pred : ∀ x ∈ members, ∃ y ∈ members, r y x) {x : α} (member : x ∈ members) :
    ∃ c ∈ members, TransGen r c c ∧ ReflTransGen r c x := by
  by_contra acyclic
  -- without a cycle, going back is well founded on the members before `x`
  let before := { y : α // y ∈ members ∧ ReflTransGen r y x }
  have : Finite before := Set.Finite.subset members.finite_toSet fun _ h => h.1
  have : IsTrans before (fun a b => TransGen r a.1 b.1) := ⟨fun _ _ _ => TransGen.trans⟩
  have : Std.Irrefl (fun a b : before => TransGen r a.1 b.1) :=
    ⟨fun a loop => acyclic ⟨a.1, a.2.1, loop, a.2.2⟩⟩
  have wellFounded := Finite.wellFounded_of_trans_of_irrefl
    (fun a b : before => TransGen r a.1 b.1)
  obtain ⟨first, -, least⟩ := wellFounded.has_min Set.univ ⟨⟨x, member, .refl⟩, trivial⟩
  obtain ⟨y, inside, step⟩ := pred first.1 first.2.1
  exact least ⟨y, inside, .head step first.2.2⟩ trivial (.single step)

namespace Graph

variable {g : Graph} {u v id : String}

/-- Some edge leads from one id to another. -/
def Arc (g : Graph) (u v : String) : Prop := ∃ e ∈ g.edges, e.source = u ∧ e.target = v

/-- Some edge leads from one id to another, and both are ids of nodes. -/
def Link (g : Graph) (u v : String) : Prop := g.Arc u v ∧ u ∈ g.ids ∧ v ∈ g.ids

/-- An id lies on a cycle or behind one. -/
def BehindCycle (g : Graph) (id : String) : Prop :=
  ∃ c, TransGen g.Link c c ∧ ReflTransGen g.Link c id

/-- No path of links leads back to where it starts. -/
def Acyclic (g : Graph) : Prop := ∀ id, ¬ TransGen g.Link id id

/-- The links are the edges between nodes of the graph. -/
theorem mem_links {e : Edge} :
    e ∈ g.links ↔ e ∈ g.edges ∧ e.source ∈ g.ids ∧ e.target ∈ g.ids := by
  simp [links, connects, hasNode_iff]

theorem link_iff : g.Link u v ↔ ∃ e ∈ g.links, e.source = u ∧ e.target = v := by
  constructor
  · rintro ⟨⟨e, member, rfl, rfl⟩, source, target⟩
    exact ⟨e, mem_links.mpr ⟨member, source, target⟩, rfl, rfl⟩
  · rintro ⟨e, member, rfl, rfl⟩
    obtain ⟨edge, source, target⟩ := mem_links.mp member
    exact ⟨⟨e, edge, rfl, rfl⟩, source, target⟩

/-- Where every edge ends at ids of nodes, arcs are links. -/
theorem link_eq_arc (closed : ∀ e ∈ g.edges, e.source ∈ g.ids ∧ e.target ∈ g.ids) :
    g.Link = g.Arc := by
  funext u v
  apply propext
  constructor
  · exact And.left
  · rintro ⟨e, member, rfl, rfl⟩
    exact ⟨⟨e, member, rfl, rfl⟩, closed e member⟩

theorem mem_ids_of_path (path : TransGen g.Link u v) : u ∈ g.ids := by
  induction path using TransGen.head_induction_on with
  | single link => exact link.2.1
  | head link _ _ => exact link.2.1

end Graph

end Dataflow
