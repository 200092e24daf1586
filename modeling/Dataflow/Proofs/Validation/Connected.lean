import Dataflow.Proofs.Graph.Reach
import Dataflow.Proofs.Validation.Placeholders
import Dataflow.Proofs.Validation.WellFormed

/-!
# Valid graphs are connected

Three rules that know nothing of each other work together: the rule on inputs, the rule on
cycles and the rule on connections. Going back from a node along its inputs, a graph without
cycles ends at a node that has none (`exists_root_before`). Where a type needs an input unless
graphs start from it (`Manifest.FedFromSources`), that node is a source. So a valid graph has
a path from a source to every node, sink or not (`validate_connected`), and is never reported
as disconnected.
-/

namespace Dataflow

open Relation

/-- Where every member of a finite set is a root or has a predecessor in the set, and there is
no cycle, every member lies behind a root. -/
theorem exists_root_before {α : Type} {r : α → α → Prop} {members : List α} {root : α → Prop}
    (acyclic : ∀ x, ¬ TransGen r x x)
    (pred : ∀ x ∈ members, root x ∨ ∃ y ∈ members, r y x) {x : α} (member : x ∈ members) :
    ∃ s ∈ members, root s ∧ ReflTransGen r s x := by
  classical
  by_contra none
  -- no predecessor of a member without a root behind it has one, so going back never ends
  let rootless := members.filter fun y => ¬ ∃ s ∈ members, root s ∧ ReflTransGen r s y
  have back : ∀ y ∈ rootless, ∃ z ∈ rootless, r z y := by
    intro y inside
    obtain ⟨inside, unreached⟩ := List.mem_filter.mp inside
    replace unreached := of_decide_eq_true unreached
    rcases pred y inside with isRoot | ⟨z, member', step⟩
    · exact absurd ⟨y, inside, isRoot, .refl⟩ unreached
    · refine ⟨z, List.mem_filter.mpr ⟨member', decide_eq_true ?_⟩, step⟩
      rintro ⟨s, inside', isRoot, path⟩
      exact unreached ⟨s, inside', isRoot, path.tail step⟩
  have start : x ∈ rootless := List.mem_filter.mpr ⟨member, decide_eq_true none⟩
  obtain ⟨c, -, loop, -⟩ := exists_cycle_before back start
  exact acyclic c loop

/-- A node type that a valid graph gives an input: it says so itself, or it takes several and
has a least number of them. -/
def NodeType.NeedsInput (t : NodeType) : Prop :=
  t.requiresInput = true ∨ (t.ports.mode = .multi ∨ t.ports.mode = .variadic) ∧ 1 ≤ t.minInputs

instance (t : NodeType) : Decidable t.NeedsInput := inferInstanceAs (Decidable (_ ∨ _))

/-- Of the types in a manifest, those from which no graph starts need an input. -/
def Manifest.FedFromSources (m : Manifest) : Prop :=
  ∀ name type, m.type? name = some type → type.isSource = true ∨ type.NeedsInput

instance (m : Manifest) : Decidable m.FedFromSources :=
  decidable_of_iff (∀ e ∈ m.types.entries, e.2.isSource = true ∨ e.2.NeedsInput)
    (Table.forall_mem_entries_iff (p := fun type : NodeType =>
      type.isSource = true ∨ type.NeedsInput))

namespace Graph

variable {g : Graph} {m : Manifest} {n : Node} {id : String}

/-- A node of a type from which graphs start. -/
def IsSource (g : Graph) (m : Manifest) (id : String) : Prop :=
  ∃ type, g.HasType m id type ∧ type.isSource = true

/-- A node that has inputs enough and needs one has an edge into it. -/
theorem exists_arc_of_needsInput {type : NodeType} (suffice : g.InputsSuffice n type)
    (needs : type.NeedsInput) : ∃ u, g.Arc u n.id := by
  have fed : 1 ≤ (g.incoming n.id).length := by
    rcases needs with required | ⟨several, least⟩
    · exact suffice.1 required
    · exact Nat.le_trans least (suffice.2 several)
  obtain ⟨e, member⟩ := List.exists_mem_of_length_pos fed
  obtain ⟨edge, target⟩ := List.mem_filter.mp member
  exact ⟨e.source, e, edge, rfl, eq_of_beq target⟩

/-- One step back: a node is a source or has an edge from another node. -/
theorem WellFormed.isSource_or_arc (wf : g.WellFormed m) (fed : m.FedFromSources)
    (inside : id ∈ g.ids) : g.IsSource m id ∨ ∃ u ∈ g.ids, g.Arc u id := by
  obtain ⟨n, member, rfl⟩ := List.mem_map.mp inside
  obtain ⟨type, held⟩ := (wf.typed n member).2.1
  rcases fed n.type type held with source | needs
  · exact Or.inl ⟨type, ⟨n, member, rfl, held⟩, source⟩
  · obtain ⟨u, e, edge, rfl, target⟩ :=
      exists_arc_of_needsInput (wf.inputs n member type held) needs
    exact Or.inr ⟨e.source, (wf.ended e edge).2.2.1, e, edge, rfl, target⟩

/-- Going back from a node of a well-formed graph ends in a source. -/
theorem WellFormed.exists_source_before (wf : g.WellFormed m) (fed : m.FedFromSources)
    (inside : id ∈ g.ids) : ∃ s ∈ g.ids, g.IsSource m s ∧ ReflTransGen g.Arc s id :=
  exists_root_before wf.acyclic (fun _ inside => wf.isSource_or_arc fed inside) inside

theorem WellFormed.mem_sources_iff (wf : g.WellFormed m) : id ∈ g.sources m ↔ g.IsSource m id := by
  simp only [sources, idsWhere, List.mem_map, List.mem_filter, Option.any_eq_true, IsSource,
    HasType]
  constructor
  · rintro ⟨n, ⟨member, type, held, source⟩, rfl⟩
    rw [typeOf?_eq (wf.typed n member).2.2] at held
    exact ⟨type, ⟨n, member, rfl, held⟩, source⟩
  · rintro ⟨type, ⟨n, member, rfl, held⟩, source⟩
    rw [← typeOf?_eq (wf.typed n member).2.2] at held
    exact ⟨n, ⟨member, type, held, source⟩, rfl⟩

theorem mem_ids_of_mem_sinks (member : id ∈ g.sinks m) : id ∈ g.ids := by
  obtain ⟨n, kept, rfl⟩ := List.mem_map.mp member
  exact List.mem_map_of_mem (List.mem_filter.mp kept).1

/-- The rule on connections is silent when paths from sources lead to all sinks. -/
theorem connectionIssues_eq_nil_iff : g.connectionIssues m = [] ↔
    ∀ id ∈ g.sinks m, ∃ s ∈ g.sources m, ReflTransGen g.Arc s id := by
  simp only [← mem_reachable_iff]
  unfold connectionIssues
  dsimp only
  split
  · rename_i all
    rw [List.filter_eq_nil_iff] at all
    simpa using all
  · rename_i missed
    refine iff_of_false (List.cons_ne_nil _ _) fun all => missed ?_
    rw [List.filter_eq_nil_iff]
    simpa using all

theorem hasCode_disconnected_iff :
    (g.validate m).hasCode .graphDisconnected = true ↔ g.connectionIssues m ≠ [] := by
  rw [← ofCodes_connection, hasCode_iff, ne_eq, List.eq_nil_iff_forall_not_mem, not_forall_not]
  simp only [mem_ofCodes, List.mem_singleton]

/-- Where every type that is no source needs an input, a valid graph is not reported as
disconnected: each of its nodes, sinks among them, lies on a path from a source. -/
theorem validate_connected (g : Graph) (m : Manifest) (fed : m.FedFromSources)
    (valid : (g.validate m).ok = true) :
    (g.validate m).hasCode .graphDisconnected = false ∧
    ∀ n ∈ g.nodes, ∃ s ∈ g.nodes, (∃ type, m.type? s.type = some type ∧ type.isSource = true) ∧
      ReflTransGen g.Arc s.id n.id := by
  obtain ⟨clean, unmarked⟩ := validate_ok_iff.mp valid
  have wf := wellFormed_of_clean clean unmarked
  constructor
  · rw [Bool.eq_false_iff, Ne, hasCode_disconnected_iff, not_not, connectionIssues_eq_nil_iff]
    intro id sink
    obtain ⟨s, -, source, path⟩ := wf.exists_source_before fed (mem_ids_of_mem_sinks sink)
    exact ⟨s, wf.mem_sources_iff.mpr source, path⟩
  · intro n member
    obtain ⟨_, -, ⟨type, ⟨s, inside, rfl, held⟩, source⟩, path⟩ :=
      wf.exists_source_before fed (List.mem_map_of_mem member)
    exact ⟨s, inside, ⟨type, held, source⟩, path⟩

/-! ## Two branches that meet -/

namespace Meeting

/-- A source, a type with one input, and a sink that takes any number of inputs from two on. -/
def manifest : Manifest where
  types := .ofList [
    ("camera", { category := "Input", ports := { output := "image" } }),
    ("crop", {
      requiresInput := true
      ports := { inputs := [{ kind := "image" }], output := "image" } }),
    ("wall", {
      outputs? := some 0
      ports := { inputs := [{ kind := "image" }], mode := .variadic, minInputs? := some 2 } })]

def graph : Graph where
  nodes := [{ id := "wall1", type := "wall" }, { id := "crop1", type := "crop" },
    { id := "camera1", type := "camera" }]
  edges := [.between "crop1" "wall1", .between "camera1" "wall1", .between "camera1" "crop1"]

theorem validate_connected_meeting :
    (manifest.FedFromSources ∧ (graph.validate manifest).ok = true) ∧
    (graph.validate manifest).hasCode .graphDisconnected = false ∧
    ∃ s ∈ graph.nodes, (∃ type, manifest.type? s.type = some type ∧ type.isSource = true) ∧
      ReflTransGen graph.Arc s.id "wall1" := by
  have fed : manifest.FedFromSources := by decide
  have valid : (graph.validate manifest).ok = true := by decide +kernel
  obtain ⟨connected, sources⟩ := validate_connected graph manifest fed valid
  exact ⟨⟨fed, valid⟩, connected, sources _ List.mem_cons_self⟩

end Meeting

end Graph

end Dataflow
