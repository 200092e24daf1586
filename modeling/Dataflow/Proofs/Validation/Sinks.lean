import Dataflow.Proofs.Validation.Connected

/-!
# Sinks behind placeholders and behind sources

Two rules follow edges: one goes back from every sink in search of a placeholder, the other goes
onward from all sources. What they report is said here by paths alone. A sink is blocked when a
path leads to it from a placeholder (`Graph.Blocked`), and fed when one leads to it from a source
(`Graph.Fed`); on such a path may lie cycles, repeated ids, and ids that no node has. The blocked
sinks of a report are the blocked ones (`validate_blockedSinks`), and its one warning on
connections names those that are not fed (`validate_disconnected`), node by node in both cases.
Both walks end within as many steps as there are edges and ids to start from.
-/

namespace Dataflow

open Relation

/-- The node is held to a type with a property. -/
def Node.HeldTo (m : Manifest) (property : NodeType → Bool) (n : Node) : Prop :=
  ∃ type, m.typeOf? n = some type ∧ property type = true

instance (m : Manifest) (property : NodeType → Bool) (n : Node) :
    Decidable (n.HeldTo m property) :=
  decidable_of_iff ((m.typeOf? n).any property = true) (Option.any_eq_true ..)

namespace Graph

variable {g : Graph} {m : Manifest} {id : String}

theorem idsWhere_eq (g : Graph) (m : Manifest) (property : NodeType → Bool) :
    g.idsWhere m property = (g.nodes.filter fun n => n.HeldTo m property).map (·.id) := by
  refine congrArg (List.map _) (List.filter_congr fun n _ => ?_)
  rw [Bool.eq_iff_iff, decide_eq_true_iff]
  exact Option.any_eq_true ..

/-- A path of edges leads from a placeholder to the id. -/
def Blocked (g : Graph) (m : Manifest) (id : String) : Prop :=
  ∃ p ∈ g.nodes, m.isPlaceholder p = true ∧ ReflTransGen g.Arc p.id id

/-- A path of edges leads from a source to the id. -/
def Fed (g : Graph) (m : Manifest) (id : String) : Prop :=
  ∃ s ∈ g.nodes, s.HeldTo m NodeType.isSource ∧ ReflTransGen g.Arc s.id id

/-- Going back from an id, a placeholder is met when it is blocked. -/
theorem comesFrom_placeholder_iff :
    g.comesFrom (((g.placeholders m).map (·.id)).contains ·) id = true ↔ g.Blocked m id := by
  simp only [comesFrom_iff, List.contains_iff_mem, placeholders, List.mem_map, List.mem_filter,
    Blocked]
  constructor
  · rintro ⟨_, ⟨p, ⟨member, placeholder⟩, rfl⟩, path⟩
    exact ⟨p, member, placeholder, path⟩
  · rintro ⟨p, member, placeholder, path⟩
    exact ⟨p.id, ⟨p, ⟨member, placeholder⟩, rfl⟩, path⟩

/-- Going onward from the sources, the ids that are fed are reached. -/
theorem mem_reachable_sources_iff : id ∈ g.reachable (g.sources m) ↔ g.Fed m id := by
  simp only [mem_reachable_iff, sources, idsWhere_eq, List.mem_map, List.mem_filter,
    decide_eq_true_eq, Fed]
  constructor
  · rintro ⟨_, ⟨s, ⟨member, source⟩, rfl⟩, path⟩
    exact ⟨s, member, source, path⟩
  · rintro ⟨s, member, source, path⟩
    exact ⟨s.id, ⟨s, ⟨member, source⟩, rfl⟩, path⟩

instance : Decidable (g.Blocked m id) := decidable_of_iff _ comesFrom_placeholder_iff

instance : Decidable (g.Fed m id) := decidable_of_iff _ mem_reachable_sources_iff

/-- The sinks with a property of their ids, by the nodes that have them. -/
theorem filter_sinks {kept : String → Bool} {property : String → Prop} [DecidablePred property]
    (same : ∀ id, kept id = true ↔ property id) : (g.sinks m).filter kept =
      (g.nodes.filter fun n => n.HeldTo m NodeType.isSink ∧ property n.id).map (·.id) := by
  rw [sinks, idsWhere_eq, List.filter_map, List.filter_filter]
  refine congrArg (List.map _) (List.filter_congr fun n _ => ?_)
  rw [Bool.eq_iff_iff, Bool.and_eq_true, decide_eq_true_iff, decide_eq_true_iff, and_comm]
  exact and_congr_right fun _ => same n.id

/-- The blocked sinks are those that a placeholder leads to, in the order of the nodes. -/
theorem blockedSinks_eq (g : Graph) (m : Manifest) : g.blockedSinks m =
    (g.nodes.filter fun n => n.HeldTo m NodeType.isSink ∧ g.Blocked m n.id).map (·.id) :=
  filter_sinks fun _ => comesFrom_placeholder_iff

/-- The ids of the sinks that no source leads to, by the nodes that have them. -/
def unfedSinks (g : Graph) (m : Manifest) : List String :=
  (g.nodes.filter fun n => n.HeldTo m NodeType.isSink ∧ ¬ g.Fed m n.id).map (·.id)

theorem unfedSinks_ne_nil_iff : g.unfedSinks m ≠ [] ↔
    ∃ n ∈ g.nodes, n.HeldTo m NodeType.isSink ∧ ¬ g.Fed m n.id := by
  simp only [unfedSinks, ne_eq, List.map_eq_nil_iff, List.filter_eq_nil_iff, decide_eq_true_eq,
    not_forall, not_not, exists_prop]

/-- One issue names all the sinks that no source leads to. -/
theorem connectionIssues_eq (g : Graph) (m : Manifest) : g.connectionIssues m =
    if g.unfedSinks m = [] then [] else [.disconnected (g.unfedSinks m)] := by
  have unreached : (g.sinks m).filter (!(g.reachable (g.sources m)).contains ·) =
      g.unfedSinks m := by
    refine @filter_sinks g m _ (fun id => ¬ g.Fed m id) _ fun id => ?_
    rw [Bool.not_eq_true', ← Bool.not_eq_true, List.contains_iff_mem, mem_reachable_sources_iff]
  unfold connectionIssues
  dsimp only
  rw [unreached]
  cases g.unfedSinks m with
  | nil => rfl
  | cons first rest => rfl

/-- Warnings of one code stand in a report in the order of the rules. -/
theorem ofCodes_warnings {code : IssueCode} (warning : code.severity = .warning) :
    ofCodes [code] (g.validate m).warnings = ofCodes [code] (g.issues m) := by
  rw [validate, ofCodes, ofCodes, List.filter_filter]
  refine List.filter_congr fun i _ => ?_
  by_cases same : i.code = code
  · simp [same, Issue.isError, warning]
  · simp [same]

/-- The walk back from a sink ends, and the blocked sinks are those that a path of edges leads to
from a placeholder, in node order and once a node. A valid graph has none. -/
theorem validate_blockedSinks (g : Graph) (m : Manifest) :
    (∀ goal id bound, g.edges.length + 1 ≤ bound →
      (Walk.steps g.arcsBack goal bound (.start [id])).IsOver ∧
      (Walk.steps g.arcsBack goal bound (.start [id])).found = g.comesFrom goal id) ∧
    (g.validate m).blockedSinks =
      (g.nodes.filter fun n => n.HeldTo m NodeType.isSink ∧ g.Blocked m n.id).map (·.id) ∧
    ((g.validate m).ok = true → (g.validate m).blockedSinks = []) := by
  refine ⟨?_, g.blockedSinks_eq m, ?_⟩
  · intro goal id bound enough
    have ended :
        Walk.steps g.arcsBack goal bound (.start [id]) = Walk.complete g.arcsBack goal [id] :=
      Walk.steps_start (by simpa [arcsBack] using enough)
    rw [ended]
    exact ⟨Walk.isOver_complete, rfl⟩
  · intro valid
    obtain ⟨-, none⟩ := validate_ok_iff.mp valid
    show g.blockedSinks m = []
    rw [blockedSinks_eq, List.map_eq_nil_iff, List.filter_eq_nil_iff]
    intro n _ blocked
    obtain ⟨-, p, member, placeholder, -⟩ := of_decide_eq_true blocked
    exact List.filter_eq_nil_iff.mp none p member placeholder

/-- The walk onward from the sources ends, and a report warns that the graph is disconnected when
some sink has no path of edges from a source: once, with all such sinks in node order. -/
theorem validate_disconnected (g : Graph) (m : Manifest) :
    (∀ bound, g.edges.length + (g.sources m).length ≤ bound →
      (Walk.steps g.arcs (fun _ => false) bound (.start (g.sources m))).IsOver ∧
      (Walk.steps g.arcs (fun _ => false) bound (.start (g.sources m))).visited =
        g.reachable (g.sources m)) ∧
    ((g.validate m).hasCode .graphDisconnected = true ↔
      ∃ n ∈ g.nodes, n.HeldTo m NodeType.isSink ∧ ¬ g.Fed m n.id) ∧
    ofCodes [.graphDisconnected] (g.validate m).warnings =
      (if g.unfedSinks m = [] then [] else [.disconnected (g.unfedSinks m)]) ∧
    ofCodes [.graphDisconnected] (g.validate m).errors = [] ∧
    (Issue.disconnected (g.unfedSinks m)).message =
      "no complete source→sink path found for: " ++ String.intercalate ", " (g.unfedSinks m) := by
  have warned : ofCodes [.graphDisconnected] (g.validate m).warnings = g.connectionIssues m := by
    rw [ofCodes_warnings rfl, ofCodes_connection]
  have never : ofCodes [.graphDisconnected] (g.validate m).errors = [] := by
    refine List.filter_eq_nil_iff.mpr fun i error listed => ?_
    have code : i.code = .graphDisconnected := by simpa using listed
    have severe := (List.mem_filter.mp error).2
    rw [Issue.isError, code] at severe
    cases severe
  refine ⟨?_, ?_, warned.trans (g.connectionIssues_eq m), never, rfl⟩
  · intro bound enough
    have ended : Walk.steps g.arcs (fun _ => false) bound (.start (g.sources m)) =
        Walk.complete g.arcs (fun _ => false) (g.sources m) :=
      Walk.steps_start (by simpa [arcs] using enough)
    rw [ended]
    exact ⟨Walk.isOver_complete, rfl⟩
  · rw [hasCode_disconnected_iff, ← unfedSinks_ne_nil_iff, connectionIssues_eq]
    by_cases all : g.unfedSinks m = []
    · simp [all]
    · simp [all]

/-! ## A sink behind a placeholder, an id that no node has, and a cycle -/

namespace Detached

/-- A source, and a sink that needs an input. -/
def manifest : Manifest where
  types := .ofList [
    ("camera", { category := "Input", ports := { output := "image" } }),
    ("wall", {
      requiresInput := true
      outputs? := some 0
      ports := { inputs := [{ kind := "image" }] } })]

/-- Two nodes have the id `w`, none has the id `ghost`, and there is no source. -/
def graph : Graph where
  nodes := [{ id := "w", type := "wall" }, { id := "x", type := "hologram" },
    { id := "v", type := "wall" }, { id := "w", type := "wall" }]
  edges := [.between "x" "ghost", .between "ghost" "w", .between "w" "w", .between "w" "x"]

/-- A source that leads to a sink. -/
def mended : Graph where
  nodes := [{ id := "c", type := "camera" }, { id := "w", type := "wall" }]
  edges := [.between "c" "w"]

theorem blockedSinks_detached :
    (graph.validate manifest).blockedSinks = ["w", "w"] ∧
    (Walk.steps graph.arcsBack (· == "x") 7 (.start ["w"])).IsOver ∧
    (mended.validate manifest).ok = true ∧ (mended.validate manifest).blockedSinks = [] := by
  obtain ⟨ends, blocked, -⟩ := validate_blockedSinks graph manifest
  have valid : (mended.validate manifest).ok = true := by decide +kernel
  refine ⟨?_, (ends (· == "x") "w" 7 (by decide)).1, valid,
    (validate_blockedSinks mended manifest).2.2 valid⟩
  rw [blocked]
  decide +kernel

theorem disconnected_detached :
    (Walk.steps graph.arcs (fun _ => false) 4 (.start (graph.sources manifest))).IsOver ∧
    ofCodes [.graphDisconnected] (graph.validate manifest).warnings =
      [.disconnected ["w", "v", "w"]] ∧
    (mended.validate manifest).hasCode .graphDisconnected = false := by
  obtain ⟨ends, -, warned, -⟩ := validate_disconnected graph manifest
  obtain ⟨-, reported, -⟩ := validate_disconnected mended manifest
  refine ⟨(ends 4 (by decide +kernel)).1, ?_, ?_⟩
  · have unfed : graph.unfedSinks manifest = ["w", "v", "w"] := by decide +kernel
    rw [warned, unfed]
    rfl
  · rw [Bool.eq_false_iff, ne_eq, reported]
    decide +kernel

end Detached

end Graph

end Dataflow
