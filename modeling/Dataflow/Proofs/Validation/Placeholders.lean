import Dataflow.Proofs.Graph.Tidy
import Dataflow.Proofs.Validation.Codes

/-!
# Nodes that are held to no type

What the rules ask of a node because of its type they ask only of nodes that are held to one.
`Issue.heldNode?` and `Issue.heldEdge?` read off an issue which node or edge it holds to its
type or types; rule by rule, that is a node or an edge that has them. So a node that is held to
no type is left out (`Graph.Exempts`): of the rules on inputs, outputs and parameters, of those
on the edges at it, of sinks and sources, and of tidying.

A placeholder is held to no type, with one exception. An empty type makes a node a placeholder,
and a manifest may still have a type under the empty name; a node without a mark is then held to
that (`untyped_iff_of_isPlaceholder`).
-/

namespace Dataflow

/-! ## What an issue holds to a type -/

namespace Issue

/-- The node that an issue holds to its type. -/
def heldNode? : Issue → Option String
  | .inputsRequired node _ | .inputsMissing node .. | .inputsExcess node ..
  | .outputsExcess node .. | .paramUnknown node .. => some node
  | _ => none

/-- The index of the edge that an issue holds to the types at its ends. -/
def heldEdge? : Issue → Option Nat
  | .typeMismatch index .. | .slotInvalid index .. | .slotBeyondSingle index ..
  | .slotBeyondInputs index .. => some index
  | _ => none

end Issue

namespace Graph

variable {g : Graph} {m : Manifest} {i : Issue} {n : Node}

/-- The codes of what nodes are held to. -/
def heldCodes : List IssueCode :=
  [.nodeInputsRequired, .nodeInputsExcess, .nodeInputsMissing, .nodeOutputsExcess, .paramUnknown]

/-- The issues on what nodes are held to come from two rules. -/
theorem ofCodes_held : ofCodes heldCodes (g.issues m) =
    g.nodes.flatMap (g.arityIssues m) ++ g.nodes.flatMap (paramIssues m) := by
  simp only [issues, ofCodes_append]
  rw [among_identityIssues.ofCodes_eq_nil (by decide),
    among_edgeIssues.ofCodes_eq_nil (by decide), among_arityIssues.ofCodes_eq_self (by decide),
    among_paramIssues.ofCodes_eq_self (by decide), among_cycleIssues.ofCodes_eq_nil (by decide),
    among_connectionIssues.ofCodes_eq_nil (by decide),
    among_isolationIssues.ofCodes_eq_nil (by decide)]
  simp only [List.append_nil, List.nil_append]

theorem ofCodes_connection :
    ofCodes [.graphDisconnected] (g.issues m) = g.connectionIssues m := by
  simp only [issues, ofCodes_append]
  rw [among_identityIssues.ofCodes_eq_nil (by decide),
    among_edgeIssues.ofCodes_eq_nil (by decide), among_arityIssues.ofCodes_eq_nil (by decide),
    among_paramIssues.ofCodes_eq_nil (by decide), among_cycleIssues.ofCodes_eq_nil (by decide),
    among_connectionIssues.ofCodes_eq_self (by decide),
    among_isolationIssues.ofCodes_eq_nil (by decide)]
  simp only [List.append_nil, List.nil_append]

theorem held_of_mem_arityIssues (member : i ∈ g.arityIssues m n) :
    i.heldNode? = some n.id ∧ m.typeOf? n ≠ none := by
  unfold arityIssues at member
  dsimp only at member
  split at member
  · cases member
  · rename_i type typed
    refine ⟨?_, by simp [typed]⟩
    simp only [List.mem_append] at member
    rcases member with (member | member) | member
    · split at member
      · rw [List.mem_singleton.mp member]
        rfl
      · cases member
    · -- every mode of inputs has its own test
      split at member
      all_goals
        split at member
        · rw [List.mem_singleton.mp member]
          rfl
        · cases member
    · split at member
      · split at member
        · rw [List.mem_singleton.mp member]
          rfl
        · cases member
      · cases member

theorem held_of_mem_paramIssues (member : i ∈ paramIssues m n) :
    i.heldNode? = some n.id ∧ m.typeOf? n ≠ none := by
  unfold paramIssues at member
  split at member
  · cases member
  · rename_i type typed
    obtain ⟨key, -, rfl⟩ := List.mem_map.mp member
    exact ⟨rfl, by simp [typed]⟩

theorem held_of_mem_slotIssues {index : Nat} {e : Edge} {target : NodeType}
    (member : i ∈ g.slotIssues index e target) : i.heldEdge? = some index := by
  unfold slotIssues at member
  dsimp only at member
  split at member
  · rw [List.mem_singleton.mp member]
    rfl
  · split at member
    · split at member
      · cases member
      · rw [List.mem_singleton.mp member]
        rfl
    · split at member
      · rw [List.mem_singleton.mp member]
        rfl
      · cases member
    · cases member
  · cases member

/-- An issue of fit is about an edge both ends of which are held to a type. -/
theorem held_of_mem_fitIssues {index : Nat} {e : Edge} (member : i ∈ g.fitIssues m index e) :
    i.heldEdge? = some index ∧ g.typeAt? m e.source ≠ none ∧ g.typeAt? m e.target ≠ none := by
  unfold fitIssues at member
  split at member
  · rename_i source target here there
    refine ⟨?_, by simp [here], by simp [there]⟩
    rcases List.mem_append.mp member with mismatch | slot
    · split at mismatch
      · cases mismatch
      · rw [List.mem_singleton.mp mismatch]
        rfl
    · exact held_of_mem_slotIssues slot
  · cases member

theorem mem_found {codes : List IssueCode} :
    i ∈ (g.validate m).found codes ↔ i ∈ ofCodes codes (g.issues m) := by
  rw [Report.found, mem_ofCodes, mem_issues_validate, mem_ofCodes]

/-- Only sinks are reported as not reached. -/
theorem mem_connectionIssues (member : i ∈ g.connectionIssues m) :
    ∃ unreached, i = .disconnected unreached ∧ ∀ id ∈ unreached, id ∈ g.sinks m := by
  unfold connectionIssues at member
  dsimp only at member
  generalize listed : (g.sinks m).filter _ = unreached at member
  cases unreached with
  | nil => cases member
  | cons first rest =>
      refine ⟨first :: rest, List.mem_singleton.mp member, fun id inside => ?_⟩
      rw [← listed] at inside
      exact List.mem_of_mem_filter inside

/-! ## A node that is held to no type -/

/-- Neither validation nor tidying asks anything of a node because of its type. -/
structure Exempts (g : Graph) (m : Manifest) (n : Node) : Prop where
  /-- Every issue on what a node is held to is on another node. -/
  inputs : ∀ i ∈ (g.validate m).found heldCodes,
    ∃ other ∈ g.nodes, other.id ≠ n.id ∧ i.heldNode? = some other.id
  /-- Every issue on what an edge carries and asks for is on an edge between other nodes. -/
  edges : ∀ i ∈ (g.validate m).found fitCodes,
    ∃ index e, g.edges[index]? = some e ∧ e.source ≠ n.id ∧ e.target ≠ n.id ∧
      i.heldEdge? = some index
  sink : n.id ∉ g.sinks m
  source : n.id ∉ g.sources m
  blocked : n.id ∉ (g.validate m).blockedSinks
  connection : ∀ i ∈ (g.validate m).found [.graphDisconnected],
    ∃ unreached, i = .disconnected unreached ∧ n.id ∉ unreached
  tidy : (g.tidy m).graph.node? n.id = some n

section

variable (distinct : g.ids.Nodup) (member : n ∈ g.nodes) (untyped : m.typeOf? n = none)

include distinct member untyped

/-- What is held to a type is another node, and as ids are distinct it has another id. -/
theorem id_ne_of_typed {other : Node} (inside : other ∈ g.nodes)
    (typed : m.typeOf? other ≠ none) : other.id ≠ n.id := by
  intro same
  rw [List.inj_on_of_nodup_map distinct inside member same] at typed
  exact typed untyped

theorem ne_of_typeAt? {id : String} (typed : g.typeAt? m id ≠ none) : id ≠ n.id := by
  rintro rfl
  rw [typeAt?, node?_eq_some distinct member] at typed
  exact typed untyped

theorem not_mem_idsWhere (property : NodeType → Bool) : n.id ∉ g.idsWhere m property := by
  intro listed
  obtain ⟨other, held, same⟩ := List.mem_map.mp listed
  obtain ⟨inside, held⟩ := List.mem_filter.mp held
  refine id_ne_of_typed distinct member untyped inside ?_ same
  intro none
  rw [none] at held
  cases held

theorem exempts_of_untyped : g.Exempts m n := by
  have sink : n.id ∉ g.sinks m := not_mem_idsWhere distinct member untyped _
  refine ⟨?_, ?_, sink, not_mem_idsWhere distinct member untyped _, ?_, ?_, ?_⟩
  · -- the two rules that look at nodes
    intro i found
    rw [mem_found, ofCodes_held, List.mem_append, List.mem_flatMap, List.mem_flatMap] at found
    rcases found with ⟨other, inside, found⟩ | ⟨other, inside, found⟩
    · obtain ⟨held, typed⟩ := held_of_mem_arityIssues found
      exact ⟨other, inside, id_ne_of_typed distinct member untyped inside typed, held⟩
    · obtain ⟨held, typed⟩ := held_of_mem_paramIssues found
      exact ⟨other, inside, id_ne_of_typed distinct member untyped inside typed, held⟩
  · -- the rule on edges compares two types
    intro i found
    rw [mem_found, ofCodes_fit, List.mem_flatMap] at found
    obtain ⟨⟨e, index⟩, entry, found⟩ := found
    obtain ⟨-, found⟩ := List.mem_ite_nil_right.mp found
    obtain ⟨held, source, target⟩ := held_of_mem_fitIssues found
    exact ⟨index, e, List.mk_mem_zipIdx_iff_getElem?.mp entry,
      ne_of_typeAt? distinct member untyped source,
      ne_of_typeAt? distinct member untyped target, held⟩
  · exact fun blocked => sink (List.mem_of_mem_filter blocked)
  · intro i found
    rw [mem_found, ofCodes_connection] at found
    obtain ⟨unreached, rfl, sinks⟩ := mem_connectionIssues found
    exact ⟨unreached, rfl, fun listed => sink (sinks _ listed)⟩
  · show (g.tidied m).node? n.id = some n
    rw [node?_tidied, node?_eq_some distinct member, Option.map_some, Node.tidy_of_none untyped]

end

/-- A placeholder is held to no type, unless its type is empty and the manifest has that. -/
theorem untyped_iff_of_isPlaceholder (placeholder : m.isPlaceholder n = true) :
    m.typeOf? n = none ↔ (n.type = "" → n.isMarked = true ∨ m.contains "" = false) := by
  rw [Manifest.typeOf?_eq_none_iff]
  constructor
  · intro exempt empty
    rwa [empty] at exempt
  · intro named
    simp only [Manifest.isPlaceholder, Bool.or_eq_true, beq_iff_eq, Bool.not_eq_true']
      at placeholder
    rcases placeholder with (empty | unknown) | marked
    · rw [empty]
      exact named empty
    · exact Or.inr unknown
    · exact Or.inl marked

/-- Placeholders are exempt from what node types ask for, where ids are distinct. The empty type
is no exception to this unless the manifest makes it a type like any other. -/
theorem placeholder_exempt (g : Graph) (m : Manifest) (distinct : g.ids.Nodup) (n : Node)
    (member : n ∈ g.nodes) (placeholder : m.isPlaceholder n = true)
    (named : n.type = "" → n.isMarked = true ∨ m.contains "" = false) : g.Exempts m n :=
  exempts_of_untyped distinct member ((untyped_iff_of_isPlaceholder placeholder).mpr named)

/-! ## A type under the empty name -/

namespace Nameless

def manifest : Manifest :=
  Manifest.insert {} "" {
    category := "Output"
    requiresInput := true
    defaults := .ofList [("size", .null)]
    ports := { inputs := [{ kind := "text" }], output := "image" } }

/-- A node of the empty type, and so a placeholder. -/
def plain : Node := { id := "a", params? := some (.ofList [("extra", .null)]) }

/-- The same with a mark. -/
def marked : Node :=
  { id := "b", params? := some (.ofList [("extra", .null), ("placeholder", .bool true)]) }

/-- An edge between them, with a slot that is no index. -/
def graph : Graph where
  nodes := [plain, marked]
  edges := [{ source := "a", target := "b", slot? := some (.bool true) }]

theorem plain_is_held :
    graph.ids.Nodup ∧ plain ∈ graph.nodes ∧ manifest.isPlaceholder plain = true ∧
    ((graph.validate manifest).found heldCodes).map (fun i => (i.code, i.heldNode?)) =
      [(.nodeInputsRequired, some "a"), (.paramUnknown, some "a")] ∧
    (graph.validate manifest).blockedSinks = ["a"] ∧
    (plain.tidy manifest).params.keys = ["size"] ∧ ¬ graph.Exempts manifest plain := by
  have sink : "a" ∈ graph.sinks manifest := by decide +kernel
  exact ⟨by decide, List.mem_cons_self, by decide +kernel, by decide +kernel, by decide +kernel,
    by decide +kernel, fun exempt => exempt.sink sink⟩

theorem marked_is_exempt :
    graph.ids.Nodup ∧ marked ∈ graph.nodes ∧ manifest.isPlaceholder marked = true ∧
    (marked.type = "" → marked.isMarked = true ∨ manifest.contains "" = false) ∧
    graph.Exempts manifest marked := by
  have distinct : graph.ids.Nodup := by decide
  have member : marked ∈ graph.nodes := List.mem_cons_of_mem _ List.mem_cons_self
  have placeholder : manifest.isPlaceholder marked = true := by decide +kernel
  have named : marked.type = "" → marked.isMarked = true ∨ manifest.contains "" = false :=
    fun _ => Or.inl (by decide +kernel)
  exact ⟨distinct, member, placeholder, named,
    placeholder_exempt graph manifest distinct marked member placeholder named⟩

end Nameless

end Graph

end Dataflow
