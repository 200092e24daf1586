import Dataflow.Proofs.Graph.Tidy
import Dataflow.Proofs.Validation.WellFormed

/-!
# Marks that come from defaults

Tidying gives a node every default of its type that it has no parameter for. If one of these is
the mark of a placeholder, the node takes the mark (`Node.TakesMark`), and nothing else makes a
node a placeholder or keeps it from being one (`isPlaceholder_tidy_iff`).

Everything else that makes a graph valid is read off ids, types and edges. A valid graph has no
dangling edges, so it keeps all of these, and it stays valid exactly when none of its nodes takes
a mark.
-/

namespace Dataflow

/-! ## Nodes -/

namespace Node

variable {n : Node} {m : Manifest}

/-- The type of the node has the mark of a placeholder among its defaults, and the node has no
parameter in its place. -/
def TakesMark (m : Manifest) (n : Node) : Prop :=
  n.params.get? "placeholder" = none ∧ ∃ type, m.type? n.type = some type ∧
    type.defaults.get? "placeholder" = some (.bool true)

/-- A marked node has the parameter already. -/
theorem TakesMark.unmarked (takes : n.TakesMark m) : n.isMarked = false := by
  rw [Bool.eq_false_iff, ne_eq, Graph.isMarked_iff, takes.1]
  simp

/-- Tidying marks the nodes that take a mark from the defaults of their type. -/
theorem isMarked_tidy_iff :
    (n.tidy m).isMarked = true ↔ n.isMarked = true ∨ n.TakesMark m := by
  cases typed : m.typeOf? n with
  | none =>
      rw [tidy_of_none typed]
      refine (or_iff_left ?_).symm
      intro takes
      -- a node without a mark is held to the type that the manifest has for it
      obtain ⟨type, known, -⟩ := takes.2
      rw [Manifest.typeOf?_eq_some_iff.mpr ⟨takes.unmarked, known⟩] at typed
      cases typed
  | some type =>
      obtain ⟨unmarked, known⟩ := Manifest.typeOf?_eq_some_iff.mp typed
      rw [unmarked, TakesMark, known, Graph.isMarked_iff, params_tidy typed, get?_mergedParams]
      rw [Bool.eq_false_iff, ne_eq, Graph.isMarked_iff] at unmarked
      cases given : n.params.get? "placeholder" with
      | none => simp
      | some value =>
          -- a parameter that is given stays, and it is not the mark
          rw [given] at unmarked
          cases type.defaults.get? "placeholder" with
          | none => simp
          | some _ => simpa using unmarked

/-- Tidying makes placeholders of the nodes that take a mark, and of no others. -/
theorem isPlaceholder_tidy_iff :
    m.isPlaceholder (n.tidy m) = true ↔ m.isPlaceholder n = true ∨ n.TakesMark m := by
  simp only [Manifest.isPlaceholder, tidy_type, Bool.or_eq_true, isMarked_tidy_iff, or_assoc]

end Node

/-! ## Graphs -/

namespace Graph

variable {g : Graph} {m : Manifest}

theorem wellFormed_iff : g.WellFormed m ↔ Clean (g.issues m) ∧ g.placeholders m = [] :=
  ⟨fun wf => ⟨wf.clean, placeholders_eq_nil_iff.mpr wf.typed⟩,
    fun valid => wellFormed_of_clean valid.1 valid.2⟩

theorem hasType_tidied {id : String} {type : NodeType} :
    (g.tidied m).HasType m id type ↔ g.HasType m id type := by
  simp [HasType, nodes_tidied]

theorem WellFormed.edges_tidied (wf : g.WellFormed m) : (g.tidied m).edges = g.edges :=
  links_eq_edges fun e member => (wf.ended e member).2.2

theorem WellFormed.inputsSuffice_tidied (wf : g.WellFormed m) {n : Node} {type : NodeType} :
    (g.tidied m).InputsSuffice (n.tidy m) type ↔ g.InputsSuffice n type := by
  simp only [InputsSuffice, incoming, wf.edges_tidied, Node.tidy_id]

/-- A graph stays well-formed unless one of its nodes takes a mark. -/
theorem WellFormed.tidied (wf : g.WellFormed m) (unmarked : ∀ n ∈ g.nodes, ¬ n.TakesMark m) :
    (g.tidied m).WellFormed m where
  named := by
    intro n' tidied
    obtain ⟨n, member, rfl⟩ := List.mem_map.mp tidied
    rw [Node.tidy_id]
    exact wf.named n member
  distinct := by
    rw [ids_tidied]
    exact wf.distinct
  typed := by
    intro n' tidied
    obtain ⟨n, member, rfl⟩ := List.mem_map.mp tidied
    obtain ⟨type, known, mark⟩ := wf.typed n member
    have mark' : ¬ (n.tidy m).isMarked = true := by
      rw [Node.isMarked_tidy_iff, isMarked_iff]
      exact not_or.mpr ⟨mark, unmarked n member⟩
    rw [Node.tidy_type]
    exact ⟨type, known, mt isMarked_iff.mpr mark'⟩
  ended := by
    intro e member
    rw [wf.edges_tidied] at member
    rw [ids_tidied]
    exact wf.ended e member
  kinds := by
    intro e member source target
    rw [wf.edges_tidied] at member
    rw [hasType_tidied, hasType_tidied]
    exact wf.kinds e member source target
  slots := by
    intro e member written here
    rw [wf.edges_tidied] at member
    obtain ⟨slot, value, fits⟩ := wf.slots e member written here
    exact ⟨slot, value, fun target held => fits target (hasType_tidied.mp held)⟩
  inputs := by
    intro n' tidied type known
    obtain ⟨n, member, rfl⟩ := List.mem_map.mp tidied
    rw [Node.tidy_type] at known
    exact wf.inputsSuffice_tidied.mpr (wf.inputs n member type known)
  acyclic := by
    have arcs : (g.tidied m).Arc = g.Arc := by
      funext u v
      rw [Arc, Arc, wf.edges_tidied]
    rw [arcs]
    exact wf.acyclic

/-- A node that takes a mark is no longer held to its type, so the graph is not valid. -/
theorem not_wellFormed_tidied {n : Node} (member : n ∈ g.nodes) (takes : n.TakesMark m) :
    ¬ (g.tidied m).WellFormed m := by
  intro wf
  have mark := (wf.typed (n.tidy m) (List.mem_map_of_mem member)).2.2
  exact mark (isMarked_iff.mp (Node.isMarked_tidy_iff.mpr (Or.inr takes)))

/-- In tidying the placeholders stay, and the nodes that take a mark become placeholders too.
A valid graph stays valid exactly when none of its nodes does. -/
theorem tidy_placeholders (g : Graph) (m : Manifest) :
    let t := (g.tidy m).graph
    List.Forall₂ (fun n n' => m.isPlaceholder n' = true ↔
      m.isPlaceholder n = true ∨ n.TakesMark m) g.nodes t.nodes ∧
    ((g.validate m).ok = true →
      ((t.validate m).ok = true ↔ ∀ n ∈ g.nodes, ¬ n.TakesMark m)) := by
  intro t
  constructor
  · show List.Forall₂ _ g.nodes (g.nodes.map (·.tidy m))
    rw [List.forall₂_map_right_iff, List.forall₂_same]
    exact fun n _ => Node.isPlaceholder_tidy_iff
  · intro valid
    have wf : g.WellFormed m := wellFormed_iff.mpr (validate_ok_iff.mp valid)
    rw [validate_ok_iff, ← wellFormed_iff]
    constructor
    · intro wf' n member takes
      exact not_wellFormed_tidied member takes wf'
    · exact wf.tidied

/-! ## A type whose nodes are drafts unless declared otherwise -/

namespace Draft

def manifest : Manifest :=
  Manifest.insert {} "draft" { defaults := .ofList [("placeholder", .bool true)] }

/-- A node without parameters, which takes the mark. -/
def silent : Node := { id := "a", type := "draft" }

/-- A node that is declared to be no draft. -/
def final : Node :=
  { id := "b", type := "draft", params? := some (.ofList [("placeholder", .bool false)]) }

theorem tidy_marks_silent :
    manifest.isPlaceholder silent = false ∧
    (Graph.validate { nodes := [silent] } manifest).ok = true ∧
    (Graph.tidy { nodes := [silent] } manifest).graph.nodes.map manifest.isPlaceholder = [true] ∧
    ((Graph.tidy { nodes := [silent] } manifest).graph.validate manifest).ok = false := by
  decide +kernel

theorem tidy_keeps_final :
    (Graph.validate { nodes := [final] } manifest).ok = true ∧ ¬ final.TakesMark manifest ∧
    ((Graph.tidy { nodes := [final] } manifest).graph.validate manifest).ok = true := by
  have valid : (Graph.validate { nodes := [final] } manifest).ok = true := by decide +kernel
  have given : final.params.get? "placeholder" = some (.bool false) := rfl
  have unmarked : ¬ final.TakesMark manifest := by
    rintro ⟨absent, -⟩
    rw [given] at absent
    cases absent
  refine ⟨valid, unmarked, ((tidy_placeholders { nodes := [final] } manifest).2 valid).mpr ?_⟩
  intro n member
  rw [List.mem_singleton.mp member]
  exact unmarked

end Draft

end Graph

end Dataflow
