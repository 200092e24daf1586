import Dataflow.Proofs.Execution.Registry
import Dataflow.Proofs.Execution.Run
import Dataflow.Proofs.Validation.Marks

/-!
# The order of a document

A document lists nodes and edges in some order, which decides the order of execution, of the
issues in a report and of the nodes that fail. It does not decide whether the graph is valid,
nor what it computes, so long as the edges into each node keep their order
(`run_rearranged`).

Two runs are not compared step by step. A run goes through exactly when the graph is
well-formed and its equations have a solution (`exists_run_iff`), and neither depends on the
order of the document; the outputs are the solution, and there is only one.
-/

namespace Dataflow

variable {g g' : Graph} {m : Manifest} {registry : Registry} {o : String → Json}

/-! ## Runs and solutions -/

/-- A list of ids that leads onward goes through when the equations have a solution and the
sources from outside the list have their outputs. -/
theorem Run.exists_ok_of_solves {ids : List String} {outcome : Outcome}
    (solves : g.Solves registry o) (found : ∀ id ∈ ids, ∃ n, g.node? id = some n)
    (onward : g.Onward ids)
    (given : ∀ id ∈ ids, ∀ u, g.Arc u id → u ∉ ids → outcome.outputs.get? u = some (o u)) :
    ∃ final, (execute g registry ids outcome).result = .ok final := by
  induction ids generalizing outcome with
  | nil => exact ⟨outcome, rfl⟩
  | cons id rest ih =>
      obtain ⟨⟨n, here⟩, others⟩ := List.forall_mem_cons.mp found
      obtain ⟨first, onward⟩ := onward
      obtain ⟨member, rfl⟩ := Graph.mem_of_node? here
      obtain ⟨executor, known, answer⟩ := solves n member
      -- all sources of the node are settled, so its executor sees what the equations say
      have seen : context g outcome.outputs n = g.callUnder o n :=
        Graph.context_eq_callUnder fun u arc => given n.id List.mem_cons_self u arc (first u arc)
      simp only [execute, here, known, seen, answer]
      refine ih others onward fun id later u arc outside => ?_
      rw [Table.get?_insert]
      by_cases same : u = n.id
      · rw [if_pos same, same]
      · rw [if_neg same]
        exact given id (List.mem_cons_of_mem _ later) u arc
          (List.not_mem_cons_of_ne_of_not_mem same outside)

namespace Graph

theorem run_of_ready (wf : g.WellFormed m) (ready : registry.missing g = []) :
    g.run m registry = Run.execute g registry g.order {} := by
  have valid : (g.validate m).ok = true := validate_ok_iff.mpr (wellFormed_iff.mp wf)
  rw [run, Report.check, if_pos valid]
  simp only [ready]

/-- A graph that has a solution has an executor for every type. -/
theorem missing_of_solves (solves : g.Solves registry o) : registry.missing g = [] := by
  refine Registry.missing_eq_nil_iff.mpr fun n member => ?_
  obtain ⟨executor, known, -⟩ := solves n member
  exact Registry.has_iff.mpr ⟨executor, known⟩

/-- A run goes through exactly when the graph is well-formed and its equations have a
solution. -/
theorem exists_run_iff : (∃ outcome, (g.run m registry).result = .ok outcome) ↔
    g.WellFormed m ∧ ∃ o, g.Solves registry o := by
  constructor
  · rintro ⟨outcome, done⟩
    obtain ⟨wf, run⟩ := executes_of_run done
    exact ⟨wf, outcome.assigned, (wf.isRun run).solves⟩
  · rintro ⟨wf, o, solves⟩
    rw [run_of_ready wf (missing_of_solves solves)]
    refine Run.exists_ok_of_solves solves (fun id member => ?_) wf.onward_order ?_
    · exact exists_node? (wf.order_perm.mem_iff.mp member)
    · -- every source is in the order
      intro id _ u arc outside
      exact absurd (wf.order_perm.mem_iff.mpr (wf.arc_onward arc).1) outside

/-- The outputs of a run are what any solution says. -/
theorem outputs_eq_of_solves {outcome : Outcome} (done : (g.run m registry).result = .ok outcome)
    (solves : g.Solves registry o) (id : String) :
    outcome.outputs.get? id = if id ∈ g.ids then some (o id) else none := by
  obtain ⟨wf, run⟩ := executes_of_run done
  have isRun := wf.isRun run
  rw [isRun.outputs id]
  by_cases inside : id ∈ g.ids
  · rw [if_pos inside, if_pos inside]
    refine congrArg some (isRun.solves.eq_on_ids solves (g.order.idxOf ·) ?_ id inside)
    intro u v arc
    exact ⟨(wf.arc_onward arc).1, (wf.arc_onward arc).2.2⟩
  · rw [if_neg inside, if_neg inside]

/-! ## Rearranged graphs -/

/-- The graphs have the same nodes and the same edges, in whatever order, but for the edges
into each id, which come in one order. -/
structure Rearranges (g g' : Graph) : Prop where
  nodes : g.nodes.Perm g'.nodes
  edges : g.edges.Perm g'.edges
  incoming : ∀ id, g.incoming id = g'.incoming id

namespace Rearranges

variable (same : g.Rearranges g')

include same

/-- Rearranging can be undone. -/
theorem symm : g'.Rearranges g :=
  ⟨same.nodes.symm, same.edges.symm, fun id => (same.incoming id).symm⟩

theorem ids : g.ids.Perm g'.ids := same.nodes.map _

theorem arc : g.Arc = g'.Arc := by
  funext u v
  simp only [Arc, same.edges.mem_iff]

theorem hasType {id : String} {type : NodeType} : g.HasType m id type ↔ g'.HasType m id type := by
  simp only [HasType, same.nodes.mem_iff]

/-- Well-formedness does not see the order of nodes and edges. -/
theorem wellFormed (wf : g.WellFormed m) : g'.WellFormed m where
  named := fun n member => wf.named n (same.nodes.mem_iff.mpr member)
  distinct := same.ids.nodup_iff.mp wf.distinct
  typed := fun n member => wf.typed n (same.nodes.mem_iff.mpr member)
  ended := by
    intro e member
    obtain ⟨source, target, sourceInside, targetInside⟩ :=
      wf.ended e (same.edges.mem_iff.mpr member)
    exact ⟨source, target, same.ids.mem_iff.mp sourceInside, same.ids.mem_iff.mp targetInside⟩
  kinds := by
    intro e member source target hsource htarget
    exact wf.kinds e (same.edges.mem_iff.mpr member) source target (same.hasType.mpr hsource)
      (same.hasType.mpr htarget)
  slots := by
    intro e member written here
    obtain ⟨slot, value, fits⟩ := wf.slots e (same.edges.mem_iff.mpr member) written here
    exact ⟨slot, value, fun target held => fits target (same.hasType.mpr held)⟩
  inputs := by
    intro n member type held
    rw [InputsSuffice, ← same.incoming]
    exact wf.inputs n (same.nodes.mem_iff.mpr member) type held
  acyclic := same.arc ▸ wf.acyclic

/-- A node sees the same call, since the edges into it keep their order. -/
theorem callUnder (o : String → Json) (n : Node) : g.callUnder o n = g'.callUnder o n := by
  rw [Graph.callUnder, Graph.callUnder, orderedInputs, orderedInputs, same.incoming]

theorem solves (solves : g.Solves registry o) : g'.Solves registry o := by
  intro n member
  rw [← same.callUnder]
  exact solves n (same.nodes.mem_iff.mpr member)

end Rearranges

/-- The order of nodes and edges in a document does not matter: neither for whether the graph
is valid, nor for whether a run goes through, nor for the outputs. -/
theorem run_rearranged (same : g.Rearranges g') (m : Manifest) :
    (g.validate m).ok = (g'.validate m).ok ∧ ∀ registry,
      ((∃ outcome, (g.run m registry).result = .ok outcome) ↔
        ∃ outcome, (g'.run m registry).result = .ok outcome) ∧
      ∀ outcome outcome', (g.run m registry).result = .ok outcome →
        (g'.run m registry).result = .ok outcome' →
        ∀ id, outcome.outputs.get? id = outcome'.outputs.get? id := by
  have valid : g.WellFormed m ↔ g'.WellFormed m := ⟨same.wellFormed, same.symm.wellFormed⟩
  refine ⟨?_, fun registry => ⟨?_, ?_⟩⟩
  · rw [Bool.eq_iff_iff, validate_ok_iff, validate_ok_iff, ← wellFormed_iff, ← wellFormed_iff,
      valid]
  · rw [exists_run_iff, exists_run_iff, valid]
    exact and_congr_right fun _ => exists_congr fun o => ⟨same.solves, same.symm.solves⟩
  · intro outcome outcome' done done' id
    obtain ⟨-, o, solves⟩ := exists_run_iff.mp ⟨outcome, done⟩
    rw [outputs_eq_of_solves done solves, outputs_eq_of_solves done' (same.solves solves)]
    simp only [same.ids.mem_iff]

/-! ## Nodes backwards, and edges to another target first -/

namespace Shuffle

def manifest : Manifest :=
  (Manifest.insert {} "name" {}).insert "join" { ports := { mode := .multi } }

def inputs : List Edge := [.between "a" "pair", .between "b" "pair", .between "a" "pair"]

def graph : Graph where
  nodes := [{ id := "a", type := "name" }, { id := "b", type := "name" },
    { id := "pair", type := "join" }, { id := "copy", type := "join" }]
  edges := inputs ++ [.between "a" "copy"]

def shuffled : Graph where
  nodes := graph.nodes.reverse
  edges := [.between "a" "copy"] ++ inputs

/-- Names answer with their id, joins with the list of their inputs. -/
def executors : Registry :=
  (Registry.register {} "name" fun call => .ok (.string call.node)).register "join"
    fun call => .ok (.array call.inputs)

def outcome : Outcome where
  order := ["a", "b", "copy", "pair"]
  outputs := .ofList [("a", .string "a"), ("b", .string "b"), ("copy", .array [.string "a"]),
    ("pair", .array [.string "a", .string "b", .string "a"])]

theorem rearranges : graph.Rearranges shuffled where
  nodes := (List.reverse_perm _).symm
  edges := List.perm_append_comm
  incoming := by
    intro id
    show (inputs ++ [_]).filter _ = ([_] ++ inputs).filter _
    rw [List.filter_append, List.filter_append]
    by_cases copy : id = "copy"
    · -- none of the other edges leads there
      subst copy
      rfl
    · have other : [Edge.between "a" "copy"].filter (·.target == id) = [] := by
        simp [Edge.between, Ne.symm copy]
      rw [other, List.append_nil, List.nil_append]

example : graph.order ≠ shuffled.order := by decide +kernel

theorem run_rearranged_shuffled :
    graph.Rearranges shuffled ∧ (graph.run manifest executors).result = .ok outcome ∧
      ∃ outcome', (shuffled.run manifest executors).result = .ok outcome' ∧
        ∀ id, outcome.outputs.get? id = outcome'.outputs.get? id := by
  have order : graph.order = ["a", "b", "copy", "pair"] := by decide +kernel
  have inputs : ∀ id ∈ graph.ids, graph.orderedInputs id = _ :=
    fun id member => orderedInputs_eq_flatMap (n := 0) (by decide +kernel +revert)
  have done : (graph.run manifest executors).result = .ok outcome := by
    refine result_of_executes (by decide +kernel) rfl order
      ⟨_, .step rfl rfl rfl <| .step rfl rfl rfl <| .step rfl rfl ?_ <| .step rfl rfl ?_ .done⟩
    · rw [Run.context, inputs _ (by decide)]
      rfl
    · rw [Run.context, inputs _ (by decide)]
      rfl
  obtain ⟨-, runs⟩ := run_rearranged rearranges manifest
  obtain ⟨through, outputs⟩ := runs executors
  obtain ⟨outcome', done'⟩ := through.mp ⟨outcome, done⟩
  exact ⟨rearranges, done, outcome', done', outputs outcome outcome' done done'⟩

end Shuffle

end Graph

end Dataflow
