import Dataflow.Proofs.Execution.Inputs
import Dataflow.Proofs.Graph.Order
import Dataflow.Proofs.Table
import Dataflow.Proofs.Validation.WellFormed

/-!
# What a run computes

An executor is a function of what it sees, so a graph reads as a system of equations,
one a node: the output of the node is what the executor of its type makes of the
outputs at its ordered inputs. A run that goes through solves the equations, with one
call a node, and no other assignment of outputs does.

* `Run.Executes` says what happens when a list of ids goes through, call by call; the
  facts about a run are inductions over it.
* `Graph.Onward` is what the list has to satisfy for no input to be dropped: no id has an
  edge from itself or from a later one.
* Validation gives the rest: distinct ids, no edge that leads nowhere, no cycle.
-/

namespace Dataflow

variable {g : Graph} {m : Manifest} {registry : Registry}

/-! ## Execution, call by call -/

namespace Run

/-- The execution of a list of ids goes through: from an outcome to a final one, with
the calls made. -/
inductive Executes (g : Graph) (registry : Registry) :
    List String → Outcome → List Context → Outcome → Prop where
  | done {outcome : Outcome} : Executes g registry [] outcome [] outcome
  | step {id : String} {rest : List String} {outcome final : Outcome} {n : Node}
      {executor : Executor} {output : Json} {calls : List Context}
      (found : g.node? id = some n)
      (known : registry.executor? n.type = some executor)
      (answer : executor (context g outcome.outputs n) = .ok output)
      (onward : Executes g registry rest
        { order := outcome.order ++ [id], outputs := outcome.outputs.insert id output }
        calls final) :
      Executes g registry (id :: rest) outcome (context g outcome.outputs n :: calls) final

/-- A list of ids that gives an outcome went through, one call an id. -/
theorem executes_of_result {ids : List String} {outcome final : Outcome}
    (done : (execute g registry ids outcome).result = .ok final) :
    Executes g registry ids outcome (execute g registry ids outcome).calls final := by
  induction ids generalizing outcome with
  | nil =>
      cases done
      exact .done
  | cons id rest ih =>
      unfold execute at done ⊢
      cases found : g.node? id with
      | none => simp [found] at done
      | some n =>
          cases known : registry.executor? n.type with
          | none => simp [found, known] at done
          | some executor =>
              cases answer : executor (context g outcome.outputs n) with
              | error failure => simp [found, known, answer] at done
              | ok output =>
                  simp only [found, known, answer] at done ⊢
                  exact .step found known answer (ih done)

namespace Executes

variable {ids : List String} {outcome final : Outcome} {calls : List Context}

/-- A list of ids that goes through gives its final outcome and no other. -/
theorem execute_eq (run : Executes g registry ids outcome calls final) :
    execute g registry ids outcome = ⟨calls, .ok final⟩ := by
  induction run with
  | done => rfl
  | step found known answer _ ih => simp only [execute, found, known, answer, ih]

/-- The ids are added to the order as they come. -/
theorem order_eq (run : Executes g registry ids outcome calls final) :
    final.order = outcome.order ++ ids := by
  induction run with
  | done => rw [List.append_nil]
  | step _ _ _ _ ih => rw [ih, List.append_assoc, List.singleton_append]

/-- An id that is not executed keeps its output. -/
theorem get?_eq_of_not_mem (run : Executes g registry ids outcome calls final) {id : String}
    (other : id ∉ ids) : final.outputs.get? id = outcome.outputs.get? id := by
  induction run with
  | done => rfl
  | step _ _ _ _ ih =>
      rw [List.mem_cons, not_or] at other
      rw [ih other.2, Table.get?_insert_of_ne _ _ other.1]

/-- Every id that is executed has an output in the end. -/
theorem exists_output (run : Executes g registry ids outcome calls final) {id : String}
    (member : id ∈ ids) : ∃ output, final.outputs.get? id = some output := by
  induction run with
  | done => cases member
  | @step head rest _ _ _ _ output _ _ _ _ onward ih =>
      by_cases later : id ∈ rest
      · exact ih later
      · obtain rfl : id = head := (List.mem_cons.mp member).resolve_right later
        exact ⟨output, by rw [onward.get?_eq_of_not_mem later, Table.get?_insert_self]⟩

end Executes

end Run

/-! ## Order and dropped inputs -/

/-- No id of a list has an edge from itself or from a later id. -/
def Graph.Onward (g : Graph) : List String → Prop
  | [] => True
  | id :: rest => (∀ u, g.Arc u id → u ∉ id :: rest) ∧ g.Onward rest

/-- A list without repetitions in which every edge leads to a later place is onward. -/
theorem Graph.onward_of_idxOf {ids : List String} (nodup : ids.Nodup)
    (before : ∀ u ∈ ids, ∀ v ∈ ids, g.Arc u v → ids.idxOf u < ids.idxOf v) :
    g.Onward ids := by
  induction ids with
  | nil => trivial
  | cons id rest ih =>
      obtain ⟨fresh, nodup⟩ := List.nodup_cons.mp nodup
      refine ⟨?_, ih nodup ?_⟩
      · intro u arc member
        have := before u member id List.mem_cons_self arc
        rw [List.idxOf_cons_self] at this
        exact Nat.not_lt_zero _ this
      · intro u hu v hv arc
        have := before u (List.mem_cons_of_mem _ hu) v (List.mem_cons_of_mem _ hv) arc
        rw [List.idxOf_cons_ne _ (ne_of_mem_of_not_mem hu fresh).symm,
          List.idxOf_cons_ne _ (ne_of_mem_of_not_mem hv fresh).symm] at this
        exact Nat.lt_of_succ_lt_succ this

/-- What a node sees depends on the outputs of its sources alone. -/
theorem Run.context_congr {outputs outputs' : Table Json} {n : Node}
    (same : ∀ u, g.Arc u n.id → outputs.get? u = outputs'.get? u) :
    context g outputs n = context g outputs' n := by
  rw [context, context, Graph.filterMap_orderedInputs_congr same]

/-- Executed in an order that leads onward, every node is called once, and what it saw
is what it would see of the final outputs. -/
theorem Run.Executes.exists_nodes {ids : List String} {outcome final : Outcome}
    {calls : List Context} (run : Executes g registry ids outcome calls final)
    (nodup : ids.Nodup) (onward : g.Onward ids) :
    ∃ nodes : List Node, nodes.map (·.id) = ids ∧ calls = nodes.map (context g final.outputs) ∧
      ∀ n ∈ nodes, g.node? n.id = some n ∧ ∃ executor output,
        registry.executor? n.type = some executor ∧
        executor (context g final.outputs n) = .ok output ∧
        final.outputs.get? n.id = some output := by
  induction run with
  | done => exact ⟨[], rfl, rfl, by simp⟩
  | @step id rest outcome final n executor output calls found known answer run ih =>
      obtain ⟨fresh, nodup⟩ := List.nodup_cons.mp nodup
      obtain ⟨first, onward⟩ := onward
      obtain ⟨nodes, ids_eq, calls_eq, answered⟩ := ih nodup onward
      obtain ⟨member, rfl⟩ := Graph.mem_of_node? found
      -- the sources of the node are settled: neither the node nor a later one is among them
      have settled : context g outcome.outputs n = context g final.outputs n := by
        refine context_congr fun u arc => ?_
        obtain ⟨differs, later⟩ := not_or.mp (mt List.mem_cons.mpr (first u arc))
        rw [run.get?_eq_of_not_mem later, Table.get?_insert_of_ne _ _ differs]
      refine ⟨n :: nodes, by rw [List.map_cons, ids_eq],
        by rw [List.map_cons, settled, calls_eq], ?_⟩
      intro other among
      rcases List.mem_cons.mp among with rfl | among
      · refine ⟨found, executor, output, known, settled ▸ answer, ?_⟩
        rw [run.get?_eq_of_not_mem fresh, Table.get?_insert_self]
      · exact answered other among

/-! ## The equations of a graph -/

/-- The outputs of a run as an assignment to all ids. -/
def Outcome.assigned (outcome : Outcome) (id : String) : Json :=
  (outcome.outputs.get? id).getD .null

/-- From nothing, exactly the ids executed have an output. -/
theorem Run.Executes.outputs_eq {ids : List String} {calls : List Context} {final : Outcome}
    (run : Executes g registry ids {} calls final) (id : String) :
    final.outputs.get? id = if id ∈ ids then some (final.assigned id) else none := by
  by_cases member : id ∈ ids
  · obtain ⟨output, held⟩ := run.exists_output member
    rw [if_pos member, Outcome.assigned, held, Option.getD_some]
  · rw [if_neg member, run.get?_eq_of_not_mem member]
    exact Table.get?_empty id

namespace Graph

/-- What the executor of a node sees under an assignment of outputs to ids. -/
def callUnder (g : Graph) (o : String → Json) (n : Node) : Context where
  node := n.id
  type := n.type
  params := n.params
  inputs := (g.orderedInputs n.id).map fun e => o e.source

/-- An assignment solves the graph when the output of every node is what the executor of
its type answers. -/
def Solves (g : Graph) (registry : Registry) (o : String → Json) : Prop :=
  ∀ n ∈ g.nodes, ∃ executor, registry.executor? n.type = some executor ∧
    executor (g.callUnder o n) = .ok (o n.id)

theorem inputs_callUnder (o : String → Json) (n : Node) :
    (g.callUnder o n).inputs = (g.orderedInputs n.id).filterMap fun e => some (o e.source) :=
  (congrFun (List.filterMap_eq_map (f := fun e : Edge => o e.source)) _).symm

theorem callUnder_congr {o o' : String → Json} {n : Node}
    (same : ∀ u, g.Arc u n.id → o u = o' u) : g.callUnder o n = g.callUnder o' n := by
  have inputs : (g.callUnder o n).inputs = (g.callUnder o' n).inputs := by
    rw [inputs_callUnder, inputs_callUnder]
    exact filterMap_orderedInputs_congr (f := fun u => some (o u)) (k := fun u => some (o' u))
      fun u arc => congrArg some (same u arc)
  exact congrArg (Context.mk n.id n.type n.params) inputs

theorem length_inputs_callUnder (o : String → Json) (n : Node) :
    (g.callUnder o n).inputs.length = (g.incoming n.id).length := by
  show ((g.orderedInputs n.id).map _).length = _
  rw [List.length_map, (g.orderedInputs_perm n.id).length_eq]

/-- Where all sources of a node have an output, it sees all of them. -/
theorem context_eq_callUnder {outputs : Table Json} {o : String → Json} {n : Node}
    (given : ∀ u, g.Arc u n.id → outputs.get? u = some (o u)) :
    Run.context g outputs n = g.callUnder o n := by
  have inputs : (Run.context g outputs n).inputs = (g.callUnder o n).inputs := by
    rw [inputs_callUnder]
    exact filterMap_orderedInputs_congr (k := fun u => some (o u)) given
  exact congrArg (Context.mk n.id n.type n.params) inputs

/-- Where edges lead from ids to ids of higher rank, solutions agree. -/
theorem Solves.eq_on_ids {o o' : String → Json} (solves : g.Solves registry o)
    (solves' : g.Solves registry o') (rank : String → Nat)
    (onward : ∀ u v, g.Arc u v → u ∈ g.ids ∧ rank u < rank v) :
    ∀ id ∈ g.ids, o id = o' id := by
  intro id inside
  -- the sources of a node are of lower rank, so they have the same outputs already
  induction height : rank id using Nat.strong_induction_on generalizing id with
  | h k ih =>
      obtain ⟨n, member, rfl⟩ := List.mem_map.mp inside
      have same : g.callUnder o n = g.callUnder o' n := by
        refine callUnder_congr fun u arc => ?_
        obtain ⟨source, below⟩ := onward u n.id arc
        exact ih (rank u) (height ▸ below) u source rfl
      obtain ⟨executor, known, answer⟩ := solves n member
      obtain ⟨executor', known', answer'⟩ := solves' n member
      rw [known] at known'
      cases known'
      rw [same, answer'] at answer
      exact (Except.ok.inj answer).symm

/-! ## Completed runs -/

/-- A run only starts on a valid graph, and then executes the topological order. -/
theorem executes_of_run {outcome : Outcome} (done : (g.run m registry).result = .ok outcome) :
    g.WellFormed m ∧ Run.Executes g registry g.order {} (g.run m registry).calls outcome := by
  unfold run Report.check at done ⊢
  by_cases valid : (g.validate m).ok = true
  · rw [if_pos valid] at done ⊢
    obtain ⟨clean, none⟩ := validate_ok_iff.mp valid
    refine ⟨wellFormed_of_clean clean none, ?_⟩
    cases lacking : registry.missing g with
    | nil =>
        simp only [lacking] at done ⊢
        exact Run.executes_of_result done
    | cons type rest => simp [lacking] at done
  · simp [valid] at done

/-- Conversely, a valid graph whose order goes through gives the outcome. -/
theorem result_of_executes {ids : List String} {final : Outcome}
    (valid : (g.validate m).ok = true) (known : registry.missing g = []) (order : g.order = ids)
    (run : ∃ calls, Run.Executes g registry ids {} calls final) :
    (g.run m registry).result = .ok final := by
  obtain ⟨calls, run⟩ := run
  rw [Graph.run, Report.check, if_pos valid]
  simp only [known, order, run.execute_eq]

/-- On a well-formed graph the order has every id. -/
theorem WellFormed.order_perm (wf : g.WellFormed m) : g.order.Perm g.ids := by
  refine (List.perm_ext_iff_of_nodup g.order_nodup wf.distinct).mpr fun id => ?_
  exact ⟨mem_ids_of_mem_order, acyclic_iff_order.mp wf.no_cycle id⟩

/-- Both ends of an edge are in the order, the source first. -/
theorem WellFormed.arc_onward (wf : g.WellFormed m) {u v : String} (arc : g.Arc u v) :
    u ∈ g.ids ∧ v ∈ g.ids ∧ g.order.idxOf u < g.order.idxOf v := by
  rw [← wf.link_eq_arc] at arc
  have member := wf.order_perm.mem_iff.mpr arc.2.2
  exact ⟨arc.2.1, arc.2.2, (order_onward arc member).2⟩

theorem WellFormed.onward_order (wf : g.WellFormed m) : g.Onward g.order :=
  onward_of_idxOf g.order_nodup fun _ _ _ _ arc => (wf.arc_onward arc).2.2

/-- What a completed run of a graph has to show: calls, an order of execution and
outputs, which are those of an assignment. -/
structure IsRun (g : Graph) (registry : Registry) (calls : List Context) (outcome : Outcome)
    (o : String → Json) : Prop where
  /-- Every node is executed, and once. -/
  nodup : outcome.order.Nodup
  perm : outcome.order.Perm g.ids
  /-- Every edge leads onward. -/
  onward : ∀ e ∈ g.edges, e.source ∈ outcome.order ∧ e.target ∈ outcome.order ∧
    outcome.order.idxOf e.source < outcome.order.idxOf e.target
  /-- There is one call a node, in the order of execution, on the outputs of its sources. -/
  called : ∃ nodes : List Node, nodes.Perm g.nodes ∧ nodes.map (·.id) = outcome.order ∧
    calls = nodes.map (g.callUnder o)
  /-- The outputs are the assignment on the ids, and nothing else. -/
  outputs : ∀ id, outcome.outputs.get? id = if id ∈ g.ids then some (o id) else none
  solves : g.Solves registry o
  /-- No input is dropped. -/
  complete : ∀ call ∈ calls, call.inputs.length = (g.incoming call.node).length

/-- The nodes that a run went through are those of the graph. -/
theorem perm_nodes {nodes : List Node} (distinct : g.ids.Nodup)
    (ids : (nodes.map (·.id)).Perm g.ids) (inside : ∀ n ∈ nodes, n ∈ g.nodes) :
    nodes.Perm g.nodes := by
  have nodup : nodes.Nodup := List.Nodup.of_map _ (ids.nodup_iff.mpr distinct)
  refine (List.perm_ext_iff_of_nodup nodup (List.Nodup.of_map _ distinct)).mpr fun n => ?_
  constructor
  · exact inside n
  · intro member
    obtain ⟨twin, among, same⟩ := List.mem_map.mp (ids.mem_iff.mpr (List.mem_map_of_mem member))
    rwa [← List.inj_on_of_nodup_map distinct (inside twin among) member same]

/-- Executing a well-formed graph in topological order solves it. -/
theorem WellFormed.isRun {calls : List Context} {outcome : Outcome} (wf : g.WellFormed m)
    (run : Run.Executes g registry g.order {} calls outcome) :
    g.IsRun registry calls outcome outcome.assigned := by
  have perm := wf.order_perm
  have order_eq : outcome.order = g.order := run.order_eq
  obtain ⟨nodes, ids_eq, calls_eq, answered⟩ := run.exists_nodes g.order_nodup wf.onward_order
  have inside : ∀ n ∈ nodes, n ∈ g.nodes := fun n among =>
    (mem_of_node? (answered n among).1).1
  have nodes_perm := perm_nodes wf.distinct (ids_eq ▸ perm) inside
  have outputs : ∀ id, outcome.outputs.get? id =
      if id ∈ g.ids then some (outcome.assigned id) else none := by
    intro id
    simp only [run.outputs_eq id, perm.mem_iff]
  have seen : Run.context g outcome.outputs = g.callUnder outcome.assigned := by
    funext n
    refine context_eq_callUnder fun u arc => ?_
    rw [outputs u, if_pos (wf.arc_onward arc).1]
  rw [seen] at calls_eq answered
  refine ⟨order_eq ▸ g.order_nodup, order_eq ▸ perm, ?_,
    ⟨nodes, nodes_perm, ids_eq.trans order_eq.symm, calls_eq⟩, outputs, ?_, ?_⟩
  · intro e member
    obtain ⟨source, target, before⟩ := wf.arc_onward ⟨e, member, rfl, rfl⟩
    rw [order_eq]
    exact ⟨perm.mem_iff.mpr source, perm.mem_iff.mpr target, before⟩
  · intro n member
    obtain ⟨-, executor, output, known, answer, held⟩ :=
      answered n (nodes_perm.mem_iff.mpr member)
    have named : n.id ∈ g.ids := List.mem_map_of_mem member
    rw [outputs n.id, if_pos named] at held
    cases Option.some.inj held
    exact ⟨executor, known, answer⟩
  · intro call member
    rw [calls_eq] at member
    obtain ⟨n, -, rfl⟩ := List.mem_map.mp member
    exact length_inputs_callUnder outcome.assigned n

/-- A run that goes through executes every node once, sources first, and its outputs are
the one solution of the graph. -/
theorem run_solves {outcome : Outcome} (done : (g.run m registry).result = .ok outcome) :
    ∃ o, g.IsRun registry (g.run m registry).calls outcome o ∧
      ∀ o', g.Solves registry o' → ∀ id ∈ g.ids, o' id = o id := by
  obtain ⟨wf, run⟩ := executes_of_run done
  have isRun := wf.isRun run
  refine ⟨outcome.assigned, isRun, fun o' solves' => ?_⟩
  refine solves'.eq_on_ids isRun.solves (g.order.idxOf ·) fun u v arc => ?_
  exact ⟨(wf.arc_onward arc).1, (wf.arc_onward arc).2.2⟩

/-! ## A run whose slots are against the order of the edges -/

namespace Pairing

/-- A node with two inputs, before its sources. -/
def graph : Graph where
  nodes := [{ id := "pair", type := "join" }, { id := "a", type := "name" },
    { id := "b", type := "name" }]
  edges := [{ source := "a", target := "pair", slot? := some (.string "1") },
    { source := "b", target := "pair", slot? := some (.string "0") }]

def manifest : Manifest :=
  (Manifest.insert {} "name" {}).insert "join"
    { requiresInput := true, ports := { inputs := [{}, {}], mode := .multi } }

/-- Names answer with their id, joins with the list of their inputs. -/
def executors : Registry :=
  (Registry.register {} "name" fun call => .ok (.string call.node)).register "join"
    fun call => .ok (.array call.inputs)

def outcome : Outcome where
  order := ["a", "b", "pair"]
  outputs := .ofList [("a", .string "a"), ("b", .string "b"),
    ("pair", .array [.string "b", .string "a"])]

theorem run_goes_through :
    (graph.run manifest executors).result = .ok outcome ∧
      ∃ o, graph.IsRun executors (graph.run manifest executors).calls outcome o ∧
        ∀ o', graph.Solves executors o' → ∀ id ∈ graph.ids, o' id = o id := by
  have order : graph.order = ["a", "b", "pair"] := by decide +kernel
  have inputs : graph.orderedInputs "pair" = _ :=
    orderedInputs_eq_flatMap (n := 2) (by decide)
  have done : (graph.run manifest executors).result = .ok outcome := by
    refine result_of_executes (by decide +kernel) rfl order
      ⟨_, .step rfl rfl rfl <| .step rfl rfl rfl <| .step rfl rfl ?_ .done⟩
    rw [Run.context, inputs]
    rfl
  exact ⟨done, run_solves done⟩

end Pairing

end Graph

end Dataflow
