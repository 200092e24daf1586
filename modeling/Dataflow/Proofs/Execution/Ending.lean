import Dataflow.Proofs.Execution.Registry
import Dataflow.Proofs.Execution.Run

/-!
# How a run ends

A graph that is not valid is not run, and neither is one with a type that has no executor.
Any other is executed node by node in topological order up to the first failure, which is
reported with the node it happened on (`run_ends`).

None of this depends on what the executors do, so it is said of executors that look back:
`Registrations.Answers` says who answers a call and what it knows by then, `Run.Halts` how the
answers end the run. The run of executors that do not look back is a special case
(`runAlong_const`).
-/

namespace Dataflow

variable {g : Graph} {m : Manifest} {r : Registrations} {made : List Context}

/-! ## Answers and failures -/

/-- Every call is answered by the executor that was registered last for its type, which knows
the calls before it. -/
inductive Registrations.Answers (r : Registrations) :
    List Context → List Context → List (Except Failure Json) → Prop where
  | done {made : List Context} : Answers r made [] []
  | call {made calls : List Context} {answers : List (Except Failure Json)} {call : Context}
      {executor : HistoryExecutor} (last : r.Last call.type executor)
      (onward : Answers r (made ++ [call]) calls answers) :
      Answers r made (call :: calls) (executor made call :: answers)

/-- What is reported of a failure on a node of some type. -/
inductive Failure.ReportedOn (node type : String) : Failure → Failure → Prop where
  /-- What is known as the failure of an executor is reported as it is. -/
  | own (node' type' text : String) :
      ReportedOn node type (.executor node' type' text) (.executor node' type' text)
  /-- Any other failure is reported in its own words, with the node and its type. -/
  | named {failure : Failure} (other : ∀ node' type' text, failure ≠ .executor node' type' text) :
      ReportedOn node type failure (.executor node type failure.message)

theorem Failure.reportedOn_onNode (node type : String) (failure : Failure) :
    failure.ReportedOn node type (failure.onNode node type) := by
  cases failure with
  | executor node' type' text => exact .own node' type' text
  | _ => exact .named (by simp)

namespace Run

/-- How the execution of some ids ends with the answers to its calls. -/
inductive Halts (ids : List String) (trace : Trace) : List (Except Failure Json) → Prop where
  /-- All ids were called, and all calls gave outputs. -/
  | completed (outputs : List Json) (outcome : Outcome)
      (all : trace.calls.map (·.node) = ids) (result : trace.result = .ok outcome) :
      Halts ids trace (outputs.map .ok)
  /-- The last call failed and none before it. -/
  | failed (outputs : List Json) (failure reported : Failure) (earlier : List Context)
      (call : Context) (last : trace.calls = earlier ++ [call])
      (report : failure.ReportedOn call.node call.type reported)
      (result : trace.result = .error reported) :
      Halts ids trace (outputs.map .ok ++ [.error failure])

/-- What the execution of some ids shows after the calls made before. -/
structure Follows (g : Graph) (r : Registrations) (ids : List String) (made : List Context)
    (trace : Trace) : Prop where
  /-- The calls go through the ids one by one. -/
  inOrder : trace.calls.map (·.node) <+: ids
  /-- Every call is of a node. -/
  ofNodes : ∀ call ∈ trace.calls, ∃ n ∈ g.nodes,
    call.node = n.id ∧ call.type = n.type ∧ call.params = n.params
  halts : ∃ answers, r.Answers made trace.calls answers ∧ Halts ids trace answers

/-! ## Call by call -/

section

variable {registry : List Context → Registry} {id : String} {rest : List String}
  {outcome : Outcome} {n : Node} {executor : Executor}

theorem executeAlong_of_error {failure : Failure} (found : g.node? id = some n)
    (known : (registry made).executor? n.type = some executor)
    (answer : executor (context g outcome.outputs n) = .error failure) :
    executeAlong g registry (id :: rest) made outcome =
      ⟨[context g outcome.outputs n], .error (failure.onNode id n.type)⟩ := by
  simp only [executeAlong, execute, found, known, answer]

/-- After an answer the run goes on with the call remembered and the output at hand. -/
theorem executeAlong_of_ok {output : Json} (found : g.node? id = some n)
    (known : (registry made).executor? n.type = some executor)
    (answer : executor (context g outcome.outputs n) = .ok output) :
    executeAlong g registry (id :: rest) made outcome =
      let onward := executeAlong g registry rest (made ++ [context g outcome.outputs n])
        { order := outcome.order ++ [id], outputs := outcome.outputs.insert id output }
      ⟨context g outcome.outputs n :: onward.calls, onward.result⟩ := by
  simp only [executeAlong, execute, found, known, answer, List.singleton_append]

/-- What an execution comes to that has an id to execute. -/
inductive AlongCons (g : Graph) (registry : List Context → Registry) (id : String)
    (rest : List String) (made : List Context) (outcome : Outcome) : Trace → Prop where
  /-- There is no such node, or no executor of its type. -/
  | refused (failure : Failure) : AlongCons g registry id rest made outcome ⟨[], .error failure⟩
  | failed {n : Node} {executor : Executor} {failure : Failure} (found : g.node? id = some n)
      (known : (registry made).executor? n.type = some executor)
      (answer : executor (context g outcome.outputs n) = .error failure) :
      AlongCons g registry id rest made outcome
        ⟨[context g outcome.outputs n], .error (failure.onNode id n.type)⟩
  | answered {n : Node} {executor : Executor} {output : Json} {onward : Trace}
      (found : g.node? id = some n)
      (known : (registry made).executor? n.type = some executor)
      (answer : executor (context g outcome.outputs n) = .ok output)
      (later : onward = executeAlong g registry rest (made ++ [context g outcome.outputs n])
        { order := outcome.order ++ [id], outputs := outcome.outputs.insert id output }) :
      AlongCons g registry id rest made outcome
        ⟨context g outcome.outputs n :: onward.calls, onward.result⟩

/-- From an id on, an execution is refused, fails, or goes on with an answer. -/
theorem executeAlong_cons (g : Graph) (registry : List Context → Registry) (id : String)
    (rest : List String) (made : List Context) (outcome : Outcome) :
    AlongCons g registry id rest made outcome
      (executeAlong g registry (id :: rest) made outcome) := by
  cases found : g.node? id with
  | none =>
      simp only [executeAlong, execute, found]
      exact .refused _
  | some n =>
      cases known : (registry made).executor? n.type with
      | none =>
          simp only [executeAlong, execute, found, known]
          exact .refused _
      | some executor =>
          cases answer : executor (context g outcome.outputs n) with
          | error failure =>
              rw [executeAlong_of_error found known answer]
              exact .failed found known answer
          | ok output =>
              rw [executeAlong_of_ok found known answer]
              exact .answered found known answer rfl

/-- The calls go through the ids one by one. -/
theorem executeAlong_inOrder (g : Graph) (registry : List Context → Registry)
    (ids : List String) (made : List Context) (outcome : Outcome) :
    (executeAlong g registry ids made outcome).calls.map (·.node) <+: ids := by
  induction ids generalizing made outcome with
  | nil => exact List.prefix_rfl
  | cons id rest ih =>
      have first := executeAlong_cons g registry id rest made outcome
      generalize executeAlong g registry (id :: rest) made outcome = trace at first ⊢
      cases first with
      | refused failure => exact List.nil_prefix
      | failed found known answer =>
          obtain ⟨-, rfl⟩ := Graph.mem_of_node? found
          exact List.cons_prefix_cons.mpr ⟨rfl, List.nil_prefix⟩
      | answered found known answer later =>
          obtain ⟨-, rfl⟩ := Graph.mem_of_node? found
          rw [later]
          exact List.cons_prefix_cons.mpr ⟨rfl, ih _ _⟩

end

theorem Halts.call {ids : List String} {trace : Trace} {answers : List (Except Failure Json)}
    (halts : Halts ids trace answers) (call : Context) (output : Json) :
    Halts (call.node :: ids) ⟨call :: trace.calls, trace.result⟩ (.ok output :: answers) := by
  cases halts with
  | completed outputs outcome all result =>
      exact .completed (output :: outputs) outcome (by rw [List.map_cons, all]) result
  | failed outputs failure reported earlier failing last report result =>
      exact .failed (output :: outputs) failure reported (call :: earlier) failing
        (by rw [last, List.cons_append]) report result

/-- Where all ids have nodes, and those have executors, the calls go on up to the first
failure. -/
theorem executeAlong_follows {ids : List String}
    (known : ∀ id ∈ ids, ∃ n, g.node? id = some n ∧ n.type ∈ r.types) (made : List Context)
    (outcome : Outcome) :
    Follows g r ids made (executeAlong g r.registry ids made outcome) := by
  induction ids generalizing made outcome with
  | nil =>
      exact ⟨executeAlong_inOrder .., by simp [executeAlong], [], .done,
        .completed [] outcome rfl rfl⟩
  | cons id rest ih =>
      obtain ⟨⟨n, found, typed⟩, later⟩ := List.forall_mem_cons.mp known
      obtain ⟨executor, last⟩ := Registrations.exists_last typed
      have held := Registrations.executor?_of_last last made
      obtain ⟨member, rfl⟩ := Graph.mem_of_node? found
      let call := context g outcome.outputs n
      have ofNode : ∃ n' ∈ g.nodes,
          call.node = n'.id ∧ call.type = n'.type ∧ call.params = n'.params :=
        ⟨n, member, rfl, rfl, rfl⟩
      have inOrder := executeAlong_inOrder g r.registry (n.id :: rest) made outcome
      cases answer : executor made call with
      | error failure =>
          rw [executeAlong_of_error found held answer] at inOrder ⊢
          refine ⟨inOrder, List.forall_mem_singleton.mpr ofNode, _, .call last .done, ?_⟩
          rw [answer]
          exact .failed [] failure _ [] call rfl (failure.reportedOn_onNode n.id n.type) rfl
      | ok output =>
          rw [executeAlong_of_ok found held answer] at inOrder ⊢
          obtain ⟨-, ofNodes, answers, answered, halts⟩ := ih later (made ++ [call])
            { order := outcome.order ++ [n.id], outputs := outcome.outputs.insert n.id output }
          refine ⟨inOrder, List.forall_mem_cons.mpr ⟨ofNode, ofNodes⟩, _, .call last answered, ?_⟩
          rw [answer]
          exact halts.call call output

/-- An executor that does not look back is asked as in a plain execution. -/
theorem executeAlong_const (g : Graph) (registry : Registry) (ids : List String)
    (made : List Context) (outcome : Outcome) :
    executeAlong g (fun _ => registry) ids made outcome = execute g registry ids outcome := by
  induction ids generalizing made outcome with
  | nil => rfl
  | cons id rest ih =>
      cases found : g.node? id with
      | none => simp only [executeAlong, execute, found]
      | some n =>
          cases known : registry.executor? n.type with
          | none => simp only [executeAlong, execute, found, known]
          | some executor =>
              cases answer : executor (context g outcome.outputs n) with
              | error failure =>
                  rw [executeAlong_of_error found known answer]
                  simp only [execute, found, known, answer]
              | ok output =>
                  rw [executeAlong_of_ok found known answer, ih]
                  simp only [execute, found, known, answer]

end Run

/-! ## Runs -/

namespace Graph

/-- Executors that do not look back make a run of the plain kind. -/
theorem runAlong_const (g : Graph) (m : Manifest) (registry : Registry) :
    g.runAlong m (fun _ => registry) = g.run m registry := by
  unfold runAlong run
  cases (g.validate m).check with
  | error failure => rfl
  | ok valid =>
      cases registry.missing g with
      | nil => exact Run.executeAlong_const g registry g.order [] {}
      | cons type rest => rfl

theorem runAlong_of_invalid {registry : List Context → Registry}
    (invalid : (g.validate m).ok = false) :
    ∃ text, g.runAlong m registry = ⟨[], .error (.invalidGraph text)⟩ := by
  rw [runAlong, Report.check, if_neg (by simp [invalid])]
  exact ⟨_, rfl⟩

theorem runAlong_of_missing {registry : List Context → Registry} {type : String}
    {rest : List String} (valid : (g.validate m).ok = true)
    (missing : (registry []).missing g = type :: rest) :
    g.runAlong m registry = ⟨[], .error (.noExecutor type)⟩ := by
  rw [runAlong, Report.check, if_pos valid]
  simp only [missing]

theorem runAlong_of_ready {registry : List Context → Registry}
    (valid : (g.validate m).ok = true) (ready : (registry []).missing g = []) :
    g.runAlong m registry = Run.executeAlong g registry g.order [] {} := by
  rw [runAlong, Report.check, if_pos valid]
  simp only [ready]

/-- A valid graph has a node for every id of its order. -/
theorem WellFormed.exists_node? (wf : g.WellFormed m) {id : String} (member : id ∈ g.order) :
    ∃ n ∈ g.nodes, g.node? id = some n := by
  obtain ⟨n, found⟩ := Graph.exists_node? (wf.order_perm.mem_iff.mp member)
  exact ⟨n, (mem_of_node? found).1, found⟩

/-- The least type of a graph that has no executor. -/
structure LeastMissing (g : Graph) (r : Registrations) (type : String) : Prop where
  used : ∃ n ∈ g.nodes, n.type = type
  missing : type ∉ r.types
  least : ∀ n ∈ g.nodes, n.type ∉ r.types → type ≤ n.type

/-- A run of a valid graph whose types all have executors. -/
structure RunsInOrder (g : Graph) (r : Registrations) (trace : Trace) : Prop where
  /-- The order holds every node, and every edge leads onward. -/
  perm : g.order.Perm g.ids
  onward : ∀ e ∈ g.edges, g.order.idxOf e.source < g.order.idxOf e.target
  /-- Neither a node nor an executor is ever looked up in vain. -/
  found : ∀ id ∈ g.order, ∃ n, g.node? id = some n ∧
    ∀ made, ∃ executor, (r.registry made).executor? n.type = some executor
  follows : Run.Follows g r g.order [] trace

/-- The type that a run reports is the least that is missing. -/
theorem leastMissing_of_missing {type : String} {rest : List String}
    (missing : (r.registry made).missing g = type :: rest) : g.LeastMissing r type := by
  have lacking : ∀ {type}, (r.registry made).has type = false ↔ type ∉ r.types := by
    intro type
    rw [← Bool.not_eq_true, Registrations.has_registry_iff]
  obtain ⟨used, unknown⟩ := Registry.mem_missing.mp (missing ▸ List.mem_cons_self)
  refine ⟨used, lacking.mp unknown, fun n member other => ?_⟩
  exact Registry.head_missing_le missing n.type
    (Registry.mem_missing.mpr ⟨⟨n, member, rfl⟩, lacking.mpr other⟩)

/-- On a well-formed graph whose types are all known, the run follows the order to its end or to
the first failure. -/
theorem WellFormed.runsInOrder (wf : g.WellFormed m) (known : ∀ n ∈ g.nodes, n.type ∈ r.types) :
    g.RunsInOrder r (Run.executeAlong g r.registry g.order [] {}) where
  perm := wf.order_perm
  onward := fun e member => (wf.arc_onward ⟨e, member, rfl, rfl⟩).2.2
  found := by
    intro id member
    obtain ⟨n, inside, found⟩ := wf.exists_node? member
    obtain ⟨executor, last⟩ := Registrations.exists_last (known n inside)
    exact ⟨n, found, fun made => ⟨executor made, Registrations.executor?_of_last last made⟩⟩
  follows := by
    refine Run.executeAlong_follows (fun id member => ?_) [] {}
    obtain ⟨n, inside, found⟩ := wf.exists_node? member
    exact ⟨n, found, known n inside⟩

/-- A graph is refused, without a call, when it is not valid or else when a type of it has no
executor, and then the least such type is named. Any other is executed in topological order up
to the first failure, whatever the executors do; without looking back this is the plain run. -/
theorem run_ends (g : Graph) (m : Manifest) (r : Registrations) :
    let trace := g.runAlong m r.registry
    ((g.validate m).ok = false →
      trace.calls = [] ∧ ∃ text, trace.result = .error (.invalidGraph text)) ∧
    ((g.validate m).ok = true → (∃ n ∈ g.nodes, n.type ∉ r.types) →
      trace.calls = [] ∧ ∃ type, g.LeastMissing r type ∧
        trace.result = .error (.noExecutor type)) ∧
    ((g.validate m).ok = true → (∀ n ∈ g.nodes, n.type ∈ r.types) → g.RunsInOrder r trace) ∧
    ∀ registry, g.runAlong m (fun _ => registry) = g.run m registry := by
  intro trace
  have all_known : (r.registry []).missing g = [] ↔ ∀ n ∈ g.nodes, n.type ∈ r.types := by
    simp only [Registry.missing_eq_nil_iff, Registrations.has_registry_iff]
  refine ⟨?_, ?_, ?_, g.runAlong_const m⟩
  · intro invalid
    obtain ⟨text, refused⟩ : ∃ text, trace = ⟨[], .error (.invalidGraph text)⟩ :=
      runAlong_of_invalid invalid
    exact ⟨congrArg Trace.calls refused, text, congrArg Trace.result refused⟩
  · rintro valid ⟨n, member, unknown⟩
    cases missing : (r.registry []).missing g with
    | nil => exact absurd (all_known.mp missing n member) unknown
    | cons type rest =>
        have refused := runAlong_of_missing valid missing
        exact ⟨congrArg Trace.calls refused, type, leastMissing_of_missing missing,
          congrArg Trace.result refused⟩
  · intro valid known
    obtain ⟨clean, none⟩ := validate_ok_iff.mp valid
    show g.RunsInOrder r (g.runAlong m r.registry)
    rw [runAlong_of_ready valid (all_known.mpr known)]
    exact (wellFormed_of_clean clean none).runsInOrder known

/-! ## A gate that lets one call through -/

namespace Gate

def manifest : Manifest := Manifest.insert {} "gate" {}

def graph : Graph where
  nodes := [{ id := "c", type := "gate" }, { id := "a", type := "gate" },
    { id := "b", type := "gate" }]
  edges := [.between "a" "b", .between "b" "c"]

/-- The second executor takes the place of the first. It fails from its second call on. -/
def executors : Registrations := [
  ("gate", fun _ _ => .error (.other "closed")),
  ("gate", fun made call =>
    if made.isEmpty then .ok (.string call.node) else .error (.other "full"))]

theorem run_ends_full :
    let trace := graph.runAlong manifest executors.registry
    ((graph.validate manifest).ok = true ∧ (∀ n ∈ graph.nodes, n.type ∈ executors.types) ∧
      trace.calls.map (·.node) = ["a", "b"] ∧
      trace.result = .error (.executor "b" "gate" "full") ∧ graph.RunsInOrder executors trace) ∧
    ((∃ n ∈ graph.nodes, n.type ∉ Registrations.types []) ∧
      ∃ type, graph.LeastMissing [] type ∧
        (graph.runAlong manifest (Registrations.registry [])).result = .error (.noExecutor type)) ∧
    ((graph.validate {}).ok = false ∧
      ∃ text, (graph.runAlong {} executors.registry).result = .error (.invalidGraph text)) := by
  have valid : (graph.validate manifest).ok = true := by decide +kernel
  have known : ∀ n ∈ graph.nodes, n.type ∈ executors.types := by decide
  have unknown : ∃ n ∈ graph.nodes, n.type ∉ Registrations.types [] := by decide
  have invalid : (graph.validate {}).ok = false := by decide +kernel
  refine ⟨⟨valid, known, rfl, rfl, (run_ends graph manifest executors).2.2.1 valid known⟩, ?_, ?_⟩
  · exact ⟨unknown, ((run_ends graph manifest []).2.1 valid unknown).2⟩
  · exact ⟨invalid, ((run_ends graph {} executors).1 invalid).2⟩

end Gate

end Graph

end Dataflow
