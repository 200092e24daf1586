import Dataflow.Failure
import Dataflow.Graph.Basic
import Dataflow.Validation.Report

/-!
# Execution

Executors, the runs of valid graphs with them, and executors whose answers depend on the calls
made before.
-/

namespace Dataflow

/-!
## Executors

An executor computes the output of a node from what the node is and what its
inputs are. A registry holds at most one executor a node type.
-/

/-- What an executor gets to see of a node. -/
structure Context where
  node : String
  type : String
  params : Params
  inputs : List Json

/-- The output of a node, or why there is none. -/
abbrev Executor := Context → Except Failure Json

/-- Executors by node type. -/
structure Registry where
  executors : Table Executor := ∅

namespace Registry

/-- The registry with an executor added, in place of an earlier one of the type. -/
def register (r : Registry) (type : String) (executor : Executor) : Registry :=
  ⟨r.executors.insert type executor⟩

def executor? (r : Registry) (type : String) : Option Executor := r.executors.get? type

def has (r : Registry) (type : String) : Bool := (r.executor? type).isSome

/-- The types in a graph that have no executor, in order. -/
def missing (r : Registry) (g : Graph) : List String :=
  Table.sortedNames ((g.nodes.map (·.type)).filter (!r.has ·))

end Registry

/-!
## Runs

A valid graph is run node by node in topological order; each node gets the
outputs of the nodes before it. The first failure ends the run. The calls made
are part of the answer.
-/

/-- Puts the edges with a slot before those without and in order of slot; edges
with one slot, and those without, keep their order. -/
def Graph.orderedInputs (g : Graph) (id : String) : List Edge :=
  let incoming := g.incoming id
  let slotted := incoming.filterMap fun e => e.slotIndex?.map (·, e)
  let unslotted := incoming.filter (·.slotIndex?.isNone)
  (slotted.mergeSort fun a b => a.1.toNat ≤ b.1.toNat).map (·.2) ++ unslotted

/-- What a completed run gave: the ids in the order of their execution, and their
outputs. -/
structure Outcome where
  order : List String := []
  outputs : Table Json := ∅

/-- The calls that a run made, in order, and how it ended. -/
structure Trace where
  calls : List Context
  result : Except Failure Outcome

/-- The failure of an executor, with the node it happened on. -/
def Failure.onNode (node type : String) : Failure → Failure
  | .executor node type message => .executor node type message
  | failure => .executor node type failure.message

namespace Run

/-- What the executor of a node gets to see, given the outputs so far. -/
def context (g : Graph) (outputs : Table Json) (n : Node) : Context where
  node := n.id
  type := n.type
  params := n.params
  inputs := (g.orderedInputs n.id).filterMap fun e => outputs.get? e.source

/-- Executes the nodes of a list of ids, one after another. -/
def execute (g : Graph) (registry : Registry) : List String → Outcome → Trace
  | [], outcome => ⟨[], .ok outcome⟩
  | id :: rest, outcome =>
    match g.node? id with
    | none => ⟨[], .error (.other ("node '" ++ id ++ "' not found"))⟩
    | some n =>
      match registry.executor? n.type with
      | none => ⟨[], .error (.noExecutor n.type)⟩
      | some executor =>
        let call := context g outcome.outputs n
        match executor call with
        | .error failure => ⟨[call], .error (failure.onNode id n.type)⟩
        | .ok output =>
          let onward := execute g registry rest
            { order := outcome.order ++ [id], outputs := outcome.outputs.insert id output }
          ⟨call :: onward.calls, onward.result⟩

end Run

/-- Runs a graph: only when it is valid and every type in it has an executor. -/
def Graph.run (g : Graph) (m : Manifest) (registry : Registry) : Trace :=
  match (g.validate m).check with
  | .error failure => ⟨[], .error failure⟩
  | .ok _ =>
    match registry.missing g with
    | type :: _ => ⟨[], .error (.noExecutor type)⟩
    | [] => Run.execute g registry g.order {}

/-!
## Executors that look back

An executor may keep a state, alone or together with others, and what it answers then depends
on the calls that were made before. Such an executor is a function of these calls. It is
registered as any other, and a run goes on from call to call with the registry as it answers
by then.
-/

/-- An executor that sees the calls made before, of all nodes. -/
abbrev HistoryExecutor := List Context → Executor

/-- Executors with their node types, in the order in which they are registered. -/
abbrev Registrations := List (String × HistoryExecutor)

namespace Registrations

/-- The node types that have an executor. -/
def types (r : Registrations) : List String := r.map (·.1)

/-- The registry that is left by all registrations, as it answers after some calls. -/
def registry (r : Registrations) (made : List Context) : Registry :=
  r.foldl (fun registry e => registry.register e.1 (e.2 made)) {}

end Registrations

/-- Executes the nodes of a list of ids, each with the registry after the calls made so far. -/
def Run.executeAlong (g : Graph) (registry : List Context → Registry) :
    List String → List Context → Outcome → Trace
  | [], _, outcome => ⟨[], .ok outcome⟩
  | id :: rest, made, outcome =>
    let first := execute g (registry made) [id] outcome
    match first.result with
    | .error _ => first
    | .ok next =>
      let onward := executeAlong g registry rest (made ++ first.calls) next
      ⟨first.calls ++ onward.calls, onward.result⟩

/-- Runs a graph with executors that look back: only when it is valid and every type in it has
an executor. -/
def Graph.runAlong (g : Graph) (m : Manifest) (registry : List Context → Registry) : Trace :=
  match (g.validate m).check with
  | .error failure => ⟨[], .error failure⟩
  | .ok _ =>
    match (registry []).missing g with
    | type :: _ => ⟨[], .error (.noExecutor type)⟩
    | [] => Run.executeAlong g registry g.order [] {}

end Dataflow
