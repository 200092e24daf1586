import Dataflow.Failure
import Dataflow.Graph.Basic
import Dataflow.Graph.Traversal
import Dataflow.Validation.Issue

/-!
# Validation

The rules that graphs are checked by, and the report on a graph that they make. Validation never
fails.
-/

namespace Dataflow

/-!
## Rules

Each rule looks at a graph, most of them with a manifest, and lists the issues it
finds, in the order of the nodes or edges they are on. Nodes that are
placeholders are not held to any node type.
-/

namespace Graph

/-- The node type that the node of an id is held to; the first node of the id
counts. -/
def typeAt? (g : Graph) (m : Manifest) (id : String) : Option NodeType :=
  (g.node? id).bind m.typeOf?

/-- The ids of nodes that are held to a type with a property, in node order. -/
def idsWhere (g : Graph) (m : Manifest) (property : NodeType → Bool) : List String :=
  (g.nodes.filter fun n => (m.typeOf? n).any property).map (·.id)

def sinks (g : Graph) (m : Manifest) : List String := g.idsWhere m NodeType.isSink

def sources (g : Graph) (m : Manifest) : List String := g.idsWhere m NodeType.isSource

/-- The placeholders among the nodes. -/
def placeholders (g : Graph) (m : Manifest) : List Node := g.nodes.filter m.isPlaceholder

/-- The ids that are not empty and that more than one node has, by first
occurrence. -/
def repeatedIds (g : Graph) : List String :=
  (g.ids.filter (· != "")).eraseDups.filter fun id => 1 < g.ids.count id

/-- Every node has an id, and no two have the same. -/
def identityIssues (g : Graph) : List Issue :=
  (g.nodes.zipIdx.filter (·.1.id == "")).map (fun entry => .idMissing entry.2)
    ++ g.repeatedIds.map .idDuplicate

/-- The slot of an edge fits the inputs of its target. -/
def slotIssues (g : Graph) (index : Nat) (e : Edge) (target : NodeType) : List Issue :=
  let type := ((g.node? e.target).map (·.type)).getD ""
  match e.slot?, e.slotValue? with
  | some written, some .invalid => [.slotInvalid index e.source e.target written]
  | some _, some (.index slot) =>
    let declared := target.ports.inputs.length
    match target.ports.mode with
    | .single => if slot = 0 then [] else [.slotBeyondSingle index slot type]
    | .multi =>
      if 0 < declared ∧ declared ≤ slot.toNat then [.slotBeyondInputs index slot declared type]
      else []
    | .variadic => []
  | _, _ => []

/-- What an edge carries fits its target. Only the types of two nodes that are no
placeholders can be compared. -/
def fitIssues (g : Graph) (m : Manifest) (index : Nat) (e : Edge) : List Issue :=
  match g.typeAt? m e.source, g.typeAt? m e.target with
  | some source, some target =>
    let produced := source.ports.output
    let accepted := target.acceptedKinds
    (if produced = "" ∨ accepted = [] ∨ produced ∈ accepted then []
      else [.typeMismatch index e.source e.target produced accepted])
      ++ g.slotIssues index e target
  | _, _ => []

/-- An edge has two ends, which are ids of different nodes, and fits them. -/
def edgeIssues (g : Graph) (m : Manifest) (index : Nat) (e : Edge) : List Issue :=
  if e.hasEnds then
    (if g.hasNode e.source then [] else [.sourceMissing index e.source])
      ++ (if g.hasNode e.target then [] else [.targetMissing index e.target])
      ++ (if e.source = e.target then [.selfEdge index e.source] else [])
      ++ g.fitIssues m index e
  else [.edgeShape index]

/-- A node has as many inputs and outputs as its type wants. -/
def arityIssues (g : Graph) (m : Manifest) (n : Node) : List Issue :=
  match m.typeOf? n with
  | none => []
  | some type =>
    let inputs := (g.incoming n.id).length
    let outputs := (g.outgoing n.id).length
    (if type.requiresInput ∧ inputs = 0 then [.inputsRequired n.id n.type] else [])
      ++ (match type.ports.mode with
        | .single => if 1 < inputs then [.inputsExcess n.id n.type inputs] else []
        | .multi | .variadic =>
          if inputs < type.minInputs then [.inputsMissing n.id n.type type.minInputs] else [])
      ++ (match type.outputs? with
        | some declared =>
          if declared.toNat < outputs then [.outputsExcess n.id n.type outputs declared] else []
        | none => [])

/-- A node has only parameters that its type knows. -/
def paramIssues (m : Manifest) (n : Node) : List Issue :=
  match m.typeOf? n with
  | none => []
  | some type =>
    (n.params.keys.filter (!type.defaults.contains ·)).map (.paramUnknown n.id n.type)

/-- Every node finds its place in the topological order. Nodes of one id have one
place between them. -/
def cycleIssues (g : Graph) : List Issue :=
  if g.order.length < g.nodes.length then [.cycle] else []

/-- The sinks from which a placeholder is met on the way back. -/
def blockedSinks (g : Graph) (m : Manifest) : List String :=
  let missing := (g.placeholders m).map (·.id)
  (g.sinks m).filter (g.comesFrom (missing.contains ·))

/-- Every sink is reached from a source. -/
def connectionIssues (g : Graph) (m : Manifest) : List Issue :=
  let reached := g.reachable (g.sources m)
  match (g.sinks m).filter (!reached.contains ·) with
  | [] => []
  | unreached => [.disconnected unreached]

/-- Every node has an edge. -/
def isolationIssues (g : Graph) : List Issue :=
  (g.nodes.filter fun n => (g.incoming n.id).isEmpty && (g.outgoing n.id).isEmpty).map
    fun n => .isolated n.id n.type

/-- All issues, rule by rule. -/
def issues (g : Graph) (m : Manifest) : List Issue :=
  g.identityIssues
    ++ g.edges.zipIdx.flatMap (fun entry => g.edgeIssues m entry.2 entry.1)
    ++ g.nodes.flatMap (g.arityIssues m)
    ++ g.nodes.flatMap (paramIssues m)
    ++ g.cycleIssues
    ++ g.connectionIssues m
    ++ g.isolationIssues

end Graph

/-!
## Reports

The report on a graph: errors, warnings, placeholders, and the sinks that
placeholders block. A graph is valid when there is neither error nor
placeholder. Validation never fails; a document that is no graph gets a report
with one error.
-/

/-- A node that stands for one that is still missing. -/
structure Placeholder where
  id : String
  type : String
  deriving DecidableEq

namespace Placeholder

/-- The placeholder of a node; an empty type is shown as `unknown`. -/
def ofNode (n : Node) : Placeholder := ⟨n.id, if n.type = "" then "unknown" else n.type⟩

def toJson (p : Placeholder) : Json := .object [("id", .string p.id), ("type", .string p.type)]

end Placeholder

/-- What validation found. -/
structure Report where
  errors : List Issue := []
  warnings : List Issue := []
  placeholders : List Placeholder := []
  blockedSinks : List String := []

namespace Report

/-- Whether the graph is valid. -/
def ok (r : Report) : Bool := r.errors.isEmpty && r.placeholders.isEmpty

/-- All issues, errors first. -/
def issues (r : Report) : List Issue := r.errors ++ r.warnings

/-- Whether there is an issue with a code. -/
def hasCode (r : Report) (code : IssueCode) : Bool := r.issues.any (·.code == code)

/-- Nothing for a valid graph, else a failure that names every error and
placeholder. -/
def check (r : Report) : Except Failure Unit :=
  if r.ok then .ok ()
  else
    .error (.invalidGraph (String.intercalate "; "
      (r.errors.map Issue.line
        ++ r.placeholders.map fun p => "placeholder node " ++ p.id ++ " (" ++ p.type ++ ")")))

def toJson (r : Report) : Json :=
  .object [
    ("ok", .bool r.ok),
    ("errors", .array (r.errors.map Issue.toJson)),
    ("warnings", .array (r.warnings.map Issue.toJson)),
    ("placeholders", .array (r.placeholders.map Placeholder.toJson)),
    ("blockedSinks", Json.ofStrings r.blockedSinks)]

end Report

def Graph.validate (g : Graph) (m : Manifest) : Report where
  errors := (g.issues m).filter (·.isError)
  warnings := (g.issues m).filter (!·.isError)
  placeholders := (g.placeholders m).map Placeholder.ofNode
  blockedSinks := g.blockedSinks m

/-- The report on a document. -/
def Report.ofDocument (v : Json) (m : Manifest) : Report :=
  match Graph.ofDocument v with
  | .ok g => g.validate m
  | .error cause => { errors := [.schema cause] }

end Dataflow
