import Dataflow.Graph.Json
import Dataflow.Json.Writer
import Dataflow.Manifest.Basic

/-!
# Issues

What can be wrong with a graph. An issue holds its cause; its code, severity,
wording and place are read off the cause.
-/

namespace Dataflow

/-- Whether an issue makes a graph unusable. -/
inductive Severity where
  | error
  | warning
  deriving DecidableEq

/-- The stable name of a kind of issue. -/
inductive IssueCode where
  | schemaNodes
  | schemaEdges
  | nodeIdMissing
  | nodeIdDuplicate
  | edgeShape
  | edgeFromMissing
  | edgeToMissing
  | edgeSelf
  | edgeTypeMismatch
  | edgeSlotInvalid
  | edgeSlotOutOfRange
  | nodeInputsRequired
  | nodeInputsMissing
  | nodeInputsExcess
  | nodeOutputsExcess
  | paramUnknown
  | graphCycle
  | graphDisconnected
  | nodeIsolated
  deriving DecidableEq

namespace IssueCode

/-- All codes with their names. -/
def names : List (String × IssueCode) := [
  ("schema/nodes", .schemaNodes),
  ("schema/edges", .schemaEdges),
  ("node/id-missing", .nodeIdMissing),
  ("node/id-duplicate", .nodeIdDuplicate),
  ("edge/shape", .edgeShape),
  ("edge/from-missing", .edgeFromMissing),
  ("edge/to-missing", .edgeToMissing),
  ("edge/self", .edgeSelf),
  ("edge/type-mismatch", .edgeTypeMismatch),
  ("edge/slot-invalid", .edgeSlotInvalid),
  ("edge/slot-out-of-range", .edgeSlotOutOfRange),
  ("node/inputs-required", .nodeInputsRequired),
  ("node/inputs-missing", .nodeInputsMissing),
  ("node/inputs-excess", .nodeInputsExcess),
  ("node/outputs-excess", .nodeOutputsExcess),
  ("param/unknown", .paramUnknown),
  ("graph/cycle", .graphCycle),
  ("graph/disconnected", .graphDisconnected),
  ("node/isolated", .nodeIsolated)]

def name : IssueCode → String
  | .schemaNodes => "schema/nodes"
  | .schemaEdges => "schema/edges"
  | .nodeIdMissing => "node/id-missing"
  | .nodeIdDuplicate => "node/id-duplicate"
  | .edgeShape => "edge/shape"
  | .edgeFromMissing => "edge/from-missing"
  | .edgeToMissing => "edge/to-missing"
  | .edgeSelf => "edge/self"
  | .edgeTypeMismatch => "edge/type-mismatch"
  | .edgeSlotInvalid => "edge/slot-invalid"
  | .edgeSlotOutOfRange => "edge/slot-out-of-range"
  | .nodeInputsRequired => "node/inputs-required"
  | .nodeInputsMissing => "node/inputs-missing"
  | .nodeInputsExcess => "node/inputs-excess"
  | .nodeOutputsExcess => "node/outputs-excess"
  | .paramUnknown => "param/unknown"
  | .graphCycle => "graph/cycle"
  | .graphDisconnected => "graph/disconnected"
  | .nodeIsolated => "node/isolated"

def severity : IssueCode → Severity
  | .edgeSelf | .nodeInputsExcess | .nodeOutputsExcess | .paramUnknown | .graphDisconnected
  | .nodeIsolated => .warning
  | _ => .error

def ofJson? : Json → Option IssueCode := Json.case? names

end IssueCode

/-- An issue by its cause. Nodes and edges are named as they are in the graph;
`index` is a place in the list of nodes or edges. -/
inductive Issue where
  /-- The document has no list of nodes or no list of edges. -/
  | schema (cause : Graph.SchemaError)
  /-- A node has no id. -/
  | idMissing (index : Nat)
  /-- Several nodes have one id. -/
  | idDuplicate (id : String)
  /-- An edge lacks an end. -/
  | edgeShape (index : Nat)
  /-- No node has the id an edge comes from. -/
  | sourceMissing (index : Nat) (source : String)
  /-- No node has the id an edge leads to. -/
  | targetMissing (index : Nat) (target : String)
  /-- An edge leads back to where it comes from. -/
  | selfEdge (index : Nat) (id : String)
  /-- The source gives out a kind that the target does not accept. -/
  | typeMismatch (index : Nat) (source target produced : String) (accepted : List String)
  /-- A slot is no index. -/
  | slotInvalid (index : Nat) (source target : String) (slot : Json)
  /-- A slot other than zero on a target with a single input. -/
  | slotBeyondSingle (index : Nat) (slot : UInt64) (type : String)
  /-- A slot beyond the inputs that the target declares. -/
  | slotBeyondInputs (index : Nat) (slot : UInt64) (declared : Nat) (type : String)
  /-- A node without input, of a type that requires it. -/
  | inputsRequired (node type : String)
  /-- A node with fewer inputs than its type needs. -/
  | inputsMissing (node type : String) (least : Nat)
  /-- A node with several inputs, of a type that takes one. -/
  | inputsExcess (node type : String) (count : Nat)
  /-- A node with more outputs than its type declares. -/
  | outputsExcess (node type : String) (count : Nat) (declared : UInt32)
  /-- A parameter that the type does not know. -/
  | paramUnknown (node type param : String)
  /-- The edges form a cycle, or ids repeat. -/
  | cycle
  /-- Sinks that no source reaches. -/
  | disconnected (sinks : List String)
  /-- A node without edges. -/
  | isolated (node type : String)

namespace Issue

def code : Issue → IssueCode
  | .schema .nodesNotArray => .schemaNodes
  | .schema .edgesNotArray => .schemaEdges
  | .idMissing .. => .nodeIdMissing
  | .idDuplicate .. => .nodeIdDuplicate
  | .edgeShape .. => .edgeShape
  | .sourceMissing .. => .edgeFromMissing
  | .targetMissing .. => .edgeToMissing
  | .selfEdge .. => .edgeSelf
  | .typeMismatch .. => .edgeTypeMismatch
  | .slotInvalid .. => .edgeSlotInvalid
  | .slotBeyondSingle .. | .slotBeyondInputs .. => .edgeSlotOutOfRange
  | .inputsRequired .. => .nodeInputsRequired
  | .inputsMissing .. => .nodeInputsMissing
  | .inputsExcess .. => .nodeInputsExcess
  | .outputsExcess .. => .nodeOutputsExcess
  | .paramUnknown .. => .paramUnknown
  | .cycle => .graphCycle
  | .disconnected .. => .graphDisconnected
  | .isolated .. => .nodeIsolated

/-- Whether an issue makes the graph unusable. -/
def isError (i : Issue) : Bool := i.code.severity == .error

def message : Issue → String
  | .schema .nodesNotArray => "nodes must be an array"
  | .schema .edgesNotArray => "edges must be an array"
  | .idMissing index => "node at index " ++ index.repr ++ " has no id"
  | .idDuplicate id => "duplicate node id: " ++ id
  | .edgeShape index => "edge missing from/to at index " ++ index.repr
  | .sourceMissing _ source => "edge.from references missing node " ++ source
  | .targetMissing _ target => "edge.to references missing node " ++ target
  | .selfEdge _ id => "self edge on " ++ id
  | .typeMismatch _ source target produced accepted =>
    "edge " ++ source ++ "->" ++ target ++ " type mismatch: " ++ produced
      ++ " -> expected one of [" ++ String.intercalate ", " accepted ++ "]"
  | .slotInvalid _ source target slot =>
    "invalid slot for edge " ++ source ++ "->" ++ target ++ ": " ++ slot.compact
  | .slotBeyondSingle _ slot type =>
    "slot " ++ slot.toNat.repr ++ " out of range for single-input node " ++ type
  | .slotBeyondInputs _ slot declared type =>
    "slot " ++ slot.toNat.repr ++ " >= " ++ declared.repr ++ " for node " ++ type
  | .inputsRequired _ type => type ++ " requires input(s)"
  | .inputsMissing _ type least => type ++ " requires at least " ++ least.repr ++ " inputs"
  | .inputsExcess _ type count => type ++ " expects a single input but has " ++ count.repr
  | .outputsExcess _ type count declared =>
    type ++ " has more outputs (" ++ count.repr ++ ") than declared ("
      ++ declared.toNat.repr ++ ")"
  | .paramUnknown _ type param => "unknown param '" ++ param ++ "' on " ++ type
  | .cycle => "graph contains a cycle"
  | .disconnected sinks =>
    "no complete source→sink path found for: " ++ String.intercalate ", " sinks
  | .isolated node type => "node " ++ node ++ " (" ++ type ++ ") is isolated"

/-- Where in the document an issue is. -/
def path : Issue → String
  | .schema .nodesNotArray => "nodes"
  | .schema .edgesNotArray => "edges"
  | .idMissing index => "nodes." ++ index.repr
  | .idDuplicate id => "nodes." ++ id
  | .edgeShape index | .selfEdge index _ | .typeMismatch index .. => "edges." ++ index.repr
  | .sourceMissing index _ => "edges." ++ index.repr ++ ".from"
  | .targetMissing index _ => "edges." ++ index.repr ++ ".to"
  | .slotInvalid index .. | .slotBeyondSingle index .. | .slotBeyondInputs index .. =>
    "edges." ++ index.repr ++ ".slot"
  | .inputsRequired node _ | .inputsMissing node .. | .inputsExcess node ..
  | .outputsExcess node .. | .isolated node _ => "nodes." ++ node
  | .paramUnknown node _ param => "nodes." ++ node ++ ".params." ++ param
  | .cycle | .disconnected _ => "edges"

/-- An issue in a line: its code and its wording. -/
def line (i : Issue) : String := i.code.name ++ ": " ++ i.message

def json (code : IssueCode) (message path : String) : Json :=
  .object [("code", .string code.name), ("message", .string message), ("path", .string path)]

def toJson (i : Issue) : Json := json i.code i.message i.path

end Issue

end Dataflow
