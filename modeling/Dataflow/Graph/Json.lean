import Dataflow.Graph.Basic
import Dataflow.Json.Value

/-!
# Graphs in JSON

Editors and models write graphs loosely, so they are read leniently. What is written is what is
held.
-/

namespace Dataflow

/-!
## Reading

Editors and models write graphs loosely, so nodes and edges are read leniently,
field by field: an id may be a number, parameters that are no object count as
absent, and an entry that cannot be read becomes an empty one, which keeps its
place in the list and is reported later. Only a document without lists of nodes
and edges is refused.
-/

/-- The text of a string, number or truth value. -/
def Json.scalarText? : Json → Option String
  | .string text => some text
  | .number n => some n.text
  | .bool true => some "true"
  | .bool false => some "false"
  | _ => none

/-- The text of a field: empty when the field is absent or no scalar. -/
def Record.scalarText (r : Record) (name : String) : String :=
  ((r name).bind Json.scalarText?).getD ""

namespace Node

/-- The fields of a node in declared order. -/
def fieldNames : List String := ["id", "type", "params", "label"]

/-- The node of a record. A label without text counts as absent. -/
def ofRecord (r : Record) (params : Option Json) : Node where
  id := r.scalarText "id"
  type := r.scalarText "type"
  params? := params.bind Json.table?
  label? := ((r "label").bind Json.scalarText?).filter (· != "")

/-- Reads a node. Parameters may go by the name `parameters` instead, but not by
both. -/
def ofJson? (v : Json) : Option Node := do
  let r ← v.record? fieldNames
  match r "params", v.get? "parameters" with
  | some _, some _ => none
  | some params, none => some (ofRecord r params)
  | none, other => some (ofRecord r other)

/-- The node of an entry in a list of nodes: empty when the entry is no object or
cannot be read. -/
def ofEntry (v : Json) : Node := if v.isObject then (ofJson? v).getD {} else {}

end Node

namespace Edge

/-- The fields of an edge in declared order. -/
def fieldNames : List String := ["from", "to", "slot"]

/-- The edge of a record. A slot that is `null` counts as absent. -/
def ofRecord (r : Record) : Edge where
  source := r.scalarText "from"
  target := r.scalarText "to"
  slot? := (r "slot").filter (!·.isNull)

def ofJson? (v : Json) : Option Edge := (v.record? fieldNames).map ofRecord

/-- The edge of an entry in a list of edges: empty when the entry is no object. -/
def ofEntry (v : Json) : Edge := if v.isObject then (ofJson? v).getD {} else {}

end Edge

namespace Graph

/-- Why a document is no graph. -/
inductive SchemaError where
  | nodesNotArray
  | edgesNotArray
  deriving DecidableEq

def ofEntries (nodes edges : List Json) : Graph where
  nodes := nodes.map Node.ofEntry
  edges := edges.map Edge.ofEntry

/-- The graph of a document. The list of nodes is looked at first. -/
def ofDocument (v : Json) : Except SchemaError Graph :=
  match v.get? "nodes", v.get? "edges" with
  | some (.array nodes), some (.array edges) => .ok (ofEntries nodes edges)
  | some (.array _), _ => .error .edgesNotArray
  | _, _ => .error .nodesNotArray

/-- Reads a graph as a record with the lists `nodes` and `edges`, either of which
may be absent. -/
def ofRecord? (v : Json) : Option Graph := do
  let r ← v.record? ["nodes", "edges"]
  let nodes ← r.withDefault "nodes" Json.items? []
  let edges ← r.withDefault "edges" Json.items? []
  return ofEntries nodes edges

end Graph

/-!
## Writing

What is absent is not written. A slot is written as it is held.
-/

namespace Node

def toJson (n : Node) : Json :=
  .object (
    [("id", .string n.id), ("type", .string n.type)]
      ++ Json.fieldOf "params" Json.ofTable n.params?
      ++ Json.fieldOf "label" .string n.label?)

end Node

namespace Edge

def toJson (e : Edge) : Json :=
  .object (
    [("from", .string e.source), ("to", .string e.target)]
      ++ Json.fieldOf "slot" id e.slot?)

end Edge

namespace Graph

def toJson (g : Graph) : Json :=
  .object [
    ("nodes", .array (g.nodes.map Node.toJson)),
    ("edges", .array (g.edges.map Edge.toJson))]

end Graph

end Dataflow
