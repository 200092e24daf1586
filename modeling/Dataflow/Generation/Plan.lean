import Dataflow.Manifest.Summary
import Dataflow.Planning.Payload
import Dataflow.Text.Basic

/-!
# Plans

What a caller gets back for an intent: a graph, where it came from, and notes on
how. A plan comes from a model, perhaps repaired by it, or from fixed rules.
-/

namespace Dataflow

/-!
## Plans without a model

The plan for when no model can be asked: one of a few fixed chains of nodes,
chosen by words in the intent, and only if its types are at hand. It may be
empty.
-/

/-- The graph that links nodes in a row. -/
def Graph.chain (nodes : List Node) : Graph where
  nodes
  edges := (nodes.zip nodes.tail).map fun pair => .between pair.1.id pair.2.id

/-- Whether the types of all nodes are among some. -/
def Graph.usesOnly (g : Graph) (types : List String) : Bool :=
  g.nodes.all fun n => types.contains n.type

namespace Heuristic

def bare (id type : String) : Node := { id, type, params? := some ∅ }

/-- The node that emits the intent. -/
def intentNode (intent : String) : Node :=
  Node.setParam { id := "text1", type := "textInput" } "text" (.string intent)

/-- From text to an image to a file. -/
def imagePlan (intent : String) : Graph :=
  .chain [intentNode intent, bare "gen1" "geminiText2Image", bare "export1" "export"]

/-- From sound to a transcript. -/
def audioPlan : Graph :=
  .chain [
    bare "audio1" "audioInput", bare "dg1" "deepgramTranscribe", bare "view1" "textDisplay"]

/-- The intent itself, shown. -/
def textPlan (intent : String) : Graph := .chain [intentNode intent, bare "view1" "textDisplay"]

/-- Words that ask for an image. -/
def imageWords : List String := ["image", "banner", "thumbnail"]

/-- Words that ask for a transcript. -/
def audioWords : List String := ["transcribe", "audio"]

/-- The plan for an intent with some node types at hand. -/
def plan (intent : String) (types : List String) : Graph :=
  if mentions imageWords intent && (imagePlan intent).usesOnly types then imagePlan intent
  else if mentions audioWords intent && audioPlan.usesOnly types then audioPlan
  else if (textPlan intent).usesOnly types then textPlan intent
  else {}

end Heuristic

/-- The plan for an intent with the types of a summary. -/
def heuristicPlan (intent : String) (summary : Summary) : Graph :=
  Heuristic.plan intent summary.types

/-! ## Plans -/

/-- A plan. The raw output is that of the model the graph came from. -/
structure Plan where
  graph : Graph
  rawOutput? : Option String := none
  modelUsed : String
  proposedNodes : List ProposedNode := []
  alternatives : List Alternative := []
  notes : String

/-- Notes in one line, without those that are blank. -/
def joinNotes (notes : List String) : String :=
  String.intercalate " " ((notes.map trim).filter (· != ""))

namespace Plan

/-- The name that stands for the fixed rules in the place of a model. -/
def heuristicModel : String := "heuristic"

def repairNote : String := "Applied one-shot repair from validator feedback."

/-- The note on models that all failed. -/
def failureNote : String := "Model call failed; returned heuristic plan."

def missingKeysNote (missing : String) : String := missing ++ "; returned heuristic plan."

/-- The plan of the fixed rules. -/
def ofHeuristic (intent : String) (summary : Summary) (notes : String) : Plan where
  graph := heuristicPlan intent summary
  modelUsed := heuristicModel
  notes

/-- Whether the plan is one of the fixed rules; a model of that name is taken for
them. -/
def isHeuristic (p : Plan) : Bool := p.modelUsed == heuristicModel

/-- The plan of an answer of a model, under the present names of node types. -/
def ofPayload (model raw : String) (payload : Payload) : Plan where
  graph := payload.graph.updated
  rawOutput? := some raw
  modelUsed := model
  proposedNodes := payload.proposedNodes
  alternatives := payload.alternatives
  notes := joinNotes [payload.notes, AliasUse.note payload.graph.aliasUses]

/-- The plan with the graph of an answer to a request for repair. -/
def repairedBy (p : Plan) (raw : String) (payload : Payload) : Plan :=
  { p with
    graph := payload.graph
    rawOutput? := some raw
    notes := joinNotes [p.notes, repairNote] }

def toJson (p : Plan) : Json :=
  .object [
    ("graph", p.graph.toJson),
    ("rawModelOutput", (p.rawOutput?.map Json.string).getD .null),
    ("modelUsed", .string p.modelUsed),
    ("proposedNodes", .array (p.proposedNodes.map ProposedNode.toJson)),
    ("alternatives", .array (p.alternatives.map Alternative.toJson)),
    ("notes", .string p.notes)]

end Plan

end Dataflow
