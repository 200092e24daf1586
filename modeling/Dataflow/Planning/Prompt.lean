import Dataflow.Graph.Json
import Dataflow.Manifest.Summary
import Dataflow.Validation.Report

/-!
# Prompts

The request for a graph is put together from sections. They are added in any
order and sorted by kind, sections of one kind in the order in which they came.
A request for repair appends to the request for the graph what is wrong with the
answer.
-/

namespace Dataflow

/-!
## Instructions

The fixed texts of the requests for a graph and for its repair.
-/

namespace Instructions

/-- What a model is told of its task and the rules of graphs. -/
def system : String :=
  String.intercalate "\n" [
    "You are an expert workflow planner for a node-based media app. Use only node types "
      ++ "listed in the manifest summary.",
    "When a needed capability is missing, describe it in 'proposedNodes'. Do not use a "
      ++ "missing type in the graph unless that node is tagged as a placeholder with params: "
      ++ "\x7b placeholder: true \x7d.",
    "Strictly enforce:",
    "- Type compatibility: every edge's source io.outputType must be one of the target's "
      ++ "io.inputTypes[].kind.",
    "- Input arity: honor io.inputMode and the required counts (io.minInputs and "
      ++ "non-optional inputTypes). single takes exactly one input, multi takes all required "
      ++ "inputs, variadic takes at least minInputs.",
    "- Reachability: include at least one complete path from a source to a sink (an "
      ++ "Output node or a node with outputs === 0) whenever feasible.",
    "Edges may carry an integer 'slot' when the target has ordered inputs; slots start "
      ++ "at 0 and name the target input position.",
    "Prefer nodes whose aiHints.whenToUse and preconditions fit the intent. Respond with "
      ++ "JSON only, matching the contract exactly."]

/-- The form that an answer has to have. -/
def contract : String :=
  String.intercalate "\n" [
    "Output JSON contract strictly:",
    "\x7b",
    "  \"nodes\": [ \x7b\"id\": string, \"type\": string, \"label\"?: string, "
      ++ "\"params\"?: object \x7d ],",
    "  \"edges\": [ \x7b\"from\": string, \"to\": string, \"slot\"?: number\x7d ],",
    "  \"proposedNodes\"?: [ \x7b \"type\": string, \"name\": string, \"category\": "
      ++ "string, \"description\": string, \"inputs\": number, \"outputs\": number, "
      ++ "\"params\"?: object, \"defaults\"?: object \x7d ],",
    "  \"alternatives\"?: [ \x7b \"forType\": string, \"description\": string, "
      ++ "\"nodes\": [...], \"edges\": [...] \x7d ],",
    "  \"notes\"?: string",
    "\x7d",
    "Rules:",
    "- Use only manifest types in nodes. If a required type is missing, add it to "
      ++ "proposedNodes and use it in the graph only as a node tagged params: \x7b "
      ++ "placeholder: true \x7d.",
    "- Prefer minimal viable graphs that reach an Output node when possible.",
    "- Node ids must be unique and human-readable (e.g. 'prompt1', 'overlay1').",
    "- Edges reference node ids only; add a numeric slot when the target has ordered "
      ++ "inputs (start at 0).",
    "- Honor io.inputTypes/outputType compatibility (e.g. text -> image); satisfy "
      ++ "aiHints.preconditions where possible and pick nodes per aiHints.whenToUse.",
    "- Satisfy io.inputMode and minInputs/non-optional inputs on every node."]

/-- What a model is asked to do with an invalid graph. -/
def repair : String :=
  "Please correct the previous graph to satisfy all constraints. Return only corrected "
    ++ "JSON matching the same contract."

end Instructions

/-! ## Sections -/

/-- A section of a request. -/
inductive PromptSection where
  /-- What the user wants. -/
  | intent (text : String)
  /-- The node types there are. -/
  | manifest (summary : Summary)
  /-- The graph to start from. -/
  | current (graph : Graph)
  /-- The form of the answer. -/
  | contract

namespace PromptSection

/-- The place of a section among sections of other kinds. -/
def rank : PromptSection → Nat
  | .intent _ => 0
  | .manifest _ => 1
  | .current _ => 2
  | .contract => 3

/-- The characters of a graph to start from that a request holds. -/
def currentLimit : Nat := 8000

def text : PromptSection → String
  | .intent text => "User intent: " ++ text
  | .manifest summary => "Manifest summary (compact): " ++ summary.toJson.compact
  | .current graph =>
    "Current graph (optional): " ++ firstChars currentLimit graph.toJson.compact
  | .contract => Instructions.contract

end PromptSection

/-- A request: what the model is told of its task, and what it is asked. -/
structure Prompt where
  system : String
  user : String
  deriving DecidableEq

/-- The sections of a request in the order in which they were added. -/
structure Draft where
  sections : List PromptSection

namespace Draft

/-- The draft for an intent. -/
def ofIntent (intent : String) : Draft := ⟨[.intent intent, .contract]⟩

/-- The draft with the node types of a summary. -/
def withManifest (d : Draft) (summary : Summary) : Draft :=
  ⟨d.sections ++ [.manifest summary]⟩

/-- The draft with a graph to start from, if there is one. -/
def withCurrent (d : Draft) : Option Graph → Draft
  | none => d
  | some graph => ⟨d.sections ++ [.current graph]⟩

/-- The sections in order of rank; those of one rank keep their order. -/
def sorted (d : Draft) : List PromptSection := d.sections.mergeSort fun a b => a.rank ≤ b.rank

def build (d : Draft) : Prompt where
  system := Instructions.system
  user := String.intercalate "\n\n" (d.sorted.map PromptSection.text)

end Draft

namespace Report

/-- The lines of a report that a request for repair holds at most. -/
def repairLimit : Nat := 10

/-- The lines of a report for a request for repair: errors, then placeholders. -/
def repairLines (r : Report) : List String :=
  (r.errors.map Issue.line
    ++ r.placeholders.map fun p =>
      "placeholder: node " ++ p.id ++ " uses type " ++ p.type
        ++ " which is not in the manifest").take repairLimit

end Report

namespace Prompt

/-- The characters of an invalid graph that a request for repair holds. -/
def previousLimit : Nat := 4000

/-- What a request for repair appends. -/
def repairText (lines : List String) (previous : Graph) : String :=
  "\n\n" ++ Instructions.repair
    ++ "\n\nValidation errors:\n" ++ String.intercalate "\n" lines
    ++ "\n\nPrevious graph:\n" ++ firstChars previousLimit previous.toJson.compact

/-- The request to repair a graph. -/
def repair (p : Prompt) (lines : List String) (previous : Graph) : Prompt :=
  { p with user := p.user ++ repairText lines previous }

end Prompt

end Dataflow
