import Dataflow.Graph.Basic
import Dataflow.Graph.Json
import Dataflow.Json.Reader
import Dataflow.Text.Basic
import Dataflow.Validation.Issue

/-!
# Model answers

A model answers with an object that holds a graph and, beside it, proposals for
types that the manifest lacks, alternatives to those, and notes. The graph has to
be there; what is wrong with the rest is dropped, entry by entry.
-/

namespace Dataflow

/-!
## Objects embedded in text

Models wrap the object that they were asked for in prose and code fences. The
whole text is tried first, then the first span with balanced braces, then the
span from the first opening brace to the last closing one; only an object
counts. Braces inside strings do not count towards the balance.
-/

/-- The state of a scan over JSON text: how many braces are open, whether a string
is, and whether the next character of that string is escaped. -/
structure BraceScan where
  depth : Nat := 0
  inString : Bool := false
  escaped : Bool := false
  deriving DecidableEq

namespace BraceScan

/-- The state after a character inside a string. -/
def stepInside (s : BraceScan) (c : Char) : BraceScan :=
  if s.escaped then { s with escaped := false }
  else if c = '\\' then { s with escaped := true }
  else if c = '"' then { s with inString := false }
  else s

/-- The state after a character outside strings. -/
def stepOutside (s : BraceScan) (c : Char) : BraceScan :=
  if c = '"' then { s with inString := true }
  else if c = '{' then { s with depth := s.depth + 1 }
  else if c = '}' then { s with depth := s.depth - 1 }
  else s

/-- The state after a character. -/
def step (s : BraceScan) (c : Char) : BraceScan :=
  if s.inString then s.stepInside c else s.stepOutside c

/-- The start of a text up to the first character after which no brace is open. -/
def untilClosed (s : BraceScan) : List Char → Option (List Char)
  | [] => none
  | c :: rest =>
    if (s.step c).depth = 0 then some [c] else ((s.step c).untilClosed rest).map (c :: ·)

end BraceScan

/-- A text from its first opening brace on. -/
def fromBrace (text : List Char) : List Char := text.dropWhile (· != '{')

/-- The shortest span from the first opening brace on with balanced braces. -/
def balancedSpan? (text : List Char) : Option (List Char) :=
  BraceScan.untilClosed {} (fromBrace text)

/-- The span from the first opening brace to the last closing one. -/
def outerSpan? (text : List Char) : Option (List Char) :=
  match (fromBrace text).reverse.dropWhile (· != '}') with
  | [] => none
  | span => some span.reverse

/-- The object that a text is. -/
def Json.objectOfChars? (text : List Char) : Option Json :=
  (Json.ofChars? text).filter Json.isObject

/-- The object embedded in a text. -/
def embeddedObject? (text : List Char) : Option Json :=
  ([some text, balancedSpan? text, outerSpan? text].filterMap id).findSome? Json.objectOfChars?

/-! ## Payloads -/

/-- A node type that the model wants and the manifest lacks. -/
structure ProposedNode where
  type : String
  name : String
  category : String
  description : String
  inputs : Json
  outputs : Json
  params? : Option Params
  defaults? : Option Params

namespace ProposedNode

def ofJson? (v : Json) : Option ProposedNode := do
  let r ← v.record?
    ["type", "name", "category", "description", "inputs", "outputs", "params", "defaults"]
  let type ← r.withDefault "type" Json.string? ""
  let name ← r.withDefault "name" Json.string? ""
  let category ← r.withDefault "category" Json.string? ""
  let description ← r.withDefault "description" Json.string? ""
  let inputs := (r "inputs").getD .null
  let outputs := (r "outputs").getD .null
  let params? ← r.optional "params" Json.table?
  let defaults? ← r.optional "defaults" Json.table?
  return { type, name, category, description, inputs, outputs, params?, defaults? }

def toJson (p : ProposedNode) : Json :=
  .object (
    [("type", .string p.type),
      ("name", .string p.name),
      ("category", .string p.category),
      ("description", .string p.description),
      ("inputs", p.inputs),
      ("outputs", p.outputs)]
      ++ Json.fieldOf "params" Json.ofTable p.params?
      ++ Json.fieldOf "defaults" Json.ofTable p.defaults?)

end ProposedNode

/-- A graph that can stand in for a proposed type. -/
structure Alternative where
  forType : String
  description : String
  nodes : List Node
  edges : List Edge

namespace Alternative

def ofJson? (v : Json) : Option Alternative := do
  let r ← v.record? ["forType", "description", "nodes", "edges"]
  let forType ← r.withDefault "forType" Json.string? ""
  let description ← r.withDefault "description" Json.string? ""
  let nodes ← r.withDefault "nodes" (Json.list? Node.ofJson?) []
  let edges ← r.withDefault "edges" (Json.list? Edge.ofJson?) []
  return { forType, description, nodes, edges }

def toJson (a : Alternative) : Json :=
  .object [
    ("forType", .string a.forType),
    ("description", .string a.description),
    ("nodes", .array (a.nodes.map Node.toJson)),
    ("edges", .array (a.edges.map Edge.toJson))]

end Alternative

/-- Why an answer is unusable. -/
inductive PayloadError where
  /-- The answer is blank. -/
  | empty
  /-- The answer holds no object. -/
  | noObject
  /-- The object has no nodes. -/
  | noNodes
  /-- The object has no edges. -/
  | noEdges
  /-- Nodes or edges are no list. -/
  | malformed (cause : Graph.SchemaError)
  deriving DecidableEq

namespace PayloadError

def message : PayloadError → String
  | .empty => "empty model output"
  | .noObject => "no JSON object found in model output"
  | .noNodes => "model output is missing 'nodes'"
  | .noEdges => "model output is missing 'edges'"
  | .malformed cause => "malformed graph in model output: " ++ (Issue.schema cause).message

end PayloadError

structure Payload where
  graph : Graph
  proposedNodes : List ProposedNode
  alternatives : List Alternative
  notes : String

namespace Payload

/-- The object in an answer. -/
def object (text : String) : Except PayloadError Json :=
  if isBlankText text then .error .empty
  else
    match embeddedObject? text.toList with
    | some v => .ok v
    | none => .error .noObject

/-- Whether a field of an object is absent or `null`. -/
def lacks (v : Json) (name : String) : Bool := (v.get? name).all Json.isNull

/-- The entries of a list that can be read. A field that is no list has none. -/
def readable {α : Type} (read : Json → Option α) (v : Json) (name : String) : List α :=
  (((v.get? name).bind Json.items?).getD []).filterMap read

/-- The answer of an object. -/
def ofObject (v : Json) : Except PayloadError Payload :=
  if lacks v "nodes" then .error .noNodes
  else if lacks v "edges" then .error .noEdges
  else
    match Graph.ofDocument v with
    | .error cause => .error (.malformed cause)
    | .ok graph => .ok {
        graph
        proposedNodes := readable ProposedNode.ofJson? v "proposedNodes"
        alternatives := readable Alternative.ofJson? v "alternatives"
        notes := trim (((v.get? "notes").bind Json.string?).getD "") }

def parse (text : String) : Except PayloadError Payload := do
  ofObject (← object text)

end Payload

/-!
## Aliases

Names that node types used to have. Models still use them, so a graph is brought
up to date before it is checked.
-/

/-- A former name of a node type and its present one. -/
structure Alias where
  legacy : String
  current : String
  deriving DecidableEq

/-- An alias and the number of nodes that went by it. -/
structure AliasUse where
  legacy : String
  current : String
  count : Nat
  deriving DecidableEq

def aliases : List Alias := [⟨"promptInput", "textInput"⟩]

namespace Alias

/-- The node under the present name of its type. -/
def rename (a : Alias) (n : Node) : Node :=
  if n.type = a.legacy then { n with type := a.current } else n

/-- How often a graph uses an alias, if it does. -/
def use? (a : Alias) (g : Graph) : Option AliasUse :=
  match (g.nodes.filter (·.type == a.legacy)).length with
  | 0 => none
  | count => some ⟨a.legacy, a.current, count⟩

end Alias

/-- The wording of the uses of aliases. -/
def AliasUse.note (uses : List AliasUse) : String :=
  String.intercalate " " (uses.map fun u =>
    "Aliased " ++ u.count.repr ++ " " ++ u.legacy ++ " -> " ++ u.current ++ ".")

namespace Graph

/-- The graph with one alias replaced. -/
def rename (g : Graph) (a : Alias) : Graph := { g with nodes := g.nodes.map a.rename }

/-- The graph with a list of aliases replaced, one after another. -/
def renameAll (g : Graph) : List Alias → Graph
  | [] => g
  | a :: rest => (g.rename a).renameAll rest

/-- The uses of a list of aliases, each in the graph with those before it
replaced. -/
def usesOf (g : Graph) : List Alias → List AliasUse
  | [] => []
  | a :: rest => (a.use? g).toList ++ (g.rename a).usesOf rest

/-- The graph under the present names of its node types. -/
def updated (g : Graph) : Graph := g.renameAll aliases

/-- The uses of aliases in a graph. -/
def aliasUses (g : Graph) : List AliasUse := g.usesOf aliases

end Graph

end Dataflow
