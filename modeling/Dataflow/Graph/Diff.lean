import Dataflow.Graph.Basic

/-!
# Differences between graphs

What changed from one graph to another: ids that came or went, edges that came or
went, and parameters of ids that stayed. An edge is known by its two ends; of
several nodes with one id the last counts.
-/

namespace Dataflow

/-- The ends of an edge. -/
structure EdgeKey where
  source : String
  target : String
  deriving DecidableEq

namespace EdgeKey

def ofEdge (e : Edge) : EdgeKey := ⟨e.source, e.target⟩

def text (k : EdgeKey) : String := k.source ++ "->" ++ k.target

def toJson (k : EdgeKey) : Json :=
  .object [("from", .string k.source), ("to", .string k.target)]

end EdgeKey

/-- The names of the parameters that changed on the node of an id. -/
structure ParamChange where
  id : String
  keys : List String
  deriving DecidableEq

def ParamChange.toJson (c : ParamChange) : Json :=
  .object [("id", .string c.id), ("keys", Json.ofStrings c.keys)]

/-- What changed from one graph to another. -/
structure Diff where
  addedNodes : List String
  removedNodes : List String
  addedEdges : List EdgeKey
  removedEdges : List EdgeKey
  paramChanges : List ParamChange
  deriving DecidableEq

namespace Diff

def isEmpty (d : Diff) : Bool :=
  d.addedNodes.isEmpty && d.removedNodes.isEmpty && d.addedEdges.isEmpty
    && d.removedEdges.isEmpty && d.paramChanges.isEmpty

/-- The keys of the edges, each once, by first occurrence. -/
def edgeKeys (g : Graph) : List EdgeKey := (g.edges.map EdgeKey.ofEdge).eraseDups

/-- Whether a graph has an edge of a key. -/
def hasEdge (g : Graph) (key : EdgeKey) : Bool := g.edges.any fun e => EdgeKey.ofEdge e == key

def lastNode? (g : Graph) (id : String) : Option Node := g.nodes.reverse.find? (·.id == id)

/-- Whether two optional values are both absent or equal. -/
def sameValue : Option Json → Option Json → Bool
  | none, none => true
  | some a, some b => a == b
  | _, _ => false

/-- The names under which two tables of parameters differ, in order. -/
def changedKeys (before after : Params) : List String :=
  (Table.sortedNames (before.keys ++ after.keys)).filter fun key =>
    !sameValue (before.get? key) (after.get? key)

/-- The change of the parameters of an id, if both graphs have it and there is
one. -/
def paramChange? (before after : Graph) (id : String) : Option ParamChange :=
  match lastNode? before id, lastNode? after id with
  | some a, some b =>
    match changedKeys a.params b.params with
    | [] => none
    | keys => some ⟨id, keys⟩
  | _, _ => none

def between (before after : Graph) : Diff where
  addedNodes := after.distinctIds.filter (!before.hasNode ·)
  removedNodes := before.distinctIds.filter (!after.hasNode ·)
  addedEdges := (edgeKeys after).filter (!hasEdge before ·)
  removedEdges := (edgeKeys before).filter (!hasEdge after ·)
  paramChanges := after.distinctIds.filterMap (paramChange? before after)

def toJson (d : Diff) : Json :=
  .object [
    ("addedNodes", Json.ofStrings d.addedNodes),
    ("removedNodes", Json.ofStrings d.removedNodes),
    ("addedEdges", .array (d.addedEdges.map EdgeKey.toJson)),
    ("removedEdges", .array (d.removedEdges.map EdgeKey.toJson)),
    ("paramChanges", .array (d.paramChanges.map ParamChange.toJson))]

end Diff

end Dataflow
