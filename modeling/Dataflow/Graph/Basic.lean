import Dataflow.Json.Value
import Dataflow.Text.Basic

/-!
# Graphs

A dataflow graph as an editor or a model drew it: nodes of named types with
parameters, and edges that carry the output of one node to the input of another.
Nothing is promised of it: ids may be empty or repeated, and edges may lead
nowhere.
-/

namespace Dataflow

/-- Parameters of a node by name. -/
abbrev Params := Table Json

/-- A node. Its type is a name in a manifest; parameters may be absent, which is
not the same as none. -/
structure Node where
  id : String := ""
  type : String := ""
  params? : Option Params := none
  label? : Option String := none

/-- An edge from the output of a node to an input of another. The slot says which
input; it is kept as it was written, so that a wrong one can be reported. -/
structure Edge where
  source : String := ""
  target : String := ""
  slot? : Option Json := none

structure Graph where
  nodes : List Node := []
  edges : List Edge := []

instance : Inhabited Node := ⟨{}⟩
instance : Inhabited Edge := ⟨{}⟩
instance : Inhabited Graph := ⟨{}⟩

namespace Node

/-- The parameters; none when they are absent. -/
def params (n : Node) : Params := n.params?.getD ∅

/-- Whether the parameter `placeholder` is `true`: the node stands for one that is
still missing. -/
def isMarked (n : Node) : Bool :=
  match n.params.get? "placeholder" with
  | some (.bool true) => true
  | _ => false

/-- Equality of values in all parts. -/
def equal (a b : Node) : Bool :=
  a.id == b.id && a.type == b.type && a.params? == b.params? && a.label? == b.label?

instance : BEq Node := ⟨equal⟩

/-- The node with a parameter set. -/
def setParam (n : Node) (name : String) (value : Json) : Node :=
  { n with params? := some (n.params.insert name value) }

end Node

namespace Edge

/-- The edge between two nodes without a slot. -/
def between (source target : String) : Edge := { source, target }

/-- Whether both ends are named. -/
def hasEnds (e : Edge) : Bool := e.source != "" && e.target != ""

/-- Equality of values in all parts. -/
def equal (a b : Edge) : Bool :=
  a.source == b.source && a.target == b.target && a.slot? == b.slot?

instance : BEq Edge := ⟨equal⟩

end Edge

namespace Graph

/-- Equality of values in all parts. -/
def equal (a b : Graph) : Bool := a.nodes == b.nodes && a.edges == b.edges

instance : BEq Graph := ⟨equal⟩

/-- Whether there is neither node nor edge. -/
def isEmpty (g : Graph) : Bool := g.nodes.isEmpty && g.edges.isEmpty

/-- The ids of the nodes, in order, repeated ones too. -/
def ids (g : Graph) : List String := g.nodes.map (·.id)

/-- The ids of the nodes, each once, by first occurrence. -/
def distinctIds (g : Graph) : List String := g.ids.eraseDups

def hasNode (g : Graph) (id : String) : Bool := g.ids.contains id

/-- The first node with an id. -/
def node? (g : Graph) (id : String) : Option Node := g.nodes.find? (·.id == id)

def incoming (g : Graph) (id : String) : List Edge := g.edges.filter (·.target == id)

def outgoing (g : Graph) (id : String) : List Edge := g.edges.filter (·.source == id)

/-- Whether both ends of an edge are ids of nodes. -/
def connects (g : Graph) (e : Edge) : Bool := g.hasNode e.source && g.hasNode e.target

/-! ## Editing -/

def addNode (g : Graph) (n : Node) : Graph := { g with nodes := g.nodes ++ [n] }

def addEdge (g : Graph) (e : Edge) : Graph := { g with edges := g.edges ++ [e] }

/-- The graph without the nodes of an id; their edges stay. -/
def removeNode (g : Graph) (id : String) : Graph :=
  { g with nodes := g.nodes.filter (·.id != id) }

/-- The graph without the edges from one id to another. -/
def removeEdge (g : Graph) (source target : String) : Graph :=
  { g with edges := g.edges.filter fun e => !(e.source == source && e.target == target) }

/-- Changes the first node of an id in a list. -/
def changeFirst (id : String) (change : Node → Node) : List Node → List Node
  | [] => []
  | n :: rest => if n.id = id then change n :: rest else n :: changeFirst id change rest

/-- The graph with a parameter set on the first node of an id. -/
def setParam (g : Graph) (id name : String) (value : Json) : Graph :=
  { g with nodes := changeFirst id (·.setParam name value) g.nodes }

end Graph

/-!
## Slots

The slot of an edge numbers an input of its target from zero. It may be written
as a natural number, as a double without a fraction, or as a numeral in a
string with blanks around it.
-/

/-- What a slot says. -/
inductive Slot where
  | index (n : UInt64)
  | invalid
  deriving DecidableEq

namespace Slot

/-- The index that a double stands for: its value where that is a whole number and
not below zero. From `2 ^ 64` on it is the greatest index. -/
def ofDouble (d : Double) : Slot :=
  if d.isNonnegative && d.isWhole then .index (.ofNat (min d.whole (UInt64.size - 1))) else .invalid

/-- What a written slot says. -/
def ofJson : Json → Slot
  | .number (.natural n) => .index n
  | .number n => ofDouble n.toDouble
  | .string text =>
    match word? (trimChars text.toList) with
    | some n => .index n
    | none => .invalid
  | _ => .invalid

def index? : Slot → Option UInt64
  | .index n => some n
  | .invalid => none

end Slot

namespace Edge

/-- What the slot of an edge says, where there is one. -/
def slotValue? (e : Edge) : Option Slot := e.slot?.map Slot.ofJson

/-- The input of the target that an edge asks for. -/
def slotIndex? (e : Edge) : Option UInt64 := e.slotValue?.bind Slot.index?

end Edge

end Dataflow
