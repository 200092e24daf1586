import Dataflow.Graph.Basic

/-!
# Manifests

A manifest says which node types there are: what each takes in, what it gives
out, and the parameters it knows. It is data that the operations on graphs are
given; a type that is not in it is not an error of its own, the node becomes a
placeholder.
-/

namespace Dataflow

/-- How a node type takes its inputs. -/
inductive InputMode where
  /-- Exactly one input; more connections are only worth a warning. -/
  | single
  /-- A fixed, ordered set of inputs that edges address by slot. -/
  | multi
  /-- Any number of inputs. -/
  | variadic
  deriving DecidableEq

/-- An input that a node type declares. -/
structure InputType where
  kind : String := ""
  optional : Bool := false
  role? : Option String := none
  deriving DecidableEq

/-- What a node type takes in and gives out. -/
structure Ports where
  inputs : List InputType := []
  output : String := ""
  mode : InputMode := .single
  minInputs? : Option UInt64 := none
  deriving DecidableEq

/-- Hints on the use of a node type, for those who plan graphs. -/
structure Hints where
  purpose? : Option String := none
  whenToUse? : Option String := none
  notFor? : Option String := none
  preconditions? : Option String := none
  postconditions? : Option String := none
  requiresKeys : List String := []
  proxyHint? : Option String := none
  tags : List String := []
  deriving DecidableEq

/-- A node type. The declared number of inputs is for information only; of the
outputs, zero marks a sink. -/
structure NodeType where
  name? : Option String := none
  category : String := ""
  description : String := ""
  inputs? : Option UInt32 := none
  outputs? : Option UInt32 := none
  requiresInput : Bool := false
  defaults : Params := ∅
  ports : Ports := {}
  hints? : Option Hints := none

instance : Inhabited NodeType := ⟨{}⟩

namespace NodeType

/-- The least number of connections: the declared one, else the number of inputs
that are not optional where edges address inputs, else one where input is
required. -/
def minInputs (t : NodeType) : Nat :=
  match t.ports.minInputs?, t.ports.mode with
  | some n, _ => n.toNat
  | none, .multi => (t.ports.inputs.filter (!·.optional)).length
  | none, .single | none, .variadic => if t.requiresInput then 1 else 0

/-- The kinds of input the type accepts, each once and in order; an empty kind
says nothing. -/
def acceptedKinds (t : NodeType) : List String :=
  Table.sortedNames ((t.ports.inputs.map (·.kind)).filter (· != ""))

/-- Whether graphs end in nodes of the type. -/
def isSink (t : NodeType) : Bool := t.outputs? == some 0 || t.category == "Output"

/-- Whether graphs start from nodes of the type. -/
def isSource (t : NodeType) : Bool :=
  t.category == "Input" || (!t.requiresInput && t.ports.inputs.isEmpty)

end NodeType

/-- The node types by name. -/
structure Manifest where
  types : Table NodeType := ∅

instance : Inhabited Manifest := ⟨{}⟩

namespace Manifest

def type? (m : Manifest) (name : String) : Option NodeType := m.types.get? name

def contains (m : Manifest) (name : String) : Bool := m.types.contains name

/-- The manifest with a node type added, in place of one of the same name. -/
def insert (m : Manifest) (name : String) (type : NodeType) : Manifest :=
  ⟨m.types.insert name type⟩

/-- Whether a node is a placeholder: its type is empty or unknown, or it is marked
as one. -/
def isPlaceholder (m : Manifest) (n : Node) : Bool :=
  n.type == "" || !m.contains n.type || n.isMarked

/-- The node type that a node is held to; none for a marked node. -/
def typeOf? (m : Manifest) (n : Node) : Option NodeType :=
  if n.isMarked then none else m.type? n.type

end Manifest

end Dataflow
