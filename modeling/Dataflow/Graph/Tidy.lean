import Dataflow.Manifest.Basic

/-!
# Tidying graphs

The repairs that need no judgement: edges to or from ids that no node has are
dropped, and the parameters of a node become exactly those that its type has
defaults for. Placeholders are left as they are. Tidying a tidy graph changes
nothing.
-/

namespace Dataflow

/-- A repair that was made. -/
inductive Fix where
  /-- Edges without both their nodes were dropped. -/
  | danglingEdges
  /-- The parameters of nodes with these ids were changed. -/
  | params (nodes : List String)
  deriving DecidableEq

namespace Fix

/-- The stable name of a kind of repair. -/
def code : Fix → String
  | .danglingEdges => "edge/remove-dangling"
  | .params _ => "param/normalize"

def message : Fix → String
  | .danglingEdges => "removed edges referencing missing nodes"
  | .params nodes => "normalized params on " ++ String.intercalate ", " nodes

/-- A repair in a line: its code and its wording. -/
def line (f : Fix) : String := f.code ++ ": " ++ f.message

def toJson (f : Fix) : Json :=
  .object [("code", .string f.code), ("message", .string f.message)]

end Fix

/-- The defaults, each overridden by the parameter of its name. -/
def mergedParams (defaults params : Params) : Params :=
  defaults.map fun name value => (params.get? name).getD value

/-- A node with the parameters of its type. -/
def Node.tidy (n : Node) (m : Manifest) : Node :=
  match m.typeOf? n with
  | none => n
  | some type => { n with params? := some (mergedParams type.defaults n.params) }

/-- A tidied graph and the repairs it took. -/
structure Tidied where
  graph : Graph
  fixes : List Fix

namespace Graph

/-- The graph with the parameters of its nodes' types, without dangling edges. -/
def tidied (g : Graph) (m : Manifest) : Graph where
  nodes := g.nodes.map (·.tidy m)
  edges := g.edges.filter g.connects

/-- The ids of the nodes whose parameters change in tidying. -/
def changedParams (g : Graph) (m : Manifest) : List String :=
  (g.nodes.filter fun n => (n.tidy m).params != n.params).map (·.id)

/-- The repairs that tidying makes. -/
def fixes (g : Graph) (m : Manifest) : List Fix :=
  (if g.edges.all g.connects then [] else [.danglingEdges])
    ++ (match g.changedParams m with
      | [] => []
      | nodes => [.params nodes])

def tidy (g : Graph) (m : Manifest) : Tidied := ⟨g.tidied m, g.fixes m⟩

end Graph

end Dataflow
