import Dataflow.Graph.Basic

/-!
# Traversals of graphs

Two ways through a graph: the sweep that puts its ids in a topological order, and the walk that
finds what can be reached from some ids.
-/

namespace Dataflow

/-!
## Topological order

The ids of a graph are put in an order in which every edge leads onward. A sweep
releases ids one by one, first come, first served: an id is free once every link
into it comes from an id released before. Edges to or from an id that no node
has are left out; nodes of one id count as one. The ids on cycles, and those
behind them, are never free, so the order is complete exactly when there is no
cycle.
-/

namespace Graph

/-- The edges whose two ends are ids of nodes. -/
def links (g : Graph) : List Edge := g.edges.filter g.connects

end Graph

/-- The state of a sweep: the ids released, in order, the free ones that wait for
their turn, and for every id the number of links into it from ids not yet
released. -/
structure Sweep where
  order : List String
  queue : List String
  pending : String → Nat

namespace Sweep

def linksInto (links : List Edge) (id : String) : Nat :=
  (links.filter (·.target == id)).length

/-- The sweep over some ids before the first release. -/
def start (ids : List String) (links : List Edge) : Sweep where
  order := []
  queue := ids.filter (linksInto links · == 0)
  pending := linksInto links

/-- One link less into an id; when it was the last, the id is free. -/
def relieve (s : Sweep) (id : String) : Sweep :=
  let left := s.pending id - 1
  { s with
    queue := if left = 0 then s.queue ++ [id] else s.queue
    pending := fun other => if other = id then left else s.pending other }

/-- Releases the first free id and with it the links out of it. -/
def step (links : List Edge) (s : Sweep) : Sweep :=
  match s.queue with
  | [] => s
  | id :: rest =>
    ((links.filter (·.source == id)).map (·.target)).foldl relieve
      { s with order := s.order ++ [id], queue := rest }

def steps (links : List Edge) : Nat → Sweep → Sweep
  | 0, s => s
  | n + 1, s => steps links n (s.step links)

end Sweep

namespace Graph

/-- The ids in topological order, without those that are never free. Each id is
released once, so there are no more steps than ids. -/
def order (g : Graph) : List String :=
  (Sweep.steps g.links g.distinctIds.length (Sweep.start g.distinctIds g.links)).order

/-- Whether every id finds its place in the order. -/
def isAcyclic (g : Graph) : Bool := g.order.length == g.distinctIds.length

end Graph

/-!
## Reachability

Walks along arcs between ids, which are the edges of a graph or the edges turned
round. A walk keeps the ids it visited and a stack of those still to visit, where an
id may wait more than once. It ends when the stack is empty, or before that at a
goal. An id that no node has may lie on the way.
-/

/-- The state of a walk: the ids visited, the last one first, the stack of those to
visit, and whether a goal was among those visited. -/
structure Walk where
  visited : List String
  stack : List String
  found : Bool

namespace Walk

/-- The ids that arcs lead to from an id, in the order of the arcs. -/
def behind (arcs : List (String × String)) (id : String) : List String :=
  (arcs.filter (·.1 == id)).map (·.2)

/-- Takes an id off the stack. One that is visited for the first time ends the walk
when it is a goal; else the ids behind it go on the stack. -/
def step (arcs : List (String × String)) (goal : String → Bool) (w : Walk) : Walk :=
  match w.found, w.stack with
  | false, id :: rest =>
    if w.visited.contains id then { w with stack := rest }
    else if goal id then ⟨id :: w.visited, rest, true⟩
    else ⟨id :: w.visited, (behind arcs id).reverse ++ rest, false⟩
  | _, _ => w

def steps (arcs : List (String × String)) (goal : String → Bool) : Nat → Walk → Walk
  | 0, w => w
  | n + 1, w => steps arcs goal n (w.step arcs goal)

/-- The walk before its first step. -/
def start (ids : List String) : Walk := ⟨[], ids.reverse, false⟩

/-- The walk from some ids to its end. Every arc puts one id on the stack at most, so
there are no more steps than arcs and ids to start from. -/
def complete (arcs : List (String × String)) (goal : String → Bool) (ids : List String) : Walk :=
  steps arcs goal (arcs.length + ids.length) (start ids)

end Walk

namespace Graph

/-- The edges as pairs of ids. -/
def arcs (g : Graph) : List (String × String) := g.edges.map fun e => (e.source, e.target)

/-- The edges as pairs of ids, turned round. -/
def arcsBack (g : Graph) : List (String × String) := g.edges.map fun e => (e.target, e.source)

/-- The ids on paths of any length from the ids given. -/
def reachable (g : Graph) (start : List String) : List String :=
  (Walk.complete g.arcs (fun _ => false) start).visited

/-- Whether a goal is met going back along edges from an id, which may be one itself. -/
def comesFrom (g : Graph) (goal : String → Bool) (id : String) : Bool :=
  (Walk.complete g.arcsBack goal [id]).found

end Graph

end Dataflow
