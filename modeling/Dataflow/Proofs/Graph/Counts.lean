import Dataflow.Proofs.Graph.Order

/-!
# The counts of the sweep, change by change

A release is not one change but several: the first free id leaves the queue, and then the ids
behind it are relieved of a link one after another, once for each link, so that one count may fall
several times within one release. `Sweep.Change` is the sweep taken apart in this way, and a
`Sweep.Moment` is where it stands between two changes.

Whatever moment a sweep passes, it has made some steps and is perhaps part of the way through the
next one (`Sweep.Underway`). So the counts are right at every moment (`Sweep.Passes.counted`): no
link is taken off a count that is zero, and an id enters the queue when its count becomes zero,
which happens once.
-/

namespace Dataflow

open Relation

namespace Sweep

/-- A sweep between two changes, with the ids that are still to be relieved of a link from the id
released last. Between two steps there are none. -/
structure Moment where
  sweep : Sweep
  behind : List String

/-- All ids that have entered the queue by some moment, in order: those that left it were released
in the order in which they came. -/
def Moment.entered (m : Moment) : List String := m.sweep.order ++ m.sweep.queue

/-- A change: the first free id is released, or one of the ids behind it is relieved of a link. -/
inductive Change (links : List Edge) : Moment → Moment → Prop where
  | release {s : Sweep} {id : String} {rest : List String} (first : s.queue = id :: rest) :
      Change links ⟨s, []⟩ ⟨s.partway id rest [], targets links id⟩
  | relieve (s : Sweep) (id : String) (behind : List String) :
      Change links ⟨s, id :: behind⟩ ⟨s.relieve id, behind⟩

/-- The sweep over some ids comes by a moment. -/
def Passes (ids : List String) (links : List Edge) (m : Moment) : Prop :=
  ReflTransGen (Change links) ⟨start ids links, []⟩ m

variable {ids : List String} {links : List Edge} {s : Sweep} {m m' : Moment}

/-! ## Changes and steps -/

/-- The last of several steps may be taken apart as well as the first. -/
theorem steps_succ (links : List Edge) (n : Nat) (s : Sweep) :
    steps links (n + 1) s = (steps links n s).step links := by
  induction n generalizing s with
  | zero => rfl
  | succ n ih => exact ih (s.step links)

theorem partway_concat (s : Sweep) (id : String) (rest relieved : List String) (next : String) :
    s.partway id rest (relieved ++ [next]) = (s.partway id rest relieved).relieve next :=
  List.foldl_concat ..

/-- A moment lies between two steps of a sweep from a state on, or within one. -/
inductive Underway (links : List Edge) (s : Sweep) : Moment → Prop where
  | between (n : Nat) : Underway links s ⟨steps links n s, []⟩
  | within (n : Nat) {id : String} {rest before behind : List String}
      (first : (steps links n s).queue = id :: rest)
      (split : targets links id = before ++ behind) :
      Underway links s ⟨(steps links n s).partway id rest before, behind⟩

/-- When nothing is left to be relieved, a step has been made. -/
theorem Underway.exists_steps {s' : Sweep} (underway : Underway links s ⟨s', []⟩) :
    ∃ n, s' = steps links n s := by
  cases underway with
  | between n => exact ⟨n, rfl⟩
  | within n first split =>
      refine ⟨n + 1, ?_⟩
      rw [steps_succ, step_of_cons first, split, List.append_nil]

theorem Underway.change (underway : Underway links s m) (change : Change links m m') :
    Underway links s m' := by
  cases change with
  | release first =>
      obtain ⟨n, rfl⟩ := underway.exists_steps
      exact .within n first rfl
  | relieve s' next behind =>
      cases underway with
      | within n first split =>
          rw [← partway_concat]
          refine .within n first ?_
          rw [split, List.append_assoc, List.singleton_append]

theorem Passes.underway (passes : Passes ids links m) : Underway links (start ids links) m := by
  induction passes with
  | refl => exact .between 0
  | tail _ change ih => exact ih.change change

/-- The ids behind are relieved one by one. -/
theorem changes_relieve (links : List Edge) (s : Sweep) (behind : List String) :
    ReflTransGen (Change links) ⟨s, behind⟩ ⟨behind.foldl relieve s, []⟩ := by
  induction behind generalizing s with
  | nil => exact .refl
  | cons id rest ih => exact .head (.relieve s id rest) (ih (s.relieve id))

/-- A step is a run of changes: the release, then each link out of what was released. -/
theorem changes_step (links : List Edge) (s : Sweep) :
    ReflTransGen (Change links) ⟨s, []⟩ ⟨s.step links, []⟩ := by
  cases first : s.queue with
  | nil => rw [step_of_nil first]
  | cons id rest =>
      rw [step_of_cons first]
      exact .head (.release first) (changes_relieve links _ (targets links id))

/-- What the sweep is after any number of steps it passes through. -/
theorem passes_steps (ids : List String) (links : List Edge) (n : Nat) :
    Passes ids links ⟨steps links n (start ids links), []⟩ := by
  induction n with
  | zero => exact .refl
  | succ n ih =>
      rw [steps_succ]
      exact ih.trans (changes_step links _)

/-- Between two steps the sweep stands where some number of them leads. -/
theorem passes_iff_steps :
    Passes ids links ⟨s, []⟩ ↔ ∃ n, s = steps links n (start ids links) := by
  constructor
  · intro passes
    exact passes.underway.exists_steps
  · rintro ⟨n, rfl⟩
    exact passes_steps ids links n

/-- Without a free id there is nothing left to change. -/
theorem not_change_of_dry (dry : s.queue = []) : ¬ Change links ⟨s, []⟩ m := by
  intro change
  cases change with
  | release first =>
      rw [dry] at first
      cases first

/-! ## What holds at every moment -/

/-- At every moment of the sweep, the counts are those of the links not yet seen. -/
theorem Passes.counted (nodup : ids.Nodup) (closed : ∀ e ∈ links, e.target ∈ ids)
    (passes : Passes ids links m) : Counted ids links m.behind m.sweep := by
  have invariant := fun n => (invariant_start nodup links).steps closed n
  cases passes.underway with
  | between n =>
      have inv := invariant n
      exact ⟨inv.nodup, inv.known, inv.pending, inv.free⟩
  | within n first split => exact (invariant n).counted_partway closed first split

/-- A change lets at most one id enter the queue, at its end. -/
theorem Change.entered (change : Change links m m') :
    m'.entered = m.entered ∨
      ∃ id, m'.sweep.queue = m.sweep.queue ++ [id] ∧ m'.entered = m.entered ++ [id] := by
  cases change with
  | @release s id rest first =>
      left
      show s.order ++ [id] ++ rest = s.order ++ s.queue
      rw [first, List.append_assoc, List.singleton_append]
  | relieve s id behind =>
      by_cases last : s.pending id - 1 = 0
      · right
        refine ⟨id, ?_, ?_⟩
        · simp [Sweep.relieve, last]
        · simp [Moment.entered, Sweep.relieve, last]
      · left
        simp [Moment.entered, Sweep.relieve, last]

end Sweep

namespace Graph

variable {g : Graph} {id : String}

/-- The edges between nodes that lead into an id, but for those from ids that were released.
Parallel edges are different edges. -/
def edgesLeft (g : Graph) (released : List String) (id : String) : List Edge :=
  g.edges.filter fun e =>
    e.source ∈ g.ids ∧ e.target ∈ g.ids ∧ e.target = id ∧ e.source ∉ released

theorem waiting_eq_length_edgesLeft (g : Graph) (released : List String) (id : String) :
    Sweep.waiting g.links released id = (g.edgesLeft released id).length := by
  rw [Sweep.waiting, links, List.filter_filter, edgesLeft]
  refine congrArg List.length (List.filter_congr fun e _ => ?_)
  rw [Bool.eq_iff_iff]
  simp only [connects, Bool.and_eq_true, beq_iff_eq, hasNode_iff, List.contains_eq_mem,
    Bool.not_eq_eq_eq_not, Bool.not_true, decide_eq_false_iff_not, decide_eq_true_eq]
  tauto

/-- The sweep of a graph, change by change. Between two steps it is where its steps lead, and it
ends, with the order of the graph, where nothing is left to change. Before every step the count of
an id is the number of edges into it from ids not yet released, and the id waits or was released
exactly when that is zero. At every change in between, the count that a link is taken off is not
zero; an id that enters the queue is recorded among those that have entered it, and no id is
recorded twice. -/
theorem sweep_counts (g : Graph) :
    (∀ s, Sweep.Passes g.distinctIds g.links ⟨s, []⟩ ↔
      ∃ n, s = Sweep.steps g.links n (Sweep.start g.distinctIds g.links)) ∧
    (Sweep.Passes g.distinctIds g.links ⟨g.sweep, []⟩ ∧ g.sweep.order = g.order ∧
      ∀ m, ¬ Sweep.Change g.links ⟨g.sweep, []⟩ m) ∧
    (∀ s, Sweep.Passes g.distinctIds g.links ⟨s, []⟩ → ∀ id ∈ g.ids,
      s.pending id = (g.edgesLeft s.order id).length ∧
      (id ∈ s.queue ∨ id ∈ s.order ↔ s.pending id = 0)) ∧
    (∀ s id behind, Sweep.Passes g.distinctIds g.links ⟨s, id :: behind⟩ → 0 < s.pending id) ∧
    (∀ m, Sweep.Passes g.distinctIds g.links m → m.entered.Nodup) ∧
    ∀ m m', Sweep.Change g.links m m' → m'.entered = m.entered ∨
      ∃ id, m'.sweep.queue = m.sweep.queue ++ [id] ∧ m'.entered = m.entered ++ [id] := by
  have counted := fun m => Sweep.Passes.counted (m := m) g.nodup_distinctIds g.links_closed
  refine ⟨fun s => Sweep.passes_iff_steps, ⟨?_, g.sweep_order, ?_⟩, ?_, ?_, ?_, ?_⟩
  · exact Sweep.passes_steps g.distinctIds g.links _
  · intro m
    exact Sweep.not_change_of_dry g.sweep_queue
  · intro s passes id inside
    have right := counted _ passes
    constructor
    · rw [right.pending id, List.count_nil, Nat.add_zero, waiting_eq_length_edgesLeft]
    · rw [← right.free id (mem_distinctIds.mpr inside), List.mem_append, or_comm]
  · intro s id behind passes
    exact (counted _ passes).pending_pos
  · intro m passes
    exact (counted m passes).nodup
  · intro m m' change
    exact change.entered

/-- Of two parallel edges the first leaves a count that is not zero, and the second lets the id
in. An edge from an id to itself never does. -/
example :
    let g : Graph := {
      nodes := [{ id := "a" }, { id := "b" }, { id := "c" }]
      edges := [.between "a" "b", .between "c" "c", .between "a" "b"] }
    let s := Sweep.start g.distinctIds g.links
    s.queue = ["a"] ∧ (s.partway "a" [] ["b"]).pending "b" = 1 ∧
      (s.partway "a" [] ["b"]).queue = [] ∧ (s.partway "a" [] ["b", "b"]).queue = ["b"] ∧
      g.order = ["a", "b"] := by
  decide

end Graph

end Dataflow
