import Dataflow.Graph.Traversal
import Dataflow.Proofs.Graph.Link

/-!
# What is reached

A walk ends: with every step it has less left to do (`Walk.Step.left_lt`), however often an id
waits on the stack. Until it finds a goal it keeps, besides the ids to start from, whatever
lies behind an id it visited, on the stack or visited (`Walk.Invariant`). So a walk that ends
without a goal has visited exactly the ids on paths from the start, and a walk finds a goal
exactly when a path leads to one.

For graphs this says what `reachable` lists (`mem_reachable_iff`), and what it means to meet a
goal on the way back (`comesFrom_iff`). Ids that no node has count as any other on such a path.
-/

namespace Dataflow

open Relation

/-- Some arc of a list leads from one id to another. -/
def Leads (arcs : List (String × String)) (u v : String) : Prop := (u, v) ∈ arcs

namespace Walk

variable {arcs : List (String × String)} {goal : String → Bool} {ids : List String} {w w' : Walk}
  {u v id : String}

theorem mem_behind : v ∈ behind arcs u ↔ Leads arcs u v := by
  simp [behind, Leads]

/-- The walk has found a goal or has nothing left to visit. -/
def IsOver (w : Walk) : Prop := w.found = true ∨ w.stack = []

/-- What a step may do. -/
inductive Step (arcs : List (String × String)) (goal : String → Bool) : Walk → Walk → Prop
  /-- An id was visited before. -/
  | skip {visited rest : List String} {id : String} (again : id ∈ visited) :
      Step arcs goal ⟨visited, id :: rest, false⟩ ⟨visited, rest, false⟩
  /-- A goal is visited. -/
  | find {visited rest : List String} {id : String} (fresh : id ∉ visited)
      (met : goal id = true) :
      Step arcs goal ⟨visited, id :: rest, false⟩ ⟨id :: visited, rest, true⟩
  /-- Another id is visited. -/
  | visit {visited rest : List String} {id : String} (fresh : id ∉ visited)
      (other : goal id = false) :
      Step arcs goal ⟨visited, id :: rest, false⟩
        ⟨id :: visited, (behind arcs id).reverse ++ rest, false⟩

theorem step_of_isOver (ended : w.IsOver) : w.step arcs goal = w := by
  obtain ⟨visited, stack, found⟩ := w
  rcases ended with rfl | rfl
  · rfl
  · cases found <;> rfl

/-- As long as a walk is not over, a step is one of the three kinds. -/
theorem step_of_not_isOver (arcs : List (String × String)) (goal : String → Bool)
    (goes : ¬ w.IsOver) : Step arcs goal w (w.step arcs goal) := by
  obtain ⟨visited, stack, found⟩ := w
  cases found with
  | true => exact absurd (Or.inl rfl) goes
  | false =>
      cases stack with
      | nil => exact absurd (Or.inr rfl) goes
      | cons id rest =>
          simp only [step]
          by_cases again : id ∈ visited
          · rw [if_pos (List.contains_iff_mem.mpr again)]
            exact .skip again
          · rw [if_neg (mt List.contains_iff_mem.mp again)]
            by_cases met : goal id = true
            · rw [if_pos met]
              exact .find again met
            · rw [if_neg met]
              exact .visit again (Bool.not_eq_true _ ▸ met)

/-! ## The end of a walk -/

/-- The arcs that start at an id not yet visited. -/
def ahead (arcs : List (String × String)) (visited : List String) : List (String × String) :=
  arcs.filter fun arc => !visited.contains arc.1

/-- What is left to do: the ids on the stack, and those that arcs may still put there. -/
def left (arcs : List (String × String)) (w : Walk) : Nat :=
  (ahead arcs w.visited).length + w.stack.length

/-- A visit takes the arcs from the id off those ahead. -/
theorem length_ahead_cons (arcs : List (String × String)) {visited : List String}
    (fresh : id ∉ visited) : (ahead arcs visited).length =
      (behind arcs id).length + (ahead arcs (id :: visited)).length := by
  have here : (ahead arcs visited).filter (·.1 == id) = arcs.filter (·.1 == id) := by
    rw [ahead, List.filter_filter]
    refine List.filter_congr fun arc _ => ?_
    by_cases same : arc.1 = id
    · simp [same, fresh]
    · simp [same]
  have elsewhere : (ahead arcs visited).filter (fun arc => !(arc.1 == id)) =
      ahead arcs (id :: visited) := by
    rw [ahead, ahead, List.filter_filter]
    refine List.filter_congr fun arc _ => ?_
    rw [List.contains_cons, Bool.not_or]
  rw [List.length_eq_length_filter_add (fun arc : String × String => arc.1 == id), here, elsewhere,
    behind, List.length_map]

/-- Every step leaves less to do. -/
theorem Step.left_lt (step : Step arcs goal w w') : w'.left arcs < w.left arcs := by
  cases step with
  | skip again => exact Nat.lt_succ_self _
  | @find visited rest id fresh met =>
      have split := length_ahead_cons arcs fresh
      simp only [left, List.length_cons]
      omega
  | @visit visited rest id fresh other =>
      have split := length_ahead_cons arcs fresh
      simp only [left, List.length_cons, List.length_append, List.length_reverse]
      omega

theorem steps_of_isOver (ended : w.IsOver) (n : Nat) : steps arcs goal n w = w := by
  induction n with
  | zero => rfl
  | succ n ih => rw [steps, step_of_isOver ended, ih]

/-- A walk is over after as many steps as there is left to do. -/
theorem isOver_steps {n : Nat} (enough : w.left arcs ≤ n) : (steps arcs goal n w).IsOver := by
  induction n generalizing w with
  | zero =>
      have empty : w.stack.length = 0 :=
        Nat.eq_zero_of_le_zero (Nat.le_trans (by simp [left]) enough)
      exact Or.inr (List.eq_nil_of_length_eq_zero empty)
  | succ n ih =>
      by_cases ended : w.IsOver
      · rw [steps_of_isOver ended]
        exact ended
      · have less := (step_of_not_isOver arcs goal ended).left_lt
        exact ih (by omega)

theorem left_start (ids : List String) : (start ids).left arcs = arcs.length + ids.length := by
  simp [left, start, ahead]

/-- Further steps than those of the complete walk change nothing. -/
theorem steps_start {n : Nat} (enough : arcs.length + ids.length ≤ n) :
    steps arcs goal n (start ids) = complete arcs goal ids := by
  obtain ⟨more, rfl⟩ := Nat.exists_eq_add_of_le enough
  have add : ∀ (n : Nat) (w : Walk),
      steps arcs goal (n + more) w = steps arcs goal more (steps arcs goal n w) := by
    intro n
    induction n with
    | zero => intro w; rw [Nat.zero_add]; rfl
    | succ n ih => intro w; rw [Nat.succ_add, steps, ih, steps]
  rw [add]
  exact steps_of_isOver (isOver_steps (left_start ids).le) more

theorem isOver_complete : (complete arcs goal ids).IsOver := isOver_steps (left_start ids).le

/-! ## What a walk visits -/

/-- What a walk from some ids keeps true. -/
structure Invariant (arcs : List (String × String)) (goal : String → Bool) (ids : List String)
    (w : Walk) : Prop where
  /-- Whatever is visited, now or later, lies on a path from the start. -/
  reached : ∀ id, id ∈ w.visited ∨ id ∈ w.stack → ∃ u ∈ ids, ReflTransGen (Leads arcs) u id
  /-- No id to start from is lost. -/
  started : ∀ id ∈ ids, id ∈ w.visited ∨ id ∈ w.stack
  /-- Before a goal is found, nothing behind a visited id is lost. -/
  onward : w.found = false → ∀ u ∈ w.visited, ∀ v, Leads arcs u v → v ∈ w.visited ∨ v ∈ w.stack
  /-- A goal is found when it is visited. -/
  found : w.found = true ↔ ∃ id ∈ w.visited, goal id = true

/-- A walk starts with all ids waiting and none visited. -/
theorem invariant_start : Invariant arcs goal ids (start ids) where
  reached := by
    rintro id (visited | waits)
    · cases visited
    · exact ⟨id, List.mem_reverse.mp waits, .refl⟩
  started := fun id inside => Or.inr (List.mem_reverse.mpr inside)
  onward := fun _ _ visited => absurd visited List.not_mem_nil
  found := by simp [start]

/-- A step keeps the invariant, whichever of the three it is. -/
theorem Invariant.step (inv : Invariant arcs goal ids w) (step : Step arcs goal w w') :
    Invariant arcs goal ids w' := by
  obtain ⟨reached, started, onward, found⟩ := inv
  cases step with
  | @skip visited rest id again =>
      -- the id that is taken off the stack stays among those visited
      have kept : ∀ v, v ∈ visited ∨ v ∈ id :: rest → v ∈ visited ∨ v ∈ rest := by
        rintro v (old | waits)
        · exact Or.inl old
        · rcases List.mem_cons.mp waits with rfl | waits
          · exact Or.inl again
          · exact Or.inr waits
      refine ⟨fun v member => reached v (member.imp_right (List.mem_cons_of_mem _)),
        fun u inside => kept u (started u inside),
        fun _ u old v arc => kept v (onward rfl u old v arc), found⟩
  | @find visited rest id fresh met =>
      refine ⟨fun v member => reached v ?_, fun u inside => ?_, nofun, ?_⟩
      · rcases member with visited | waits
        · rcases List.mem_cons.mp visited with rfl | old
          · exact Or.inr List.mem_cons_self
          · exact Or.inl old
        · exact Or.inr (List.mem_cons_of_mem _ waits)
      · rcases started u inside with old | waits
        · exact Or.inl (List.mem_cons_of_mem _ old)
        · rcases List.mem_cons.mp waits with rfl | waits
          · exact Or.inl List.mem_cons_self
          · exact Or.inr waits
      · exact iff_of_true rfl ⟨id, List.mem_cons_self, met⟩
  | @visit visited rest id fresh other =>
      have moved : ∀ v, v ∈ visited ∨ v ∈ id :: rest →
          v ∈ id :: visited ∨ v ∈ (behind arcs id).reverse ++ rest := by
        rintro v (old | waits)
        · exact Or.inl (List.mem_cons_of_mem _ old)
        · rcases List.mem_cons.mp waits with rfl | waits
          · exact Or.inl List.mem_cons_self
          · exact Or.inr (List.mem_append_right _ waits)
      obtain ⟨u, inside, path⟩ := reached id (Or.inr List.mem_cons_self)
      refine ⟨?_, fun u inside => moved u (started u inside), ?_, ?_⟩
      · rintro v (visited | waits)
        · rcases List.mem_cons.mp visited with rfl | old
          · exact ⟨u, inside, path⟩
          · exact reached v (Or.inl old)
        · rcases List.mem_append.mp waits with next | waits
          · exact ⟨u, inside, path.tail (mem_behind.mp (List.mem_reverse.mp next))⟩
          · exact reached v (Or.inr (List.mem_cons_of_mem _ waits))
      · intro _ u visited v arc
        rcases List.mem_cons.mp visited with rfl | old
        · exact Or.inr (List.mem_append_left _ (List.mem_reverse.mpr (mem_behind.mpr arc)))
        · exact moved v (onward rfl u old v arc)
      · refine iff_of_false Bool.false_ne_true ?_
        rintro ⟨v, visited, met⟩
        rcases List.mem_cons.mp visited with rfl | old
        · exact Bool.false_ne_true (other.symm.trans met)
        · exact Bool.false_ne_true (found.mpr ⟨v, old, met⟩)

theorem Invariant.steps (inv : Invariant arcs goal ids w) (n : Nat) :
    Invariant arcs goal ids (steps arcs goal n w) := by
  induction n generalizing w with
  | zero => exact inv
  | succ n ih =>
      refine ih ?_
      by_cases ended : w.IsOver
      · rw [step_of_isOver ended]
        exact inv
      · exact inv.step (step_of_not_isOver arcs goal ended)

theorem invariant_complete (arcs : List (String × String)) (goal : String → Bool)
    (ids : List String) : Invariant arcs goal ids (complete arcs goal ids) :=
  invariant_start.steps _

/-- A walk that ends without a goal has visited whatever paths from the start lead to. -/
theorem mem_visited_of_path (none : (complete arcs goal ids).found = false) (inside : u ∈ ids)
    (path : ReflTransGen (Leads arcs) u v) : v ∈ (complete arcs goal ids).visited := by
  obtain ⟨-, started, onward, -⟩ := invariant_complete arcs goal ids
  have empty : (complete arcs goal ids).stack = [] :=
    isOver_complete.resolve_left (Bool.eq_false_iff.mp none)
  rw [empty] at started onward
  induction path with
  | refl => exact (started u inside).resolve_right List.not_mem_nil
  | tail _ arc ih => exact (onward none _ ih _ arc).resolve_right List.not_mem_nil

/-- A walk finds a goal exactly when a path from the start leads to one. -/
theorem found_complete_iff : (complete arcs goal ids).found = true ↔
    ∃ u ∈ ids, ∃ v, goal v = true ∧ ReflTransGen (Leads arcs) u v := by
  have inv := invariant_complete arcs goal ids
  constructor
  · intro found
    obtain ⟨v, visited, met⟩ := inv.found.mp found
    obtain ⟨u, inside, path⟩ := inv.reached v (Or.inl visited)
    exact ⟨u, inside, v, met, path⟩
  · rintro ⟨u, inside, v, met, path⟩
    by_contra none
    exact none (inv.found.mpr
      ⟨v, mem_visited_of_path (Bool.eq_false_iff.mpr none) inside path, met⟩)

end Walk

namespace Graph

variable {g : Graph} {start : List String} {goal : String → Bool} {u v id : String}

theorem leads_arcs : Leads g.arcs = g.Arc := by
  funext u v
  simp [Leads, arcs, Arc]

theorem leads_arcsBack : Leads g.arcsBack = Function.swap g.Arc := by
  funext u v
  simp [Leads, arcsBack, Arc, Function.swap, and_comm]

/-- An id is reached when a path of edges leads to it. -/
theorem mem_reachable_iff : v ∈ g.reachable start ↔ ∃ u ∈ start, ReflTransGen g.Arc u v := by
  rw [reachable, ← leads_arcs]
  constructor
  · intro visited
    exact (Walk.invariant_complete ..).reached v (Or.inl visited)
  · rintro ⟨u, inside, path⟩
    refine Walk.mem_visited_of_path (Bool.eq_false_iff.mpr fun found => ?_) inside path
    obtain ⟨_, -, _, never, -⟩ := Walk.found_complete_iff.mp found
    cases never

/-- A goal is met on the way back when a path of edges leads from it. -/
theorem comesFrom_iff :
    g.comesFrom goal id = true ↔ ∃ u, goal u = true ∧ ReflTransGen g.Arc u id := by
  simp only [comesFrom, Walk.found_complete_iff, leads_arcsBack, List.mem_singleton,
    exists_eq_left, reflTransGen_swap]

end Graph

end Dataflow
