import Dataflow.Graph.Traversal
import Mathlib.Data.List.Nodup
import Mathlib.Data.List.Perm.Subperm
import Mathlib.Tactic.ByContra

/-!
# The sweep behind the topological order

What a sweep keeps true from one release to the next (`Sweep.Invariant`): no id
comes twice, every count is the number of links from ids not yet released, an id has
its turn exactly when its count is zero, and every link into a released id comes
from one released before it. Part of the way through a release the counts hold also
the links that are still to be taken off (`Sweep.Counted`). A sweep over finitely many
ids runs dry, and what is released by then is closed: an id is released exactly when
all links into it come from released ids (`Sweep.Invariant.released_iff`).
-/

namespace Dataflow.Sweep

variable {ids : List String} {links : List Edge} {s : Sweep}

/-- The number of links into an id from ids that are not released. -/
def waiting (links : List Edge) (released : List String) (id : String) : Nat :=
  (links.filter fun e => e.target == id && !released.contains e.source).length

/-- The ids at the end of the links out of an id, one for each link. -/
def targets (links : List Edge) (id : String) : List String :=
  (links.filter (·.source == id)).map (·.target)

theorem linksInto_eq_waiting (links : List Edge) (id : String) :
    linksInto links id = waiting links [] id := by
  simp [linksInto, waiting]

/-- An id waits for nothing when every source of a link into it is released. -/
theorem waiting_eq_zero_iff {released : List String} {id : String} :
    waiting links released id = 0 ↔ ∀ e ∈ links, e.target = id → e.source ∈ released := by
  simp [waiting, List.filter_eq_nil_iff]

theorem waiting_cons (e : Edge) (rest : List Edge) (released : List String) (id : String) :
    waiting (e :: rest) released id =
      waiting rest released id + if e.target = id ∧ e.source ∉ released then 1 else 0 := by
  by_cases into : e.target = id <;> by_cases done : e.source ∈ released <;>
    simp [waiting, into, done]

theorem count_targets_cons (e : Edge) (rest : List Edge) (id other : String) :
    (targets (e :: rest) id).count other =
      (targets rest id).count other + if e.source = id ∧ e.target = other then 1 else 0 := by
  by_cases out : e.source = id <;> by_cases into : e.target = other <;>
    simp [targets, out, into]

/-- The release of an id takes the links out of it off the counts. -/
theorem waiting_append {released : List String} {id : String} (fresh : id ∉ released)
    (other : String) :
    waiting links released other =
      waiting links (released ++ [id]) other + (targets links id).count other := by
  induction links with
  | nil => rfl
  | cons e rest ih =>
      rw [waiting_cons, waiting_cons, count_targets_cons, ih]
      by_cases out : e.source = id
      · by_cases into : e.target = other
        · simp [out, into, fresh]
          omega
        · simp [out, into]
      · by_cases into : e.target = other
        · simp [out, into]
          omega
        · simp [out, into]

/-! ## Relieving the ids behind a released one -/

theorem foldl_relieve_order (freed : List String) (s : Sweep) :
    (freed.foldl relieve s).order = s.order := by
  induction freed generalizing s with
  | nil => rfl
  | cons id rest ih => rw [List.foldl_cons, ih]; rfl

/-- Relieving ids one after another takes from each as often as it comes. -/
theorem foldl_relieve_pending (freed : List String) (s : Sweep) (other : String) :
    (freed.foldl relieve s).pending other = s.pending other - freed.count other := by
  induction freed generalizing s with
  | nil => rfl
  | cons id rest ih =>
      rw [List.foldl_cons, ih]
      by_cases same : other = id
      · subst same
        simp [relieve]
        omega
      · simp [relieve, same, Ne.symm same]

/-- As long as no count falls below zero, the ids put into the queue are those whose
count falls to zero, each once. -/
theorem foldl_relieve_queue (relieved : List String) (s : Sweep)
    (enough : ∀ id ∈ relieved, relieved.count id ≤ s.pending id) :
    ∃ freed, (relieved.foldl relieve s).queue = s.queue ++ freed ∧ freed.Nodup ∧
      ∀ id, id ∈ freed ↔ id ∈ relieved ∧ s.pending id = relieved.count id := by
  induction relieved generalizing s with
  | nil => exact ⟨[], by simp⟩
  | cons id rest ih =>
      have first := enough id List.mem_cons_self
      rw [List.count_cons_self] at first
      have enoughRest : ∀ other ∈ rest, rest.count other ≤ (s.relieve id).pending other := by
        intro other member
        have bound := enough other (List.mem_cons_of_mem _ member)
        by_cases same : other = id
        · subst same
          simp only [relieve, if_true]
          omega
        · simpa [relieve, same, Ne.symm same] using bound
      obtain ⟨freed, queue_eq, nodup, mem_freed⟩ := ih (s.relieve id) enoughRest
      have mem_other : ∀ other, other ≠ id →
          (other ∈ freed ↔ other ∈ id :: rest ∧ s.pending other = (id :: rest).count other) := by
        intro other different
        rw [mem_freed other]
        simp [relieve, different, Ne.symm different]
      by_cases last : s.pending id = 1
      · -- the last link into `id`: it enters the queue now and never again
        have gone : id ∉ rest := by
          rw [← List.count_eq_zero]
          omega
        have notFreed : id ∉ freed := fun member => gone ((mem_freed id).mp member).1
        refine ⟨id :: freed, ?_, List.nodup_cons.mpr ⟨notFreed, nodup⟩, ?_⟩
        · rw [List.foldl_cons, queue_eq]
          simp [relieve, last]
        · intro other
          by_cases same : other = id
          · subst same
            simp [List.count_eq_zero.mpr gone, last]
          · rw [List.mem_cons, mem_other other same]
            simp [same]
      · refine ⟨freed, ?_, nodup, ?_⟩
        · rw [List.foldl_cons, queue_eq]
          have left : s.pending id - 1 ≠ 0 := by omega
          simp [relieve, left]
        · intro other
          by_cases same : other = id
          · subst same
            rw [mem_freed other, ← List.count_pos_iff, ← List.count_pos_iff]
            simp only [relieve, if_true, List.count_cons_self]
            omega
          · exact mem_other other same

/-! ## One release -/

theorem step_of_nil (dry : s.queue = []) : s.step links = s := by
  simp [step, dry]

/-- A sweep part of the way through the release of its first free id, when some of the ids behind
it have been relieved of a link, each as often as it is listed. -/
def partway (s : Sweep) (id : String) (rest relieved : List String) : Sweep :=
  relieved.foldl relieve { s with order := s.order ++ [id], queue := rest }

theorem partway_order (s : Sweep) (id : String) (rest relieved : List String) :
    (s.partway id rest relieved).order = s.order ++ [id] :=
  foldl_relieve_order _ _

/-- A step releases the first id of the queue and relieves the targets of its links. -/
theorem step_of_cons {id : String} {rest : List String} (first : s.queue = id :: rest) :
    s.step links = s.partway id rest (targets links id) := by
  simp [step, first, targets, partway]

/-- What holds of a sweep over some ids at every moment, with the ids behind the one released last
that are still to be relieved of a link. -/
structure Counted (ids : List String) (links : List Edge) (behind : List String) (s : Sweep) :
    Prop where
  /-- No id is released twice or waits twice for its turn. -/
  nodup : (s.order ++ s.queue).Nodup
  known : ∀ id ∈ s.order ++ s.queue, id ∈ ids
  /-- The counts leave out the links from released ids, but for those still to be relieved. -/
  pending : ∀ id, s.pending id = waiting links s.order id + behind.count id
  /-- An id has its turn, now or before, exactly when no link into it is left. -/
  free : ∀ id ∈ ids, id ∈ s.order ++ s.queue ↔ s.pending id = 0

/-- An id that is still to be relieved of a link has one left. -/
theorem Counted.pending_pos {id : String} {behind : List String}
    (counted : Counted ids links (id :: behind) s) : 0 < s.pending id := by
  rw [counted.pending id, List.count_cons_self]
  exact Nat.succ_pos _

/-- What holds of a sweep over some ids before every release. -/
structure Invariant (ids : List String) (links : List Edge) (s : Sweep) : Prop where
  /-- No id is released twice or waits twice for its turn. -/
  nodup : (s.order ++ s.queue).Nodup
  known : ∀ id ∈ s.order ++ s.queue, id ∈ ids
  /-- The counts leave out the links from released ids. -/
  pending : ∀ id, s.pending id = waiting links s.order id
  /-- An id has its turn, now or before, exactly when no link into it is left. -/
  free : ∀ id ∈ ids, id ∈ s.order ++ s.queue ↔ s.pending id = 0
  /-- A link into a released id comes from one released before it. -/
  onward : ∀ e ∈ links, e.target ∈ s.order →
    e.source ∈ s.order ∧ s.order.idxOf e.source < s.order.idxOf e.target

/-- The invariant holds before the first release. -/
theorem invariant_start (nodup : ids.Nodup) (links : List Edge) :
    Invariant ids links (start ids links) where
  nodup := by simpa [start] using nodup.filter _
  known := by simp +contextual [start]
  pending id := linksInto_eq_waiting links id
  free := by simp +contextual [start]
  onward := by simp [start]

namespace Invariant

/-- The first free id, about to be released. -/
private theorem head_fresh (inv : Invariant ids links s) {id : String} {rest : List String}
    (first : s.queue = id :: rest) : id ∉ s.order ∧ s.pending id = 0 := by
  have nodup := inv.nodup
  have member : id ∈ s.order ++ s.queue := by simp [first]
  rw [first, List.nodup_middle, List.nodup_cons] at nodup
  exact ⟨fun old => nodup.1 (List.mem_append_left _ old),
    (inv.free id (inv.known id member)).mp member⟩

/-- The release of the first free id keeps the order of the links. -/
private theorem onward_append (inv : Invariant ids links s) {id : String} {rest : List String}
    (first : s.queue = id :: rest) : ∀ e ∈ links, e.target ∈ s.order ++ [id] →
      e.source ∈ s.order ++ [id] ∧
        (s.order ++ [id]).idxOf e.source < (s.order ++ [id]).idxOf e.target := by
  obtain ⟨fresh, zero⟩ := inv.head_fresh first
  intro e link target
  rcases List.mem_append.mp target with old | new
  · obtain ⟨source, before⟩ := inv.onward e link old
    refine ⟨List.mem_append_left _ source, ?_⟩
    rwa [List.idxOf_append_of_mem source, List.idxOf_append_of_mem old]
  · have here : e.target = id := List.mem_singleton.mp new
    have source : e.source ∈ s.order := by
      rw [inv.pending id, waiting_eq_zero_iff] at zero
      exact zero e link here
    refine ⟨List.mem_append_left _ source, ?_⟩
    rw [here, List.idxOf_append_of_mem source, List.idxOf_append_of_notMem fresh]
    have bound := List.idxOf_lt_length_of_mem source
    omega

/-- Every link out of the id to be released was counted, so relieving its targets never falls
below zero. -/
theorem pending_eq_add (inv : Invariant ids links s) {id : String} {rest : List String}
    (first : s.queue = id :: rest) (other : String) :
    s.pending other =
      waiting links (s.order ++ [id]) other + (targets links id).count other := by
  rw [inv.pending other, waiting_append (inv.head_fresh first).1]

/-! Part of the way through the release of the first free id: of the ids behind it some have been
relieved, and the others are still to be. -/

section

variable {id : String} {rest before behind : List String}

theorem pending_eq_of_split (inv : Invariant ids links s) (first : s.queue = id :: rest)
    (split : targets links id = before ++ behind) (other : String) :
    s.pending other =
      waiting links (s.order ++ [id]) other + (before.count other + behind.count other) := by
  rw [inv.pending_eq_add first, split, List.count_append]

/-- Partway through a release, an id still waits for the links not yet relieved. -/
theorem pending_partway (inv : Invariant ids links s) (first : s.queue = id :: rest)
    (split : targets links id = before ++ behind) (other : String) :
    (s.partway id rest before).pending other =
      waiting links (s.order ++ [id]) other + behind.count other := by
  have counts := inv.pending_eq_of_split first split other
  rw [partway, foldl_relieve_pending]
  show s.pending other - before.count other = _
  omega

/-- Those of them that are freed enter the queue, each once. -/
theorem exists_freed_partway (inv : Invariant ids links s) (first : s.queue = id :: rest)
    (split : targets links id = before ++ behind) :
    ∃ freed, (s.partway id rest before).order ++ (s.partway id rest before).queue =
        s.order ++ s.queue ++ freed ∧ freed.Nodup ∧
      ∀ other, other ∈ freed ↔
        other ∈ before ∧ (s.partway id rest before).pending other = 0 := by
  have enough : ∀ other, before.count other ≤ s.pending other := by
    intro other
    have counts := inv.pending_eq_of_split first split other
    omega
  obtain ⟨freed, queue_eq, nodup, mem_freed⟩ := foldl_relieve_queue before
    { s with order := s.order ++ [id], queue := rest } fun other _ => enough other
  refine ⟨freed, ?_, nodup, fun other => ?_⟩
  · -- `id` keeps its turn
    rw [partway_order, partway, queue_eq, first]
    simp
  · rw [mem_freed other, partway, foldl_relieve_pending]
    refine and_congr_right fun _ => ?_
    have := enough other
    show s.pending other = before.count other ↔ s.pending other - before.count other = 0
    omega

/-- The counts are right all the way through a release. -/
theorem counted_partway (inv : Invariant ids links s) (closed : ∀ e ∈ links, e.target ∈ ids)
    (first : s.queue = id :: rest) (split : targets links id = before ++ behind) :
    Counted ids links behind (s.partway id rest before) := by
  obtain ⟨freed, turns, freed_nodup, mem_freed⟩ := inv.exists_freed_partway first split
  have pending_eq := inv.pending_partway first split
  have counts := inv.pending_eq_of_split first split
  have freed_known : ∀ other ∈ freed, other ∈ ids := by
    intro other member
    have target : other ∈ targets links id :=
      split ▸ List.mem_append_left behind ((mem_freed other).mp member).1
    obtain ⟨e, link, rfl⟩ := List.mem_map.mp target
    exact closed e (List.mem_filter.mp link).1
  have freed_pending : ∀ other ∈ freed, s.pending other ≠ 0 := by
    intro other member
    have positive := List.count_pos_iff.mpr ((mem_freed other).mp member).1
    have := counts other
    omega
  constructor
  · rw [turns]
    refine List.nodup_append.mpr ⟨inv.nodup, freed_nodup, ?_⟩
    rintro other had _ member rfl
    exact freed_pending other member ((inv.free other (inv.known other had)).mp had)
  · rw [turns]
    intro other member
    rcases List.mem_append.mp member with had | member
    · exact inv.known other had
    · exact freed_known other member
  · intro other
    rw [partway_order]
    exact pending_eq other
  · intro other inside
    rw [turns, List.mem_append, inv.free other inside, mem_freed other, pending_eq,
      ← List.count_pos_iff]
    have := counts other
    omega

end

/-- What the release of the first free id frees: the ids behind it into which no link is left,
each once, and behind those that wait already. -/
theorem exists_freed (inv : Invariant ids links s) {id : String} {rest : List String}
    (first : s.queue = id :: rest) :
    ∃ freed, (s.step links).order = s.order ++ [id] ∧
      (s.step links).order ++ (s.step links).queue = s.order ++ s.queue ++ freed ∧
      freed.Nodup ∧
      ∀ other, other ∈ freed ↔
        other ∈ targets links id ∧ waiting links (s.order ++ [id]) other = 0 := by
  have split : targets links id = targets links id ++ [] := (List.append_nil _).symm
  obtain ⟨freed, turns, nodup, mem_freed⟩ := inv.exists_freed_partway first split
  rw [step_of_cons first]
  refine ⟨freed, partway_order .., turns, nodup, fun other => ?_⟩
  rw [mem_freed other, inv.pending_partway first split, List.count_nil, Nat.add_zero]

/-- A release keeps the invariant. -/
theorem step (inv : Invariant ids links s) (closed : ∀ e ∈ links, e.target ∈ ids) :
    Invariant ids links (s.step links) := by
  cases first : s.queue with
  | nil => rwa [step_of_nil first]
  | cons id rest =>
      have counted := inv.counted_partway closed first (List.append_nil _).symm
      rw [step_of_cons first]
      refine ⟨counted.nodup, counted.known, counted.pending, counted.free, ?_⟩
      rw [partway_order]
      exact inv.onward_append first

/-- A release takes no turn away. -/
theorem step_turns (inv : Invariant ids links s) :
    s.order ++ s.queue <+: (s.step links).order ++ (s.step links).queue := by
  cases first : s.queue with
  | nil => simp [step_of_nil first, first]
  | cons id rest =>
      obtain ⟨freed, -, turns, -⟩ := inv.exists_freed first
      rw [turns, first]
      exact List.prefix_append ..

/-- Any number of releases keeps the invariant. -/
theorem steps (inv : Invariant ids links s) (closed : ∀ e ∈ links, e.target ∈ ids) (n : Nat) :
    Invariant ids links (Sweep.steps links n s) := by
  induction n generalizing s with
  | zero => exact inv
  | succ n ih => exact ih (inv.step closed)

theorem steps_turns (inv : Invariant ids links s) (closed : ∀ e ∈ links, e.target ∈ ids)
    (n : Nat) : s.order ++ s.queue <+:
      (Sweep.steps links n s).order ++ (Sweep.steps links n s).queue := by
  induction n generalizing s with
  | zero => exact List.prefix_rfl
  | succ n ih => exact inv.step_turns.trans (ih (inv.step closed))

/-- There are no more turns than ids. -/
theorem length_le (inv : Invariant ids links s) :
    s.order.length + s.queue.length ≤ ids.length := by
  have bound := (List.Nodup.subperm inv.nodup inv.known).length_le
  simpa using bound

/-- As many releases as there are ids leave none that is free. -/
theorem steps_queue (inv : Invariant ids links s) (closed : ∀ e ∈ links, e.target ∈ ids)
    {n : Nat} (enough : s.queue = [] ∨ ids.length ≤ s.order.length + n) :
    (Sweep.steps links n s).queue = [] := by
  induction n generalizing s with
  | zero =>
      rcases enough with dry | enough
      · exact dry
      · have bound := inv.length_le
        show s.queue = []
        exact List.length_eq_zero_iff.mp (by omega)
  | succ n ih =>
      refine ih (inv.step closed) ?_
      cases first : s.queue with
      | nil => exact Or.inl (by rw [step_of_nil first, first])
      | cons id rest =>
          right
          rw [step_of_cons first, partway_order, List.length_append, List.length_singleton]
          rcases enough with dry | enough
          · rw [first] at dry
            cases dry
          · omega

/-- Once no id is free, those released are the ones into which all links come from
released ids. -/
theorem released_iff (inv : Invariant ids links s) (dry : s.queue = []) {id : String}
    (inside : id ∈ ids) :
    id ∈ s.order ↔ ∀ e ∈ links, e.target = id → e.source ∈ s.order := by
  have free := inv.free id inside
  rwa [dry, List.append_nil, inv.pending id, waiting_eq_zero_iff] at free

end Invariant

end Dataflow.Sweep
