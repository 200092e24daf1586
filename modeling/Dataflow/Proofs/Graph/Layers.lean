import Dataflow.Proofs.Graph.Order
import Mathlib.Order.Bounds.Basic

/-!
# The layers of the topological order

How deep an id lies in a graph is the number of links in the longest chain that ends at it
(`Depth`). No part of the sweep counts chains. It is the queue, first come, first served, that
brings the ids out layer by layer: all that wait for their turn lie in at most two layers, that of
the first of them and the next (`Layered`), and an id is freed by the last of the ids with a link
into it, so it lies in the layer right below that one. The ids with no link into them wait from the
start, in the order of the nodes.

Ids on a cycle or behind one have no longest chain, and these are the ones that the order leaves
out.
-/

namespace Dataflow.Graph

variable {g : Graph} {s : Sweep} {u v id : String} {m n : Nat}

/-- A chain of so many links ends at an id. -/
inductive ChainTo (g : Graph) : Nat → String → Prop
  | start (id : String) : ChainTo g 0 id
  | link {n : Nat} {u v : String} (chain : ChainTo g n u) (link : g.Link u v) : ChainTo g (n + 1) v

/-- The longest chain of links that ends at an id has so many links. -/
def Depth (g : Graph) (id : String) (n : Nat) : Prop := IsGreatest {k | g.ChainTo k id} n

theorem Depth.unique (deep : g.Depth id m) (deep' : g.Depth id n) : m = n :=
  IsGreatest.unique deep deep'

/-- A node without a link into it has depth zero. -/
theorem depth_zero (root : ∀ u, ¬ g.Link u id) : g.Depth id 0 := by
  refine ⟨.start id, ?_⟩
  rintro k (_ | ⟨-, link⟩)
  · exact Nat.le_refl 0
  · exact absurd link (root _)

/-- An id lies one layer below the deepest of those with a link into it. -/
theorem depth_succ (link : g.Link u id) (deep : g.Depth u n)
    (others : ∀ w, g.Link w id → ∃ k ≤ n, g.Depth w k) : g.Depth id (n + 1) := by
  refine ⟨.link deep.1 link, ?_⟩
  rintro k (_ | ⟨chain, last⟩)
  · exact Nat.zero_le _
  · obtain ⟨most, bound, deepest⟩ := others _ last
    exact Nat.succ_le_succ ((deepest.2 chain).trans bound)

/-- Chains of any length end at an id that is missing from the order. -/
theorem chainTo_of_missing (inside : id ∈ g.ids) (missing : id ∉ g.order) (n : Nat) :
    g.ChainTo n id := by
  induction n generalizing id with
  | zero => exact .start id
  | succ n ih =>
      -- some id with a link into a missing one is missing too
      have held := mt (mem_order_iff inside).mpr missing
      push Not at held
      obtain ⟨u, link, missing⟩ := held
      exact .link (ih link.2.1 missing) link

/-! ## Layers -/

/-- One id lies no deeper than another. -/
def NoDeeper (g : Graph) (u v : String) : Prop := ∀ m n, g.Depth u m → g.Depth v n → m ≤ n

/-- Some ids lie in the layers from one to another. -/
def LieWithin (g : Graph) (least most : Nat) (ids : List String) : Prop :=
  ∀ id ∈ ids, ∃ n, least ≤ n ∧ n ≤ most ∧ g.Depth id n

namespace LieWithin

variable {l m n : Nat} {us vs : List String}

theorem append (first : g.LieWithin l n us) (second : g.LieWithin l n vs) :
    g.LieWithin l n (us ++ vs) := by
  intro id member
  rcases List.mem_append.mp member with member | member
  · exact first id member
  · exact second id member

theorem mono (within : g.LieWithin m n us) {l k : Nat} (least : l ≤ m) (most : n ≤ k) :
    g.LieWithin l k us := by
  intro id member
  obtain ⟨d, lower, upper, deep⟩ := within id member
  exact ⟨d, least.trans lower, upper.trans most, deep⟩

/-- Where some ids end others begin. -/
theorem noDeeper (above : g.LieWithin l m us) (below : g.LieWithin m n vs) :
    ∀ u ∈ us, ∀ v ∈ vs, g.NoDeeper u v := by
  intro u memberU v memberV i j deepU deepV
  obtain ⟨i', -, upper, deepU'⟩ := above u memberU
  obtain ⟨j', lower, -, deepV'⟩ := below v memberV
  rw [deepU.unique deepU', deepV.unique deepV']
  exact upper.trans lower

/-- The ids of one layer may stand in any order. -/
theorem pairwise (within : g.LieWithin n n us) : us.Pairwise g.NoDeeper :=
  List.pairwise_of_forall_mem_list (within.noDeeper within)

end LieWithin

/-! ## The sweep goes layer by layer -/

/-- Before every release: the ids that have had their turn, and behind them those that wait, are in
the order of their layers, and those that wait lie at most one layer below the first of them. -/
structure Layered (g : Graph) (s : Sweep) : Prop where
  deep : ∀ id ∈ s.order ++ s.queue, ∃ n, g.Depth id n
  rising : (s.order ++ s.queue).Pairwise g.NoDeeper
  near : ∀ id rest, s.queue = id :: rest → ∀ n, g.Depth id n → g.LieWithin 0 (n + 1) rest

/-- A count starts at zero when no link leads into the id. -/
theorem linksInto_eq_zero_iff : Sweep.linksInto g.links id = 0 ↔ ∀ u, ¬ g.Link u id := by
  rw [Sweep.linksInto_eq_waiting, Sweep.waiting_eq_zero_iff]
  constructor
  · intro none u link
    obtain ⟨e, linked, -, target⟩ := link_iff.mp link
    exact List.not_mem_nil (none e linked target)
  · intro none e linked target
    exact absurd (link_iff.mpr ⟨e, linked, rfl, target⟩) (none e.source)

namespace Layered

theorem start (g : Graph) : g.Layered (Sweep.start g.distinctIds g.links) := by
  have roots : g.LieWithin 0 0 (Sweep.start g.distinctIds g.links).queue := by
    intro id member
    have none := eq_of_beq (List.mem_filter.mp member).2
    exact ⟨0, Nat.le_refl 0, Nat.le_refl 0, depth_zero (linksInto_eq_zero_iff.mp none)⟩
  constructor
  · intro id member
    obtain ⟨n, -, -, deep⟩ := roots id member
    exact ⟨n, deep⟩
  · exact roots.pairwise
  · intro id rest first n _ other member
    exact roots.mono (Nat.le_refl 0) (Nat.zero_le _) other (first ▸ List.mem_cons_of_mem _ member)

/-! What a release finds: the first id that waits, which lies in the layer `d`. -/

variable {rest freed : List String} {d : Nat}

/-- What had its turn lies no deeper than the id to be released. -/
theorem released_within (layered : g.Layered s) (first : s.queue = id :: rest)
    (deep : g.Depth id d) : g.LieWithin 0 d (s.order ++ [id]) := by
  have rising := layered.rising
  rw [first, List.pairwise_append] at rising
  intro u member
  rcases List.mem_append.mp member with old | new
  · obtain ⟨n, deepU⟩ := layered.deep u (List.mem_append_left _ old)
    exact ⟨n, Nat.zero_le n, rising.2.2 u old id List.mem_cons_self n d deepU deep, deepU⟩
  · rw [List.mem_singleton.mp new]
    exact ⟨d, Nat.zero_le d, Nat.le_refl d, deep⟩

/-- What waits behind it lies in the same layer or in the next. -/
theorem waiting_within (layered : g.Layered s) (first : s.queue = id :: rest)
    (deep : g.Depth id d) : g.LieWithin d (d + 1) rest := by
  have rising := layered.rising
  rw [first, List.pairwise_append, List.pairwise_cons] at rising
  intro v member
  obtain ⟨n, -, bound, deepV⟩ := layered.near id rest first d deep v member
  exact ⟨n, rising.2.1.1 v member d n deep deepV, bound, deepV⟩

/-- What is freed lies in the next layer: its last link comes from the id released, and all
others from ids that had their turn before. -/
theorem freed_within (before : g.LieWithin 0 d (s.order ++ [id])) (deep : g.Depth id d)
    (behind : ∀ v ∈ freed, v ∈ Sweep.targets g.links id ∧
      Sweep.waiting g.links (s.order ++ [id]) v = 0) :
    g.LieWithin (d + 1) (d + 1) freed := by
  intro v member
  obtain ⟨target, done⟩ := behind v member
  obtain ⟨e, out, rfl⟩ := List.mem_map.mp target
  obtain ⟨linked, source⟩ := List.mem_filter.mp out
  have last : g.Link id e.target := link_iff.mpr ⟨e, linked, eq_of_beq source, rfl⟩
  refine ⟨d + 1, Nat.le_refl _, Nat.le_refl _, depth_succ last deep fun w link => ?_⟩
  obtain ⟨e', linked', rfl, target'⟩ := link_iff.mp link
  have released := Sweep.waiting_eq_zero_iff.mp done e' linked' target'
  obtain ⟨n, -, bound, deepW⟩ := before e'.source released
  exact ⟨n, bound, deepW⟩

/-- A release keeps the order of the layers. -/
theorem step (layered : g.Layered s) (inv : Sweep.Invariant g.distinctIds g.links s) :
    g.Layered (s.step g.links) := by
  cases first : s.queue with
  | nil => rwa [Sweep.step_of_nil first]
  | cons id rest =>
      obtain ⟨freed, order_eq, turns, -, mem_freed⟩ := inv.exists_freed first
      obtain ⟨d, deep⟩ := layered.deep id (by simp [first])
      have released := layered.released_within first deep
      have waiting := layered.waiting_within first deep
      have new := freed_within released deep fun v => (mem_freed v).mp
      have old : g.LieWithin 0 (d + 1) (s.order ++ s.queue) := by
        rw [first, List.append_cons]
        exact (released.mono (Nat.le_refl 0) (Nat.le_succ d)).append
          (waiting.mono (Nat.zero_le d) (Nat.le_refl _))
      have queue_eq : (s.step g.links).queue = rest ++ freed := by
        rw [order_eq, first] at turns
        simpa using turns
      constructor
      · rw [turns]
        intro v member
        rcases List.mem_append.mp member with had | member
        · exact layered.deep v had
        · obtain ⟨n, -, -, deepV⟩ := new v member
          exact ⟨n, deepV⟩
      · rw [turns]
        exact List.pairwise_append.mpr ⟨layered.rising, new.pairwise, old.noDeeper new⟩
      · -- whichever comes first now, it lies in the layer `d` or below
        have next := waiting.append (new.mono (Nat.le_succ d) (Nat.le_refl _))
        intro v others queue n deepV other member
        rw [queue_eq] at queue
        rw [queue] at next
        obtain ⟨k, lower, -, deepV'⟩ := next v List.mem_cons_self
        obtain ⟨l, -, upper, deepOther⟩ := next other (List.mem_cons_of_mem _ member)
        have same := deepV.unique deepV'
        exact ⟨l, Nat.zero_le l, by omega, deepOther⟩

/-- Any number of releases keeps the order of the layers. -/
theorem steps (layered : g.Layered s) (inv : Sweep.Invariant g.distinctIds g.links s) (n : Nat) :
    g.Layered (Sweep.steps g.links n s) := by
  induction n generalizing s with
  | zero => exact layered
  | succ n ih => exact ih (layered.step inv) (inv.step g.links_closed)

end Layered

/-- The whole sweep is layered, since its start is and every step keeps it so. -/
theorem sweep_layered (g : Graph) : g.Layered g.sweep :=
  (Layered.start g).steps (Sweep.invariant_start g.nodup_distinctIds g.links) _

/-! ## The order -/

/-- The ids that wait from the start are those with no link into them. -/
theorem picks_start_queue (g : Graph) :
    Picks g.ids (fun id => ∀ u, ¬ g.Link u id) (Sweep.start g.distinctIds g.links).queue :=
  picks_filter_eraseDups (fun _ => beq_iff_eq.trans linksInto_eq_zero_iff) g.ids

/-- What it is for an order of ids to go layer by layer. -/
structure IsLayered (g : Graph) (order : List String) : Prop where
  /-- The order holds the ids that have a longest chain. -/
  deep : ∀ id, id ∈ order ↔ id ∈ g.ids ∧ ∃ n, g.Depth id n
  /-- Along the order the longest chain never gets shorter. -/
  rising : order.Pairwise fun u v => ∀ m n, g.Depth u m → g.Depth v n → m ≤ n
  /-- The ids with no link into them come first, as they first occur among the nodes. -/
  roots : ∃ roots, roots <+: order ∧ Picks g.ids (fun id => ∀ u, ¬ g.Link u id) roots

/-- The order of any graph goes layer by layer. -/
theorem order_layered (g : Graph) : g.IsLayered g.order := by
  have layered := g.sweep_layered
  have turns : g.sweep.order ++ g.sweep.queue = g.order := by
    rw [sweep_queue, List.append_nil, sweep_order]
  refine ⟨fun id => ⟨fun member => ?_, fun ⟨inside, n, deep⟩ => ?_⟩, turns ▸ layered.rising, ?_⟩
  · exact ⟨mem_ids_of_mem_order member, layered.deep id (turns.symm ▸ member)⟩
  · by_contra missing
    have longer := deep.2 (chainTo_of_missing inside missing (n + 1))
    omega
  · refine ⟨_, ?_, g.picks_start_queue⟩
    have start := Sweep.invariant_start g.nodup_distinctIds g.links
    have first := start.steps_turns g.links_closed g.distinctIds.length
    exact turns ▸ first

end Dataflow.Graph
