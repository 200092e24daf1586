import Dataflow.Execution
import Dataflow.Proofs.Graph.Link
import Dataflow.Proofs.Lists
import Mathlib.Data.List.Forall2

/-!
# The inputs of a node

The edges into a node are put in order of their slots. Nothing is lost and nothing is
added: the ordered inputs are a permutation of the edges into the node. Those with a slot come
first, by index and then by their place among the edges (`Edge.BySlot`), and the others come
after them as they are (`exists_bySlot`). Where the slots number the edges from zero, an edge
stands at the place that its slot says (`getElem?_orderedInputs`).
-/

namespace Dataflow

namespace Edge

variable {edges : List Edge}

/-- The edges with a slot are those that the sort by slot is given. -/
theorem map_slotted (edges : List Edge) :
    (edges.filterMap fun e => e.slotIndex?.map (·, e)).map (·.2) =
      edges.filter (·.slotIndex?.isSome) := by
  induction edges with
  | nil => rfl
  | cons e rest ih =>
      cases slot : e.slotIndex? with
      | none => simp [slot, ih]
      | some n => simp [slot, ih]

/-- Of what that sort is given, the edges with one number. -/
theorem map_filter_slotted (edges : List Edge) (r : Nat) :
    ((edges.filterMap fun e => e.slotIndex?.map (·, e)).filter (·.1.toNat = r)).map (·.2) =
      edges.filter (·.slotIndex?.map UInt64.toNat = some r) := by
  induction edges with
  | nil => rfl
  | cons e rest ih =>
      cases slot : e.slotIndex? with
      | none => simp [slot, ih]
      | some n => by_cases same : n.toNat = r <;> simp [slot, ih, same]

theorem slotIndex?_of_slotted {p : UInt64 × Edge}
    (member : p ∈ edges.filterMap fun e => e.slotIndex?.map (·, e)) :
    p.2.slotIndex? = some p.1 := by
  obtain ⟨e, -, here⟩ := List.mem_filterMap.mp member
  obtain ⟨k, slot, rfl⟩ := Option.map_eq_some_iff.mp here
  exact slot

/-- The edges of a list that have an index, in order of it; those with one index come as they
do in the list. -/
structure BySlot (edges slotted : List Edge) : Prop where
  indexed : ∀ e ∈ slotted, e.slotIndex?.isSome = true
  ordered : slotted.Pairwise fun a b => ∀ j ∈ a.slotIndex?, ∀ k ∈ b.slotIndex?, j.toNat ≤ k.toNat
  ties : ∀ k, slotted.filter (·.slotIndex? = some k) = edges.filter (·.slotIndex? = some k)

/-- Every edge has an index, and the indices number the edges from zero, in any order. -/
def FillSlots (edges : List Edge) : Prop :=
  (edges.map fun e => e.slotIndex?.map UInt64.toNat).Perm ((List.range edges.length).map some)

instance : Decidable (FillSlots edges) := inferInstanceAs (Decidable (List.Perm _ _))

/-- Where the slots number the edges, no edge is without an index. -/
theorem FillSlots.exists_index (fill : FillSlots edges) {e : Edge} (member : e ∈ edges) :
    ∃ k, e.slotIndex? = some k := by
  obtain ⟨k, -, eq⟩ := List.mem_map.mp (fill.mem_iff.mp (List.mem_map_of_mem member))
  obtain ⟨index, here, -⟩ := Option.map_eq_some_iff.mp eq.symm
  exact ⟨index, here⟩

/-- In order of slot, the numbers come from zero on. -/
theorem FillSlots.map_eq (fill : FillSlots edges) {ordered : List Edge}
    (perm : ordered.Perm edges)
    (sorted : ordered.Pairwise fun a b =>
      ∀ j ∈ a.slotIndex?, ∀ k ∈ b.slotIndex?, j.toNat ≤ k.toNat) :
    ordered.map (fun e => e.slotIndex?.map UInt64.toNat) = (List.range edges.length).map some := by
  let le : Option Nat → Option Nat → Prop := fun a b => ∀ j ∈ a, ∀ k ∈ b, j ≤ k
  have numbers : (ordered.map fun e => e.slotIndex?.map UInt64.toNat).Perm
      ((List.range edges.length).map some) := (perm.map _).trans fill
  refine @List.Perm.eq_of_pairwise _ le _ _ ?_ ?_ ?_ numbers
  · intro a b left right below above
    obtain ⟨j, -, rfl⟩ := List.mem_map.mp (numbers.mem_iff.mp left)
    obtain ⟨k, -, rfl⟩ := List.mem_map.mp right
    exact congrArg some (Nat.le_antisymm (below j rfl k rfl) (above k rfl j rfl))
  · refine List.pairwise_map.mpr (sorted.imp ?_)
    intro a b below j first k second
    obtain ⟨i, indexA, rfl⟩ := Option.map_eq_some_iff.mp first
    obtain ⟨l, indexB, rfl⟩ := Option.map_eq_some_iff.mp second
    exact below i indexA l indexB
  · refine List.pairwise_map.mpr (List.pairwise_le_range.imp ?_)
    rintro a b below j ⟨⟩ k ⟨⟩
    exact below

end Edge

namespace Graph

variable {g : Graph} {id : String} {e : Edge}

/-- Ordering drops no edge into a node and repeats none. -/
theorem orderedInputs_perm (g : Graph) (id : String) :
    (g.orderedInputs id).Perm (g.incoming id) := by
  have slotted := (List.mergeSort_perm
    ((g.incoming id).filterMap fun e => e.slotIndex?.map (·, e))
    fun a b => a.1.toNat ≤ b.1.toNat).map (·.2)
  rw [Edge.map_slotted] at slotted
  have unslotted : (g.incoming id).filter (·.slotIndex?.isNone) =
      (g.incoming id).filter (!·.slotIndex?.isSome) := by simp
  rw [orderedInputs, unslotted]
  exact (slotted.append_right _).trans (List.filter_append_perm _ _)

theorem mem_orderedInputs : e ∈ g.orderedInputs id ↔ e ∈ g.edges ∧ e.target = id := by
  rw [(g.orderedInputs_perm id).mem_iff, incoming, List.mem_filter, beq_iff_eq]

/-- What the inputs of a node carry depends on its sources alone. -/
theorem filterMap_orderedInputs_congr {α : Type} {f k : String → Option α}
    (same : ∀ u, g.Arc u id → f u = k u) :
    (g.orderedInputs id).filterMap (fun e => f e.source) =
      (g.orderedInputs id).filterMap fun e => k e.source := by
  refine List.filterMap_congr fun e member => ?_
  obtain ⟨edge, target⟩ := mem_orderedInputs.mp member
  exact same e.source ⟨e, edge, rfl, target⟩

/-- The edges with an index come first, in order of it, and the others as they are. -/
theorem exists_bySlot (g : Graph) (id : String) :
    ∃ slotted, Edge.BySlot (g.incoming id) slotted ∧
      g.orderedInputs id = slotted ++ (g.incoming id).filter (·.slotIndex?.isNone) := by
  let slotted := (g.incoming id).filterMap fun e => e.slotIndex?.map (·, e)
  let le : UInt64 × Edge → UInt64 × Edge → Bool := fun a b => a.1.toNat ≤ b.1.toNat
  have trans : ∀ a b c, le a b = true → le b c = true → le a c = true := by
    simp only [le, decide_eq_true_eq]
    intro a b c
    exact Nat.le_trans
  have total : ∀ a b, (le a b || le b a) = true := by
    simp only [le, Bool.or_eq_true, decide_eq_true_eq]
    intro a b
    exact Nat.le_total ..
  have index : ∀ p ∈ slotted, p.2.slotIndex? = some p.1 := fun p => Edge.slotIndex?_of_slotted
  have index_sorted : ∀ p ∈ slotted.mergeSort le, p.2.slotIndex? = some p.1 :=
    fun p member => index p ((List.mergeSort_perm slotted le).mem_iff.mp member)
  refine ⟨(slotted.mergeSort le).map (·.2), ⟨?_, ?_, ?_⟩, rfl⟩
  · intro e member
    obtain ⟨p, among, rfl⟩ := List.mem_map.mp member
    rw [index_sorted p among, Option.isSome_some]
  · refine List.pairwise_map.mpr ?_
    refine (List.pairwise_mergeSort trans total slotted).imp_of_mem fun {a b} left right below => ?_
    rw [index_sorted a left, index_sorted b right]
    rintro j ⟨⟩ k ⟨⟩
    exact of_decide_eq_true below
  · intro k
    -- edges with one index may stand in any order, so the sort leaves them in theirs
    have kept : (slotted.mergeSort le).filter (·.2.slotIndex? = some k) =
        slotted.filter (·.2.slotIndex? = some k) := by
      refine filter_mergeSort trans total slotted fun a left b right first second => ?_
      rw [index a left, decide_eq_true_eq] at first
      rw [index b right, decide_eq_true_eq] at second
      rw [decide_eq_true_eq, Option.some.inj first, Option.some.inj second]
    have map_filter : ∀ pairs : List (UInt64 × Edge),
        (pairs.map (·.2)).filter (·.slotIndex? = some k) =
          (pairs.filter (·.2.slotIndex? = some k)).map (·.2) := fun _ => List.filter_map
    rw [map_filter, kept, ← map_filter, Edge.map_slotted, List.filter_filter]
    refine List.filter_congr fun e _ => ?_
    cases e.slotIndex? <;> simp

/-- Where no index reaches `n`, the edges stand index by index, and then those without one. The
sort does not reduce on a given graph; this does. -/
theorem orderedInputs_eq_flatMap {n : Nat}
    (below : ∀ e ∈ g.incoming id, e.slotIndex?.all (·.toNat < n) = true) :
    g.orderedInputs id =
      (List.range n).flatMap (fun r =>
        (g.incoming id).filter (·.slotIndex?.map UInt64.toNat = some r)) ++
      (g.incoming id).filter (·.slotIndex?.isNone) := by
  rw [orderedInputs, mergeSort_eq_flatMap (n := n), List.map_flatMap]
  · simp only [Edge.map_filter_slotted]
  · intro p member
    obtain ⟨e, among, here⟩ := List.mem_filterMap.mp member
    obtain ⟨k, slot, rfl⟩ := Option.map_eq_some_iff.mp here
    simpa [slot] using below e among

/-- Where the slots number the edges into a node, an edge stands where its slot says. -/
theorem getElem?_orderedInputs (fill : Edge.FillSlots (g.incoming id))
    (member : e ∈ g.incoming id) {k : UInt64} (slot : e.slotIndex? = some k) :
    (g.orderedInputs id)[k.toNat]? = some e := by
  have perm := g.orderedInputs_perm id
  -- there is no edge without a slot
  have sorted : (g.orderedInputs id).Pairwise fun a b =>
      ∀ j ∈ a.slotIndex?, ∀ k ∈ b.slotIndex?, j.toNat ≤ k.toNat := by
    obtain ⟨slotted, bySlot, eq⟩ := g.exists_bySlot id
    have none : (g.incoming id).filter (·.slotIndex?.isNone) = [] := by
      refine List.filter_eq_nil_iff.mpr fun e among lacking => ?_
      obtain ⟨k, index⟩ := fill.exists_index among
      rw [index] at lacking
      cases lacking
    rw [eq, none, List.append_nil]
    exact bySlot.ordered
  obtain ⟨place, here⟩ := List.getElem?_of_mem (perm.mem_iff.mpr member)
  have number : ((g.orderedInputs id).map fun e => e.slotIndex?.map UInt64.toNat)[place]? =
      some (some k.toNat) := by
    rw [List.getElem?_map, here, Option.map_some, slot, Option.map_some]
  rw [fill.map_eq perm sorted, List.getElem?_map] at number
  obtain ⟨i, ranged, same⟩ := Option.map_eq_some_iff.mp number
  obtain ⟨_, at_place⟩ := List.getElem?_eq_some_iff.mp ranged
  rw [List.getElem_range] at at_place
  rwa [← Option.some.inj same, ← at_place]

end Graph

end Dataflow
