import Mathlib.Data.List.Nodup
import Mathlib.Data.List.Perm.Basic
import Mathlib.Data.List.Perm.Subperm

/-!
# Lists without repetition, and sorted lists

Keeping of every element its first occurrence gives a list without repetition. It is as long as
the given one only if nothing was repeated, and then it is the given one. A filter of it picks the
elements that have a property (`Picks`), in the order of their first occurrences.

A stable sort keeps the order of elements that may stand in any (`filter_mergeSort`). A stable
sort by a rank so lines the elements up rank by rank, and those of one rank as they came
(`mergeSort_eq_flatMap`).
-/

namespace Dataflow

/-! ## Keeping first occurrences -/

section

variable {α : Type} [BEq α] [LawfulBEq α]

theorem nodup_eraseDups (items : List α) : items.eraseDups.Nodup := by
  induction bound : items.length using Nat.strongRecOn generalizing items with
  | ind n ih =>
      cases items with
      | nil => exact List.nodup_nil
      | cons a rest =>
          have shorter := List.length_filter_le (fun b => !b == a) rest
          rw [List.length_cons] at bound
          rw [List.eraseDups_cons, List.nodup_cons, List.mem_eraseDups]
          exact ⟨by simp, ih _ (by omega) _ rfl⟩

theorem eraseDups_eq_self {items : List α} (nodup : items.Nodup) : items.eraseDups = items := by
  induction items with
  | nil => rfl
  | cons a rest ih =>
      obtain ⟨fresh, nodup⟩ := List.nodup_cons.mp nodup
      have others : rest.filter (fun b => !b == a) = rest := by
        refine List.filter_eq_self.mpr fun b member => ?_
        have apart : b ≠ a := fun same => fresh (same ▸ member)
        simpa using apart
      rw [List.eraseDups_cons, others, ih nodup]

/-- First occurrences may be picked before or after a filter. -/
theorem filter_eraseDups (p : α → Bool) (items : List α) :
    items.eraseDups.filter p = (items.filter p).eraseDups := by
  induction bound : items.length using Nat.strongRecOn generalizing items with
  | ind n ih =>
      cases items with
      | nil => rfl
      | cons a rest =>
          have shorter := List.length_filter_le (fun b => !b == a) rest
          rw [List.length_cons] at bound
          rw [List.eraseDups_cons, List.filter_cons, List.filter_cons,
            ih _ (by omega) (rest.filter fun b => !b == a) rfl, List.filter_filter]
          cases kept : p a with
          | true =>
              rw [if_pos rfl, if_pos rfl, List.eraseDups_cons, List.filter_filter]
              simp only [Bool.and_comm]
          | false =>
              -- what is dropped is not the same as anything that is kept
              have others : ∀ b ∈ rest, (p b && !b == a) = p b := by
                intro b _
                by_cases same : b = a
                · rw [same, kept, Bool.false_and]
                · simp [same]
              rw [if_neg Bool.false_ne_true, if_neg Bool.false_ne_true,
                List.filter_congr others]

/-! ### Order of first occurrence -/

/-- A filter does not change which of two elements that it keeps occurs first. -/
theorem idxOf_filter_lt_iff {p : α → Bool} {a b : α} (keepsA : p a = true) (keepsB : p b = true)
    (items : List α) :
    (items.filter p).idxOf a < (items.filter p).idxOf b ↔ items.idxOf a < items.idxOf b := by
  induction items with
  | nil => rfl
  | cons c rest ih =>
      cases kept : p c with
      | false =>
          have otherA : (c == a) = false :=
            beq_false_of_ne fun same => by simp [same, keepsA] at kept
          have otherB : (c == b) = false :=
            beq_false_of_ne fun same => by simp [same, keepsB] at kept
          rw [List.filter_cons_of_neg (by simp [kept]), List.idxOf_cons, List.idxOf_cons, otherA,
            otherB, ih]
          exact Nat.succ_lt_succ_iff.symm
      | true =>
          rw [List.filter_cons_of_pos kept, List.idxOf_cons, List.idxOf_cons, List.idxOf_cons,
            List.idxOf_cons]
          cases c == a <;> cases c == b <;> simp [ih]

/-- What is left without repetitions stands by first occurrence. -/
theorem eraseDups_ordered (items : List α) :
    items.eraseDups.Pairwise fun a b => items.idxOf a < items.idxOf b := by
  induction bound : items.length using Nat.strongRecOn generalizing items with
  | ind n ih =>
      cases items with
      | nil => exact .nil
      | cons a rest =>
          have shorter := List.length_filter_le (fun b => !b == a) rest
          rw [List.length_cons] at bound
          have later : ∀ b ∈ (rest.filter fun b => !b == a).eraseDups, (!b == a) = true :=
            fun b member => (List.mem_filter.mp (List.mem_eraseDups.mp member)).2
          have idxOf : ∀ b, (!b == a) = true → (a :: rest).idxOf b = rest.idxOf b + 1 := by
            intro b apart
            refine List.idxOf_cons_ne rest fun same => ?_
            simp [same] at apart
          rw [List.eraseDups_cons, List.pairwise_cons]
          constructor
          · intro b member
            rw [List.idxOf_cons_self, idxOf b (later b member)]
            exact Nat.succ_pos _
          · refine (ih _ (by omega) (rest.filter fun b => !b == a) rfl).imp_of_mem ?_
            intro b c memberB memberC before
            rw [idxOf b (later b memberB), idxOf c (later c memberC), Nat.succ_lt_succ_iff]
            exact (idxOf_filter_lt_iff (p := fun b => !b == a) (later b memberB)
              (later c memberC) rest).mp before

/-- A list holds the elements of another that have a property: each once, and in the order in
which they first occur there. -/
structure Picks (items : List α) (p : α → Prop) (picked : List α) : Prop where
  nodup : picked.Nodup
  mem_iff : ∀ a, a ∈ picked ↔ a ∈ items ∧ p a
  ordered : picked.Pairwise fun a b => items.idxOf a < items.idxOf b

omit [LawfulBEq α] in
/-- Nothing is picked exactly when nothing is to be picked. -/
theorem Picks.eq_nil_iff {items picked : List α} {p : α → Prop} (picks : Picks items p picked) :
    picked = [] ↔ ∀ a ∈ items, ¬ p a := by
  rw [List.eq_nil_iff_forall_not_mem]
  exact forall_congr' fun a => by rw [picks.mem_iff, not_and]

theorem picks_filter_eraseDups {p : α → Bool} {q : α → Prop} (same : ∀ a, p a = true ↔ q a)
    (items : List α) : Picks items q (items.eraseDups.filter p) where
  nodup := (nodup_eraseDups items).filter p
  mem_iff := fun a => by rw [List.mem_filter, List.mem_eraseDups, same]
  ordered := (eraseDups_ordered items).filter p

/-! ### Length -/

theorem eraseDups_subperm (items : List α) : items.eraseDups.Subperm items :=
  (nodup_eraseDups items).subperm fun _ => List.mem_eraseDups.mp

theorem length_eraseDups_le (items : List α) : items.eraseDups.length ≤ items.length :=
  (eraseDups_subperm items).length_le

/-- Only a list without repetitions is as long without them. -/
theorem length_eraseDups_eq_iff (items : List α) :
    items.eraseDups.length = items.length ↔ items.Nodup := by
  constructor
  · intro same
    have perm := (eraseDups_subperm items).perm_of_length_le (by omega)
    exact perm.nodup_iff.mp (nodup_eraseDups items)
  · intro nodup
    have back := (nodup.subperm fun _ => List.mem_eraseDups.mpr).length_le
    have := length_eraseDups_le items
    omega

end

/-! ## Sorting stably -/

variable {α : Type}

/-- A stable sort keeps the order of elements that may stand in any. -/
theorem filter_mergeSort {le : α → α → Bool}
    (trans : ∀ a b c, le a b = true → le b c = true → le a c = true)
    (total : ∀ a b, (le a b || le b a) = true) {p : α → Bool} (l : List α)
    (tied : ∀ a ∈ l, ∀ b ∈ l, p a = true → p b = true → le a b = true) :
    (l.mergeSort le).filter p = l.filter p := by
  have pairs : (l.filter p).Pairwise fun a b => le a b = true := by
    refine List.pairwise_of_forall_mem_list fun a left b right => ?_
    obtain ⟨memA, keptA⟩ := List.mem_filter.mp left
    obtain ⟨memB, keptB⟩ := List.mem_filter.mp right
    exact tied a memA b memB keptA keptB
  have among := (List.sublist_mergeSort trans total pairs List.filter_sublist).filter p
  simp only [List.filter_filter, Bool.and_self] at among
  exact (among.eq_of_length ((List.mergeSort_perm l le).filter p).length_eq.symm).symm

/-! ### Sorting by rank -/

variable {rank : α → Nat} {l : List α}

/-- In order of rank, elements of one rank stand behind all of a lower one. -/
theorem filter_lt_succ (sorted : l.Pairwise fun a b => rank a ≤ rank b) (n : Nat) :
    l.filter (rank · < n + 1) = l.filter (rank · < n) ++ l.filter (rank · = n) := by
  induction l with
  | nil => rfl
  | cons a rest ih =>
      obtain ⟨first, onward⟩ := List.pairwise_cons.mp sorted
      by_cases lower : rank a < n
      · have within : rank a < n + 1 := by omega
        have other : ¬ rank a = n := by omega
        simp only [List.filter_cons, within, lower, other, decide_true, decide_false,
          Bool.false_eq_true, if_true, if_false, ih onward, List.cons_append]
      · -- nothing has a lower rank
        have least : ∀ b ∈ a :: rest, n ≤ rank b := by
          intro b member
          rcases List.mem_cons.mp member with rfl | later
          · omega
          · have := first b later
            omega
        have none : (a :: rest).filter (rank · < n) = [] := by
          refine List.filter_eq_nil_iff.mpr fun b member => ?_
          rw [decide_eq_true_eq]
          exact Nat.not_lt.mpr (least b member)
        rw [none, List.nil_append]
        refine List.filter_congr fun b member => decide_eq_decide.mpr ?_
        have := least b member
        omega

/-- A list in order of rank is lined up rank by rank. -/
theorem eq_flatMap_filter (sorted : l.Pairwise fun a b => rank a ≤ rank b) {n : Nat}
    (below : ∀ a ∈ l, rank a < n) : l = (List.range n).flatMap fun r => l.filter (rank · = r) := by
  have upTo : ∀ m, l.filter (rank · < m) =
      (List.range m).flatMap fun r => l.filter (rank · = r) := by
    intro m
    induction m with
    | zero => simp
    | succ m ih =>
        rw [filter_lt_succ sorted, ih, List.range_succ, List.flatMap_append,
          List.flatMap_singleton]
  rw [← upTo n]
  exact (List.filter_eq_self.mpr fun a member => decide_eq_true (below a member)).symm

/-- A stable sort by rank lines the elements up rank by rank, those of one rank as they came. -/
theorem mergeSort_eq_flatMap {n : Nat} (below : ∀ a ∈ l, rank a < n) :
    l.mergeSort (fun a b => rank a ≤ rank b) =
      (List.range n).flatMap fun r => l.filter (rank · = r) := by
  have trans : ∀ a b c, decide (rank a ≤ rank b) = true → decide (rank b ≤ rank c) = true →
      decide (rank a ≤ rank c) = true := by
    intro a b c
    simp only [decide_eq_true_eq]
    omega
  have total : ∀ a b, (decide (rank a ≤ rank b) || decide (rank b ≤ rank a)) = true := by
    intro a b
    simp only [Bool.or_eq_true, decide_eq_true_eq]
    omega
  have sorted := List.pairwise_mergeSort trans total l
  simp only [decide_eq_true_eq] at sorted
  rw [eq_flatMap_filter sorted fun a member => below a (List.mem_mergeSort.mp member)]
  refine congrArg (List.range n).flatMap (funext fun r => ?_)
  refine filter_mergeSort trans total l fun a _ b _ left right => ?_
  simp only [decide_eq_true_eq] at left right ⊢
  omega

end Dataflow
