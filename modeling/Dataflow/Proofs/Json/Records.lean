import Dataflow.Json.Value
import Dataflow.Proofs.Json.Sorted

/-!
# Reading written records

A record is written as an object of the parts that it has (`presentFields`). Once the object was
written and read again its fields stand in order, and a reader of records finds under each name
the part of that name (`record?_presentFields`). What is left out is what the reader puts in its
place: nothing, or a default.
-/

namespace Dataflow.Json

variable {α β : Type} {parts : List (String × Option Json)}

/-! ## Objects of parts -/

theorem lookup_fieldOf (name key : String) (write : α → Json) (value? : Option α) :
    (fieldOf name write value?).lookup key = if key = name then value?.map write else none := by
  cases value? with
  | none => exact (ite_self none).symm
  | some value => exact Table.lookup_cons_eq (name, write value) []

/-- An object gives its fields to a record of any names. -/
theorem record?_object (fields : List (String × Json)) (names : List String) :
    (object fields).record? names = some fun name => (object fields).get? name := rfl

/-- The fields of those parts that there are. -/
def presentFields (parts : List (String × Option Json)) : List (String × Json) :=
  parts.filterMap fun part => part.2.map (part.1, ·)

@[simp] theorem presentFields_nil : presentFields [] = [] := rfl

@[simp] theorem presentFields_cons_none (name : String) :
    presentFields ((name, none) :: parts) = presentFields parts := rfl

@[simp] theorem presentFields_cons_some (name : String) (v : Json) :
    presentFields ((name, some v) :: parts) = (name, v) :: presentFields parts := rfl

@[simp] theorem presentFields_cons_map (name : String) (write : α → Json) (value? : Option α) :
    presentFields ((name, value?.map write) :: parts) =
      fieldOf name write value? ++ presentFields parts := by
  cases value? <;> rfl

@[simp] theorem presentFields_cons_ite {p : Prop} [Decidable p] (name : String) (v : Json) :
    presentFields ((name, if p then none else some v) :: parts) =
      (if p then [] else [(name, v)]) ++ presentFields parts := by
  split <;> rfl

theorem names_presentFields (parts : List (String × Option Json)) :
    ((presentFields parts).map (·.1)).Sublist (parts.map (·.1)) := by
  induction parts with
  | nil => exact .slnil
  | cons part parts ih =>
      obtain ⟨name, v?⟩ := part
      cases v? with
      | none => exact ih.cons name
      | some v => exact ih.cons_cons name

/-- A field that is absent is not found, and one that is present has its value. -/
theorem lookup_presentFields (distinct : (parts.map (·.1)).Nodup) (name : String) :
    (presentFields parts).lookup name = (parts.lookup name).join := by
  induction parts with
  | nil => rfl
  | cons part parts ih =>
      obtain ⟨key, v?⟩ := part
      obtain ⟨fresh, others⟩ := List.nodup_cons.mp distinct
      rw [Table.lookup_cons_eq]
      cases v? with
      | none =>
          show (presentFields parts).lookup name = _
          rw [ih others]
          split
          · -- the name is that of the part that is not there, and no other part has it
            rename_i same
            rw [same, Table.lookup_eq_none_iff.mpr fresh]
            rfl
          · rfl
      | some v =>
          rw [presentFields_cons_some, Table.lookup_cons_eq, ih others]
          split <;> rfl

/-- The record of parts, each of them sorted. -/
def partsRecord (parts : List (String × Option Json)) : Record :=
  fun name => ((parts.lookup name).join).map sorted

/-- A record is read back from the fields that are present. -/
theorem record?_presentFields (distinct : (parts.map (·.1)).Nodup) (names : List String) :
    (object (presentFields parts)).sorted.record? names = some (partsRecord parts) := by
  have held := get?_sorted (List.Nodup.sublist (names_presentFields parts) distinct)
  rw [sorted_object] at held ⊢
  rw [record?_object]
  refine congrArg some (funext fun name => (held name).trans ?_)
  rw [partsRecord, ← lookup_presentFields distinct]
  rfl

/-- Where the parts are sorted, the object of them holds the same after sorting. -/
theorem exists_sorted_presentFields (distinct : (parts.map (·.1)).Nodup)
    (each : ∀ part ∈ parts, ∀ v ∈ part.2, v.IsSorted) :
    ∃ fields, (object (presentFields parts)).sorted = object fields ∧
      ∀ name, (object fields).get? name = (object (presentFields parts)).get? name := by
  refine ⟨_, sorted_object _, fun name => ?_⟩
  have held := get?_sorted (List.Nodup.sublist (names_presentFields parts) distinct) name
  rw [← sorted_object, held]
  cases found : (object (presentFields parts)).get? name with
  | none => rfl
  | some v =>
      -- what is held is one of the parts, and so it is sorted already
      obtain ⟨part, there, same⟩ := List.mem_filterMap.mp (Table.mem_of_lookup found)
      obtain ⟨w, held, same⟩ := Option.map_eq_some_iff.mp same
      cases same
      exact congrArg some (each part there v held)

/-- What a sorted value gives to a record is sorted. -/
theorem IsSorted.record? {v w : Json} {names : List String} {r : Record} {name : String}
    (sorted : v.IsSorted) (found : v.record? names = some r) (held : r name = some w) :
    w.IsSorted := by
  cases v with
  | object fields =>
      cases found
      exact sorted.of_object _ (Table.mem_of_lookup held)
  | array items =>
      simp only [Json.record?] at found
      split at found
      · cases found
        exact sorted.of_array w (List.of_mem_zip (Table.mem_of_lookup held)).2
      · cases found
  | _ => cases found

/-! ## Reading a part -/

variable {r : Record} {name : String} {read : Json → Option α} {write : α → Json}

/-- A part that is written where there is one is read back. -/
theorem optional_of_map {value? : Option α} (held : r name = (value?.map write).map sorted)
    (back : ∀ a, value? = some a → read (write a).sorted = some a)
    (solid : ∀ a, (write a).sorted ≠ .null) : r.optional name read = some value? := by
  unfold Record.optional
  rw [held]
  cases value? with
  | none => rfl
  | some a =>
      simp only [Option.map_some]
      split
      · contradiction
      · rename_i null
        exact absurd (Option.some.inj null) (solid a)
      · rename_i same
        cases same
        rw [back a rfl, Option.map_some]

theorem optional_text {text? : Option String} (held : r name = (text?.map string).map sorted) :
    r.optional name string? = some text? :=
  optional_of_map held (fun _ _ => rfl) nofun

/-- A part that is always written is read back. -/
theorem withDefault_of_some {value default : α} {v : Json} (held : r name = some v.sorted)
    (back : read v.sorted = some value) : r.withDefault name read default = some value := by
  simp only [Record.withDefault, held, back]

/-- A part that is left out where it is the default is read back. -/
theorem withDefault_of_ite {p : Prop} [Decidable p] {value default : α} {v : Json}
    (held : r name = (if p then none else some v).map sorted) (left : p → default = value)
    (back : ¬p → read v.sorted = some value) : r.withDefault name read default = some value := by
  by_cases out : p
  · rw [if_pos out] at held
    simp only [Record.withDefault, held, Option.map_none, left out]
  · rw [if_neg out] at held
    exact withDefault_of_some held (back out)

/-- What is read back one by one is read back as a list. -/
theorem mapM_map_some {l : List α} {read : β → Option α} {write : α → β}
    (back : ∀ a ∈ l, read (write a) = some a) : (l.map write).mapM read = some l := by
  induction l with
  | nil => rfl
  | cons a l ih =>
      rw [List.forall_mem_cons] at back
      simp [back.1, ih back.2]

theorem exists_of_mem_mapM {l : List α} {read : α → Option β} {found : List β}
    (all : l.mapM read = some found) : ∀ b ∈ found, ∃ a ∈ l, read a = some b := by
  induction l generalizing found with
  | nil =>
      cases all
      exact nofun
  | cons a l ih =>
      simp only [List.mapM_cons, Option.bind_eq_bind, Option.bind_eq_some_iff, Option.pure_def,
        Option.some.injEq] at all
      obtain ⟨b, first, rest, others, rfl⟩ := all
      refine List.forall_mem_cons.mpr ⟨⟨a, List.mem_cons_self, first⟩, fun b' member => ?_⟩
      obtain ⟨a', there, read'⟩ := ih others b' member
      exact ⟨a', List.mem_cons_of_mem a there, read'⟩

theorem list?_sorted {l : List α} (back : ∀ a ∈ l, read (write a).sorted = some a) :
    list? read (array (l.map write)).sorted = some l := by
  rw [sorted_array, List.map_map]
  exact mapM_map_some back

/-- A list of texts that is left out where it is empty is read back. -/
theorem withDefault_texts {texts : List String}
    (held : r name = (if texts.isEmpty then none else some (ofStrings texts)).map sorted) :
    r.withDefault name (list? string?) [] = some texts :=
  withDefault_of_ite held (fun empty => (List.isEmpty_iff.mp empty).symm)
    fun _ => list?_sorted fun _ _ => rfl

end Dataflow.Json
