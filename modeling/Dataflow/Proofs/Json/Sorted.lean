import Dataflow.Proofs.Json.Reader
import Dataflow.Proofs.Table

/-!
# Fields in order of name

Objects are written in the order in which they hold their fields and read in order of name, of
fields with one name the last. `Json.sorted` is what is left of a value in that. A sorted value
is its own (`Json.IsSorted`); everything that was read is sorted (`parse?_isSorted`), and where
the names of an object differ, it holds the same under each of them after sorting
(`get?_sorted`).
-/

namespace Dataflow

namespace Json

mutual

/-- The value with the fields of its objects in order of name; of fields with one name it has
the last. -/
def sorted : Json → Json
  | .array items => .array (sortedItems items)
  | .object fields => .object (Table.ofList (sortedFields fields)).entries
  | .null => .null
  | .bool value => .bool value
  | .number value => .number value
  | .string value => .string value

/-- The items of a list, each sorted. -/
def sortedItems : List Json → List Json
  | [] => []
  | item :: rest => item.sorted :: sortedItems rest

/-- The fields of a list, the value of each sorted. -/
def sortedFields : List (String × Json) → List (String × Json)
  | [] => []
  | (name, value) :: rest => (name, value.sorted) :: sortedFields rest

end

theorem sorted_array (items : List Json) : (array items).sorted = array (items.map sorted) := by
  have each : ∀ items, sortedItems items = items.map sorted := by
    intro items
    induction items with
    | nil => rfl
    | cons item rest ih => rw [sortedItems, ih, List.map_cons]
  rw [sorted, each]

theorem sorted_object (fields : List (String × Json)) :
    (object fields).sorted =
      object (Table.ofList (fields.map fun f => (f.1, f.2.sorted))).entries := by
  have each : ∀ fields, sortedFields fields = fields.map fun f => (f.1, f.2.sorted) := by
    intro fields
    induction fields with
    | nil => rfl
    | cons field rest ih => rw [sortedFields, ih, List.map_cons]
  rw [sorted, each]

/-- Where the names of an object differ, sorting keeps what is under each. -/
theorem get?_sorted {fields : List (String × Json)} (distinct : (fields.map (·.1)).Nodup)
    (name : String) :
    (object fields).sorted.get? name = ((object fields).get? name).map sorted := by
  have distinct' : ((fields.map fun f => (f.1, f.2.sorted)).map (·.1)).Nodup := by
    rw [List.map_map]
    exact distinct
  rw [sorted_object]
  show (Table.ofList _).get? name = (fields.lookup name).map sorted
  rw [Table.get?_ofList, Table.lookup_reverse distinct']
  exact Table.lookup_map (fun _ value => value.sorted) fields name

/-- The fields of all objects in the value stand in order of name, each name once. -/
def IsSorted (v : Json) : Prop := v.sorted = v

/-- A value without parts is sorted. -/
theorem isSorted_of_isScalar {v : Json} (scalar : v.isScalar = true) : v.IsSorted := by
  cases v with
  | array | object => cases scalar
  | _ => rfl

theorem isSorted_string (text : String) : (string text).IsSorted := rfl

theorem isSorted_array {items : List Json} (each : ∀ v ∈ items, v.IsSorted) :
    (array items).IsSorted := by
  have same : items.map sorted = items.map id := List.map_congr_left each
  rw [IsSorted, sorted_array, same, List.map_id]

theorem sorted_ofTable (t : Table Json) :
    (ofTable t).sorted = ofTable (t.map fun _ value => value.sorted) := by
  rw [ofTable, sorted_object]
  exact congrArg (object ·.entries) (Table.ofList_entries (t.map fun _ value => value.sorted))

theorem isSorted_ofTable {t : Table Json} (each : ∀ e ∈ t.entries, e.2.IsSorted) :
    (ofTable t).IsSorted := by
  have same : t.entries.map (fun e => (e.1, e.2.sorted)) = t.entries.map id :=
    List.map_congr_left fun e member => congrArg (e.1, ·) (each e member)
  rw [IsSorted, sorted_ofTable]
  show object (t.entries.map fun e => (e.1, e.2.sorted)) = object t.entries
  rw [same, List.map_id]

theorem IsSorted.of_array {items : List Json} (sorted : (array items).IsSorted) :
    ∀ v ∈ items, v.IsSorted := by
  rw [IsSorted, sorted_array, array.injEq] at sorted
  exact List.map_inj_left.mp (sorted.trans (List.map_id items).symm)

theorem IsSorted.of_object {fields : List (String × Json)} (sorted : (object fields).IsSorted) :
    ∀ f ∈ fields, f.2.IsSorted := by
  rw [IsSorted, sorted_object, object.injEq] at sorted
  -- the fields are in order already, so that sorting is no more than sorting each value
  have ascending : (fields.map fun f => (f.1, f.2.sorted)).Pairwise (·.1 < ·.1) := by
    rw [List.pairwise_map]
    exact sorted ▸ (Table.ofList _).ascending
  rw [Table.entries_ofList ascending] at sorted
  intro f member
  have same := List.map_inj_left.mp (sorted.trans (List.map_id fields).symm) f member
  exact congrArg Prod.snd same

/-- The fields of a sorted object are sorted. -/
theorem IsSorted.get? {v value : Json} {name : String} (sorted : v.IsSorted)
    (found : v.get? name = some value) : value.IsSorted := by
  cases v with
  | object fields => exact sorted.of_object _ (Table.mem_of_lookup found)
  | _ => cases found

/-- The table of an object holds what the object holds. -/
theorem IsSorted.table? {v : Json} {t : Table Json} (sorted : v.IsSorted)
    (found : v.table? = some t) : ∀ e ∈ t.entries, e.2.IsSorted := by
  cases v with
  | object fields =>
      cases found
      exact fun e member => sorted.of_object e (Table.mem_of_mem_ofList member)
  | _ => cases found

/-! ## What was read -/

namespace Reader

variable {α : Type} {close : Char} {each? : List Char → Option (α × List Char)}
  {s rest : List Char} {entries : List α} {p : α → Prop}

theorem Entries.forall (each : ∀ {s a rest}, each? s = some (a, rest) → p a)
    (list : Entries close each? s entries rest) : ∀ a ∈ entries, p a := by
  induction list with
  | closed => exact nofun
  | next _ entry _ ih => exact List.forall_mem_cons.mpr ⟨each entry, ih⟩

theorem Enclosed.forall (each : ∀ {s a rest}, each? s = some (a, rest) → p a)
    (list : Enclosed close each? s entries rest) : ∀ a ∈ entries, p a := by
  cases list with
  | empty => exact nofun
  | entries _ entry onward _ => exact List.forall_mem_cons.mpr ⟨each entry, onward.forall each⟩

/-- As for what readers take, the induction is on how deep values may nest. -/
theorem value?_isSorted {depth : Nat} {v : Json} (read : value? depth s = some (v, rest)) :
    v.IsSorted := by
  induction depth using Nat.strongRecOn generalizing s v rest with
  | ind depth ih =>
      rcases bracket_or_brace s with ⟨tail, rfl⟩ | ⟨tail, rfl⟩ | ⟨noArray, noObject⟩
      · obtain ⟨d, items, rfl, list, rfl⟩ := value?_array_iff.mp read
        exact isSorted_array (list.forall fun entry => ih d (Nat.lt_succ_self d) entry)
      · obtain ⟨d, fields, rfl, list, rfl⟩ := value?_object_iff.mp read
        have each : ∀ f ∈ fields, f.2.IsSorted := by
          refine list.forall fun {_ f _} entry => ?_
          obtain ⟨_, _, -, -, value⟩ := field?_eq_some_iff.mp entry
          exact ih d (Nat.lt_succ_self d) value
        exact isSorted_ofTable fun e member => each e (Table.mem_of_mem_ofList member)
      · rw [value?_scalar noArray noObject] at read
        exact isSorted_of_isScalar (isScalar_of_scalar? read)

end Reader

/-- Whatever was read is sorted. -/
theorem parse?_isSorted {text : String} {v : Json} (read : parse? text = some v) : v.IsSorted := by
  obtain ⟨rest, value, -⟩ := ofChars?_eq_some_iff.mp read
  exact Reader.value?_isSorted value

end Json

end Dataflow
