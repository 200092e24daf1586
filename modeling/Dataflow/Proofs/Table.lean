import Dataflow.Table
import Mathlib.Data.List.Basic
import Mathlib.Data.List.Induction

/-!
# Looking up in tables

What a table holds after an entry is added, and which names it has: the added entry is
found under its name and all others stay as they were (`get?_insert`), and the names
of a list are in the table built from it and nothing else is (`mem_keys_ofList`).

Names ascend, so tables with the same names list them alike (`keys_eq_iff`), and tables that
answer every look-up alike are equal (`eq_of_get?`). A table is that of its own entries
(`ofList_entries`).
-/

namespace Dataflow.Table

universe u

variable {α β : Type u} {name other : String} {value : α}

theorem lookup_cons_eq (held : String × α) (rest : List (String × α)) :
    (held :: rest).lookup name = if name = held.1 then some held.2 else rest.lookup name := by
  obtain ⟨key, value⟩ := held
  by_cases here : name = key
  · subst here
    simp
  · have differs : (name == key) = false := beq_false_of_ne here
    rw [if_neg here, List.lookup_cons, differs]

/-- A placed name has the new value, and every other name the value it had. -/
theorem lookup_place (name other : String) (value : α) (entries : List (String × α)) :
    (place name value entries).lookup other =
      if other = name then some value else entries.lookup other := by
  induction entries with
  | nil => rw [place, lookup_cons_eq]
  | cons held rest ih =>
      unfold place
      split
      · rw [lookup_cons_eq]
      · split
        · rename_i same
          rw [lookup_cons_eq, lookup_cons_eq, ← same]
          by_cases here : other = name <;> simp [here]
        · rename_i different
          rw [lookup_cons_eq, ih, lookup_cons_eq]
          by_cases here : other = held.1
          · have apart : other ≠ name := fun same => different (same.symm.trans here)
            rw [if_pos here, if_pos here, if_neg apart]
          · rw [if_neg here, if_neg here]

@[simp] theorem get?_empty (name : String) : (∅ : Table α).get? name = none := rfl

/-- What is inserted replaces the value of its name and of no other. -/
theorem get?_insert (t : Table α) (name other : String) (value : α) :
    (t.insert name value).get? other = if other = name then some value else t.get? other :=
  lookup_place name other value t.entries

@[simp] theorem get?_insert_self (t : Table α) (name : String) (value : α) :
    (t.insert name value).get? name = some value := by
  simp [get?_insert]

theorem get?_insert_of_ne (t : Table α) (value : α) (different : other ≠ name) :
    (t.insert name value).get? other = t.get? other := by
  simp [get?_insert, different]

theorem contains_iff {t : Table α} :
    t.contains name = true ↔ ∃ value, t.get? name = some value := by
  rw [contains, Option.isSome_iff_exists]

/-! ## Names -/

theorem mem_keys_place {entries : List (String × α)} :
    other ∈ (place name value entries).map (·.1) ↔
      other = name ∨ other ∈ entries.map (·.1) := by
  induction entries with
  | nil => simp [place]
  | cons held rest ih =>
      unfold place
      split
      · simp
      · split
        · rename_i same
          simp [← same]
        · simp only [List.map_cons, List.mem_cons, ih]
          exact or_left_comm

theorem mem_keys_insert {t : Table α} :
    other ∈ (t.insert name value).keys ↔ other = name ∨ other ∈ t.keys :=
  mem_keys_place

private theorem mem_keys_foldl_insert (entries : List (String × α)) (t : Table α) :
    name ∈ (entries.foldl (fun t e => t.insert e.1 e.2) t).keys ↔
      name ∈ entries.map (·.1) ∨ name ∈ t.keys := by
  induction entries generalizing t with
  | nil => simp
  | cons e rest ih =>
      rw [List.foldl_cons, ih, mem_keys_insert, List.map_cons, List.mem_cons]
      exact or_left_comm.trans or_assoc.symm

/-- Every name of a list of entries is a name of its table. -/
theorem mem_keys_ofList {entries : List (String × α)} :
    name ∈ (ofList entries).keys ↔ name ∈ entries.map (·.1) := by
  rw [ofList, mem_keys_foldl_insert]
  simp [empty, keys]

theorem mem_sortedNames {names : List String} : name ∈ sortedNames names ↔ name ∈ names := by
  simp [sortedNames, mem_keys_ofList]

theorem keys_ascending (t : Table α) : t.keys.Pairwise (· < ·) := by
  rw [keys, List.pairwise_map]
  exact t.ascending

theorem sortedNames_ascending (names : List String) : (sortedNames names).Pairwise (· < ·) :=
  keys_ascending _

theorem nodup_of_ascending {names : List String} (ascending : names.Pairwise (· < ·)) :
    names.Nodup :=
  List.Pairwise.imp (S := (· ≠ ·)) (fun lt same => String.lt_irrefl _ (same ▸ lt)) ascending

/-- Ascending lists with the same members are equal. -/
theorem eq_of_ascending {names names' : List String} (ascending : names.Pairwise (· < ·))
    (ascending' : names'.Pairwise (· < ·)) (same : ∀ name, name ∈ names ↔ name ∈ names') :
    names = names' := by
  have perm := (List.perm_ext_iff_of_nodup (nodup_of_ascending ascending)
    (nodup_of_ascending ascending')).mpr same
  refine perm.eq_of_pairwise (fun a b _ _ lt gt => ?_) ascending ascending'
  exact absurd (String.lt_trans lt gt) (String.lt_irrefl a)

theorem keys_eq_iff {s : Table α} {t : Table β} :
    s.keys = t.keys ↔ ∀ name, name ∈ s.keys ↔ name ∈ t.keys :=
  ⟨fun same name => by rw [same], eq_of_ascending s.keys_ascending t.keys_ascending⟩

/-! ## Entries by name -/

theorem lookup_isSome_iff {entries : List (String × α)} :
    (entries.lookup name).isSome = true ↔ name ∈ entries.map (·.1) := by
  induction entries with
  | nil => simp
  | cons held rest ih =>
      rw [lookup_cons_eq, List.map_cons, List.mem_cons]
      by_cases here : name = held.1 <;> simp [here, ih]

/-- A name has a value when it is among the names. -/
theorem contains_iff_mem {t : Table α} : t.contains name = true ↔ name ∈ t.keys :=
  lookup_isSome_iff

theorem lookup_eq_none_iff {entries : List (String × α)} :
    entries.lookup name = none ↔ name ∉ entries.map (·.1) := by
  rw [← lookup_isSome_iff, Bool.not_eq_true, Option.isSome_eq_false_iff,
    Option.isNone_iff_eq_none]

theorem get?_eq_none_iff {t : Table α} : t.get? name = none ↔ name ∉ t.keys :=
  lookup_eq_none_iff

/-- Changing the values of a list of entries changes the value that a lookup finds. -/
theorem lookup_map (f : String → α → β) (entries : List (String × α)) (name : String) :
    (entries.map fun e => (e.1, f e.1 e.2)).lookup name = (entries.lookup name).map (f name) := by
  induction entries with
  | nil => rfl
  | cons held rest ih =>
      rw [List.map_cons, lookup_cons_eq, lookup_cons_eq, ih]
      by_cases here : name = held.1 <;> simp [here]

theorem get?_map (f : String → α → β) (t : Table α) (name : String) :
    (t.map f).get? name = (t.get? name).map (f name) :=
  lookup_map f t.entries name

/-- Where names do not repeat, it is all the same from which end they are looked through. -/
theorem lookup_reverse {entries : List (String × α)} (distinct : (entries.map (·.1)).Nodup)
    (name : String) : entries.reverse.lookup name = entries.lookup name := by
  induction entries with
  | nil => rfl
  | cons held rest ih =>
      obtain ⟨fresh, distinct⟩ := List.nodup_cons.mp distinct
      rw [List.reverse_cons, List.lookup_append, ih distinct, lookup_cons_eq, lookup_cons_eq]
      by_cases here : name = held.1
      · subst here
        rw [lookup_eq_none_iff.mpr fresh]
        simp
      · simp [here]

/-- What an ascending list holds under the name of an entry is the entry. -/
theorem lookup_of_mem {entries : List (String × α)} (ascending : entries.Pairwise (·.1 < ·.1))
    {e : String × α} (member : e ∈ entries) : entries.lookup e.1 = some e.2 := by
  induction entries with
  | nil => cases member
  | cons held rest ih =>
      obtain ⟨before, tail⟩ := List.pairwise_cons.mp ascending
      rw [lookup_cons_eq]
      rcases List.mem_cons.mp member with rfl | later
      · rw [if_pos rfl]
      · have apart : e.1 ≠ held.1 := fun same => String.lt_irrefl _ (same ▸ before e later)
        rw [if_neg apart, ih tail later]

theorem mem_of_lookup {entries : List (String × α)} (found : entries.lookup name = some value) :
    (name, value) ∈ entries := by
  induction entries with
  | nil => cases found
  | cons held rest ih =>
      rw [lookup_cons_eq] at found
      split at found
      · rename_i here
        cases found
        exact here ▸ List.mem_cons_self
      · exact List.mem_cons_of_mem _ (ih found)

/-- What holds of all values in a table holds of whatever is found in it. -/
theorem forall_mem_entries_iff {t : Table α} {p : α → Prop} :
    (∀ e ∈ t.entries, p e.2) ↔ ∀ name value, t.get? name = some value → p value := by
  constructor
  · intro all name value found
    exact all (name, value) (mem_of_lookup found)
  · intro all e member
    exact all e.1 e.2 (lookup_of_mem t.ascending member)

/-- The entries are the values under the names, in order. -/
theorem filterMap_keys (t : Table α) :
    t.keys.filterMap (fun name => (t.get? name).map (name, ·)) = t.entries := by
  rw [keys, List.filterMap_map]
  have found : ∀ e ∈ t.entries, ((fun name => (t.get? name).map (name, ·)) ∘ (·.1)) e = some e := by
    intro e member
    show (t.entries.lookup e.1).map (e.1, ·) = some e
    rw [lookup_of_mem t.ascending member]
    rfl
  rw [List.filterMap_congr found, List.filterMap_some]

/-- A table is known from its values: the order of its entries leaves no choice. -/
theorem eq_of_get? {s t : Table α} (same : ∀ name, s.get? name = t.get? name) : s = t := by
  have names : s.keys = t.keys := by
    rw [keys_eq_iff]
    intro name
    rw [← contains_iff_mem, ← contains_iff_mem, contains, contains, same]
  apply Table.ext
  rw [← filterMap_keys s, ← filterMap_keys t, names, funext same]

/-! ## Tables of lists -/

/-- Of the entries with one name the last one counts. -/
theorem get?_ofList (entries : List (String × α)) (name : String) :
    (ofList entries).get? name = entries.reverse.lookup name := by
  induction entries using List.reverseRecOn with
  | nil => rfl
  | append_singleton entries e ih =>
      have last : ofList (entries ++ [e]) = (ofList entries).insert e.1 e.2 := by
        rw [ofList, List.foldl_append]
        rfl
      rw [last, get?_insert, ih, List.reverse_append, List.reverse_singleton,
        List.singleton_append, lookup_cons_eq]

/-- A table invents no entries: names that come twice only lose all but one of theirs. -/
theorem mem_of_mem_ofList {entries : List (String × α)} {e : String × α}
    (member : e ∈ (ofList entries).entries) : e ∈ entries := by
  have found := lookup_of_mem (ofList entries).ascending member
  rw [← get?, get?_ofList] at found
  exact List.mem_reverse.mp (mem_of_lookup found)

/-- A name greater than all others goes to the end. -/
theorem place_of_before {entries : List (String × α)} (before : ∀ e ∈ entries, e.1 < name) :
    place name value entries = entries ++ [(name, value)] := by
  induction entries with
  | nil => rfl
  | cons held rest ih =>
      obtain ⟨first, before⟩ := List.forall_mem_cons.mp before
      have different : name ≠ held.1 := fun same => String.lt_irrefl _ (same ▸ first)
      rw [place, if_neg (String.lt_asymm first), if_neg different, ih before, List.cons_append]

/-- Entries in ascending order are kept as they are. -/
theorem entries_ofList {entries : List (String × α)} (ascending : entries.Pairwise (·.1 < ·.1)) :
    (ofList entries).entries = entries := by
  induction entries using List.reverseRecOn with
  | nil => rfl
  | append_singleton entries e ih =>
      obtain ⟨ascending, -, before⟩ := List.pairwise_append.mp ascending
      rw [ofList, List.foldl_append]
      show place e.1 e.2 (ofList entries).entries = _
      rw [ih ascending, place_of_before fun d member => before d member e List.mem_cons_self]

/-- The entries of a table make the table again. -/
@[simp] theorem ofList_entries (t : Table α) : ofList t.entries = t :=
  Table.ext (entries_ofList t.ascending)

end Dataflow.Table
