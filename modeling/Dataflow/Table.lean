/-!
# Tables

Finite maps from names to values. A table keeps its entries in strictly
increasing order of name, so two tables with the same entries are equal and
every listing of a table is in name order.
-/

namespace Dataflow

universe u v

/-- A finite map from names to values, its entries in strictly increasing order
of name. -/
@[ext] structure Table (α : Type u) where
  entries : List (String × α)
  ascending : entries.Pairwise fun a b => a.1 < b.1

namespace Table

variable {α : Type u} {β : Type v}

def empty : Table α := ⟨[], .nil⟩

instance : Inhabited (Table α) := ⟨empty⟩

instance : EmptyCollection (Table α) := ⟨empty⟩

instance [DecidableEq α] : DecidableEq (Table α) := fun s t =>
  decidable_of_iff (s.entries = t.entries) ⟨Table.ext, congrArg entries⟩

/-- Puts an entry at its place in an ascending list; an entry of the same name
gives way. -/
def place (name : String) (value : α) : List (String × α) → List (String × α)
  | [] => [(name, value)]
  | held :: rest =>
    if name < held.1 then (name, value) :: held :: rest
    else if name = held.1 then (name, value) :: rest
    else held :: place name value rest

theorem mem_place {name : String} {value : α} {entries : List (String × α)} {e : String × α}
    (h : e ∈ place name value entries) : e = (name, value) ∨ e ∈ entries := by
  induction entries with
  | nil => exact Or.inl (List.mem_singleton.mp h)
  | cons held rest ih =>
    unfold place at h
    split at h
    · exact (List.mem_cons.mp h)
    · split at h
      · exact (List.mem_cons.mp h).imp_right (List.mem_cons_of_mem _)
      · rcases List.mem_cons.mp h with rfl | h
        · exact Or.inr List.mem_cons_self
        · exact (ih h).imp_right (List.mem_cons_of_mem _)

theorem place_ascending {name : String} {value : α} {entries : List (String × α)}
    (h : entries.Pairwise fun a b => a.1 < b.1) :
    (place name value entries).Pairwise fun a b => a.1 < b.1 := by
  induction entries with
  | nil => exact List.pairwise_singleton _ _
  | cons held rest ih =>
    obtain ⟨before, tail⟩ := List.pairwise_cons.mp h
    unfold place
    split
    · rename_i lt
      refine List.pairwise_cons.mpr ⟨fun e member => ?_, h⟩
      rcases List.mem_cons.mp member with rfl | member
      · exact lt
      · exact String.lt_trans lt (before e member)
    · rename_i notLt
      split
      · rename_i same
        subst same
        exact List.pairwise_cons.mpr ⟨before, tail⟩
      · rename_i different
        refine List.pairwise_cons.mpr ⟨fun e member => ?_, ih tail⟩
        rcases mem_place member with rfl | member
        · refine String.not_le.mp fun le => ?_
          exact different (String.le_antisymm le (String.not_lt.mp notLt))
        · exact before e member

/-- Adds an entry, in place of one of the same name. -/
def insert (t : Table α) (name : String) (value : α) : Table α :=
  ⟨place name value t.entries, place_ascending t.ascending⟩

/-- The table of a list of entries; of entries with one name the last counts. -/
def ofList (entries : List (String × α)) : Table α :=
  entries.foldl (fun t e => t.insert e.1 e.2) empty

def get? (t : Table α) (name : String) : Option α := t.entries.lookup name

def contains (t : Table α) (name : String) : Bool := (t.get? name).isSome

/-- The names, in increasing order. -/
def keys (t : Table α) : List String := t.entries.map (·.1)

def size (t : Table α) : Nat := t.entries.length

def isEmpty (t : Table α) : Bool := t.entries.isEmpty

/-- Changes every value, given its name; the names stay. -/
def map (f : String → α → β) (t : Table α) : Table β :=
  ⟨t.entries.map fun e => (e.1, f e.1 e.2), List.Pairwise.map _ (fun _ _ h => h) t.ascending⟩

/-- The names of a set of names, each once and in increasing order. -/
def sortedNames (names : List String) : List String :=
  (ofList (names.map fun name => (name, ()))).keys

@[simp] theorem keys_map (f : String → α → β) (t : Table α) : (t.map f).keys = t.keys := by
  simp [keys, map, Function.comp_def]

end Table

end Dataflow
