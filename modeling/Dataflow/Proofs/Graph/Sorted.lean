import Dataflow.Proofs.Graph.RoundTrip
import Dataflow.Proofs.Graph.TidyForm
import Dataflow.Proofs.Manifest.RoundTrip

/-!
# Graphs with sorted values

Writing and reading keeps a graph up to the order of the fields in its parameters and slots. A
graph that was loaded has these in order (`isSorted_of_ofDocument`), tidying keeps them in order
(`IsSorted.tidied`), and so such a graph is the same again after it was written to a text and
read (`ofDocument_sorted`).
-/

namespace Dataflow

open Json

/-! ## Nodes -/

namespace Node

/-- The values of the parameters are sorted. -/
def IsSorted (n : Node) : Prop := ∀ e ∈ n.params.entries, e.2.IsSorted

/-- The parts of a written node. -/
def parts (n : Node) : List (String × Option Json) := [
  ("id", some (.string n.id)),
  ("type", some (.string n.type)),
  ("params", n.params?.map ofTable),
  ("label", n.label?.map .string)]

theorem toJson_eq_object (n : Node) : n.toJson = object (presentFields n.parts) := by
  simp [toJson, parts]

/-- What is read of an object is what it holds under each name. -/
theorem ofEntry_congr {fields fields' : List (String × Json)}
    (same : ∀ name, (object fields).get? name = (object fields').get? name) :
    ofEntry (object fields) = ofEntry (object fields') := by
  show (ofJson? (object fields)).getD {} = (ofJson? (object fields')).getD {}
  unfold ofJson?
  rw [record?_object, record?_object, funext same, same]

theorem ofEntry_sorted {n : Node} (sorted : n.IsSorted) : ofEntry n.toJson.sorted = n.reread := by
  have distinct : (n.parts.map (·.1)).Nodup := by simp [parts]
  have params : ∀ params, n.params? = some params → (ofTable params).IsSorted := by
    intro params here
    rw [IsSorted, Node.params, here] at sorted
    exact isSorted_ofTable sorted
  have each : ∀ part ∈ n.parts, ∀ v ∈ part.2, v.IsSorted := by
    simpa [parts, isSorted_string] using params
  obtain ⟨fields, same, held⟩ := exists_sorted_presentFields distinct each
  rw [toJson_eq_object, same, ofEntry_congr held, ← toJson_eq_object, ofEntry_toJson]

/-- The parameters of an entry are the table of one of its values. -/
theorem params?_ofEntry {v : Json} {params : Params} (held : (ofEntry v).params? = some params) :
    ∃ w name, v.get? name = some w ∧ w.table? = some params := by
  cases v with
  | object fields =>
      have read : (((ofJson? (object fields)).getD {}).params?) = some params := held
      unfold ofJson? at read
      rw [record?_object, Option.bind_eq_bind, Option.bind_some] at read
      dsimp only at read
      split at read
      · cases read
      · rename_i w found _
        exact ⟨w, "params", found, read⟩
      · cases other : (object fields).get? "parameters" with
        | none =>
            rw [other] at read
            cases read
        | some w =>
            rw [other] at read
            exact ⟨w, "parameters", other, read⟩
  | _ => cases held

/-- A node that is read from a sorted value is sorted. -/
theorem isSorted_ofEntry {v : Json} (sorted : v.IsSorted) : (ofEntry v).IsSorted := by
  unfold IsSorted Node.params
  cases held : (ofEntry v).params? with
  | none => exact fun e member => absurd member List.not_mem_nil
  | some params =>
      obtain ⟨w, name, found, table⟩ := params?_ofEntry held
      exact (sorted.get? found).table? table

theorem IsSorted.tidy {n : Node} {m : Manifest} (sorted : n.IsSorted) (types : m.IsSorted) :
    (n.tidy m).IsSorted := by
  cases typed : m.typeOf? n with
  | none => rwa [tidy_of_none typed]
  | some type =>
      have known := (Manifest.typeOf?_eq_some_iff.mp typed).2
      have defaults : type.IsSorted := types _ (Table.mem_of_lookup known)
      rw [IsSorted, params_tidy typed, Table.forall_mem_entries_iff]
      intro name value found
      rw [get?_mergedParams] at found
      obtain ⟨default, there, rfl⟩ := Option.map_eq_some_iff.mp found
      cases given : n.params.get? name with
      | none => exact defaults _ (Table.mem_of_lookup there)
      | some value => exact sorted _ (Table.mem_of_lookup given)

end Node

/-! ## Edges -/

namespace Edge

/-- The slot is sorted, if there is one. -/
def IsSorted (e : Edge) : Prop := ∀ v ∈ e.slot?, v.IsSorted

/-- The parts of a written edge. -/
def parts (e : Edge) : List (String × Option Json) := [
  ("from", some (.string e.source)),
  ("to", some (.string e.target)),
  ("slot", e.slot?)]

theorem toJson_eq_object (e : Edge) : e.toJson = object (presentFields e.parts) := by
  cases slot : e.slot? <;> simp [toJson, parts, slot, fieldOf]

theorem ofEntry_congr {fields fields' : List (String × Json)}
    (same : ∀ name, (object fields).get? name = (object fields').get? name) :
    ofEntry (object fields) = ofEntry (object fields') := by
  show (some (ofRecord fun name => (object fields).get? name)).getD {} =
    (some (ofRecord fun name => (object fields').get? name)).getD {}
  rw [funext same]

theorem ofEntry_sorted {e : Edge} (sorted : e.IsSorted) : ofEntry e.toJson.sorted = e.reread := by
  have distinct : (e.parts.map (·.1)).Nodup := by simp [parts]
  have each : ∀ part ∈ e.parts, ∀ v ∈ part.2, v.IsSorted := by
    have slot : ∀ v, e.slot? = some v → v.IsSorted := sorted
    simpa [parts, isSorted_string] using slot
  obtain ⟨fields, same, held⟩ := exists_sorted_presentFields distinct each
  rw [toJson_eq_object, same, ofEntry_congr held, ← toJson_eq_object, ofEntry_toJson]

theorem isSorted_ofEntry {v : Json} (sorted : v.IsSorted) : (ofEntry v).IsSorted := by
  intro slot held
  cases v with
  | object fields =>
      have found : ((object fields).get? "slot").filter (!·.isNull) = some slot := held
      exact sorted.get? (Option.filter_eq_some_iff.mp found).1
  | _ => cases held

end Edge

/-! ## Graphs -/

namespace Graph

/-- The values of parameters and slots are sorted. -/
structure IsSorted (g : Graph) : Prop where
  nodes : ∀ n ∈ g.nodes, n.IsSorted
  edges : ∀ e ∈ g.edges, e.IsSorted

/-- What is read of a sorted document has sorted values. -/
theorem isSorted_of_ofDocument {v : Json} {g : Graph} (sorted : v.IsSorted)
    (read : ofDocument v = .ok g) : g.IsSorted := by
  obtain ⟨nodes, edges, hnodes, hedges, rfl⟩ := ofDocument_eq_ok_iff.mp read
  constructor
  · intro n member
    obtain ⟨entry, there, rfl⟩ := List.mem_map.mp member
    exact Node.isSorted_ofEntry ((sorted.get? hnodes).of_array entry there)
  · intro e member
    obtain ⟨entry, there, rfl⟩ := List.mem_map.mp member
    exact Edge.isSorted_ofEntry ((sorted.get? hedges).of_array entry there)

/-- Tidying keeps a graph sorted. -/
theorem IsSorted.tidied {g : Graph} {m : Manifest} (sorted : g.IsSorted) (types : m.IsSorted) :
    (g.tidied m).IsSorted where
  nodes := by
    intro n member
    obtain ⟨n, there, rfl⟩ := List.mem_map.mp member
    exact (sorted.nodes n there).tidy types
  edges := fun e member => sorted.edges e (List.mem_filter.mp member).1

/-- Tidying puts in neither an empty label nor a slot that is `null`. -/
theorem reread_tidied {g : Graph} (same : g.reread = g) (m : Manifest) :
    (g.tidied m).reread = g.tidied m := by
  obtain ⟨labels, slots⟩ := reread_eq_self_iff.mp same
  rw [reread_eq_self_iff]
  constructor
  · intro n member
    obtain ⟨n, there, rfl⟩ := List.mem_map.mp member
    rw [n.tidy_label]
    exact labels n there
  · exact fun e member => slots e (List.mem_filter.mp member).1

/-- A graph comes back from its sorted form as from its form. -/
theorem ofDocument_sorted {g : Graph} (sorted : g.IsSorted) :
    ofDocument g.toJson.sorted = .ok g.reread := by
  have distinct : ([("nodes", Json.array (g.nodes.map Node.toJson)),
      ("edges", .array (g.edges.map Edge.toJson))].map (·.1)).Nodup := by simp
  have nodes := get?_sorted distinct "nodes"
  have edges := get?_sorted distinct "edges"
  refine ofDocument_eq_ok_iff.mpr ⟨_, _, nodes.trans (congrArg some (sorted_array _)),
    edges.trans (congrArg some (sorted_array _)), ?_⟩
  have node : ∀ n ∈ g.nodes, Node.ofEntry n.toJson.sorted = n.reread :=
    fun n member => Node.ofEntry_sorted (sorted.nodes n member)
  have edge : ∀ e ∈ g.edges, Edge.ofEntry e.toJson.sorted = e.reread :=
    fun e member => Edge.ofEntry_sorted (sorted.edges e member)
  simp only [ofEntries, reread, List.map_map, Function.comp_def]
  rw [List.map_congr_left node, List.map_congr_left edge]

end Graph

end Dataflow
