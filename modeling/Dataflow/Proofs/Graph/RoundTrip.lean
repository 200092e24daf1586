import Dataflow.Graph.Json
import Dataflow.Proofs.Json.Records

/-!
# Reading what was written

Graphs are read leniently: a number serves as an id, what is no object counts as no
parameters, a bad entry becomes an empty one. What was read once is written plainly and
reads the same ever after, by either reader (`decode_encode`).

A graph that was built and not read may hold two things that reading takes for absent: an
empty label, and a slot that is `null`. `Graph.reread` is the graph without these, and
reading the JSON form of a graph gives just that (`ofDocument_toJson`). So the graphs that
come back are those that hold neither, and reading gives no other.
-/

namespace Dataflow

/-! ## Nodes -/

namespace Node

/-- The node after it was written and read again: an empty label is gone. -/
def reread (n : Node) : Node := { n with label? := n.label?.filter (· != "") }

theorem reread_eq_self_iff {n : Node} : n.reread = n ↔ n.label? ≠ some "" := by
  obtain ⟨id, type, params?, label?⟩ := n
  cases label? with
  | none => simp [reread]
  | some label => simp [reread, Option.filter]

/-- A label that is read is never empty. -/
theorem label?_ofRecord (r : Record) (params : Option Json) :
    (ofRecord r params).label? ≠ some "" := by
  intro empty
  obtain ⟨-, kept⟩ := Option.filter_eq_some_iff.mp empty
  exact absurd rfl (bne_iff_ne.mp kept)

/-- Reading never gives an empty label. -/
theorem label?_ofEntry (v : Json) : (ofEntry v).label? ≠ some "" := by
  have absent : ({} : Node).label? ≠ some "" := by simp
  unfold ofEntry
  split
  · cases read : ofJson? v with
    | none => exact absent
    | some n =>
        obtain ⟨r, -, read⟩ := Option.bind_eq_some_iff.mp read
        split at read
        · cases read
        · cases read
          exact label?_ofRecord r _
        · cases read
          exact label?_ofRecord r _
  · exact absent

/-- The fields of a written node. -/
theorem get?_toJson (n : Node) (name : String) : n.toJson.get? name =
    if name = "id" then some (.string n.id)
    else if name = "type" then some (.string n.type)
    else if name = "params" then n.params?.map Json.ofTable
    else if name = "label" then n.label?.map .string
    else none := by
  show List.lookup name _ = _
  rw [List.append_assoc, List.cons_append, List.cons_append, List.nil_append,
    Table.lookup_cons_eq, Table.lookup_cons_eq, List.lookup_append, Json.lookup_fieldOf,
    Json.lookup_fieldOf]
  by_cases params : name = "params"
  · subst params
    simp
  · simp [params]

/-- Reading the fields that a node is written with gives the node as reread. -/
theorem ofRecord_toJson (n : Node) :
    ofRecord (n.toJson.get? ·) (n.params?.map Json.ofTable) = n.reread := by
  have params : (n.params?.map Json.ofTable).bind Json.table? = n.params? := by
    cases n.params? with
    | none => rfl
    | some params => exact congrArg some params.ofList_entries
  have label : (n.label?.map Json.string).bind Json.scalarText? = n.label? := by
    cases n.label? <;> rfl
  simp [ofRecord, Record.scalarText, get?_toJson, Json.scalarText?, params, label, reread]

theorem ofEntry_toJson (n : Node) : ofEntry n.toJson = n.reread := by
  have params : n.toJson.get? "params" = n.params?.map Json.ofTable := n.get?_toJson _
  have other : n.toJson.get? "parameters" = none := n.get?_toJson _
  have read : ofJson? n.toJson = some n.reread := by
    rw [← ofRecord_toJson, ← params, ofJson?, toJson, Json.record?_object, ← toJson,
      Option.bind_eq_bind, Option.bind_some, other]
    cases held : n.toJson.get? "params" with
    | none => simp only [held]
    | some written => simp only [held]
  show (ofJson? n.toJson).getD {} = n.reread
  rw [read, Option.getD_some]

end Node

/-! ## Edges -/

namespace Edge

/-- The edge after it was written and read again: a slot that is `null` is gone. -/
def reread (e : Edge) : Edge := { e with slot? := e.slot?.filter (!·.isNull) }

theorem reread_eq_self_iff {e : Edge} : e.reread = e ↔ e.slot? ≠ some .null := by
  obtain ⟨source, target, slot?⟩ := e
  cases slot? with
  | none => simp [reread]
  | some slot => cases slot <;> simp [reread, Option.filter, Json.isNull]

/-- Reading never gives a slot that is `null`. -/
theorem slot?_ofEntry (v : Json) : (ofEntry v).slot? ≠ some .null := by
  have absent : ({} : Edge).slot? ≠ some .null := by simp
  unfold ofEntry
  split
  · cases read : ofJson? v with
    | none => exact absent
    | some e =>
        obtain ⟨r, -, rfl⟩ := Option.map_eq_some_iff.mp read
        intro empty
        obtain ⟨-, kept⟩ := Option.filter_eq_some_iff.mp empty
        cases kept
  · exact absent

/-- The fields of a written edge. -/
theorem get?_toJson (e : Edge) (name : String) : e.toJson.get? name =
    if name = "from" then some (.string e.source)
    else if name = "to" then some (.string e.target)
    else if name = "slot" then e.slot?
    else none := by
  show List.lookup name _ = _
  rw [List.cons_append, List.cons_append, List.nil_append, Table.lookup_cons_eq,
    Table.lookup_cons_eq, Json.lookup_fieldOf, Option.map_id]
  rfl

theorem ofEntry_toJson (e : Edge) : ofEntry e.toJson = e.reread := by
  show (some (ofRecord (e.toJson.get? ·))).getD {} = e.reread
  simp [ofRecord, Record.scalarText, get?_toJson, Json.scalarText?, reread]

end Edge

/-! ## Graphs -/

namespace Graph

variable {g : Graph} {v : Json}

/-- The graph after it was written and read again. -/
def reread (g : Graph) : Graph := ⟨g.nodes.map Node.reread, g.edges.map Edge.reread⟩

theorem reread_eq_self_iff : g.reread = g ↔
    (∀ n ∈ g.nodes, n.label? ≠ some "") ∧ ∀ e ∈ g.edges, e.slot? ≠ some .null := by
  have same : g.reread = g ↔
      g.nodes.map Node.reread = g.nodes.map id ∧ g.edges.map Edge.reread = g.edges.map id := by
    rw [List.map_id, List.map_id]
    exact Graph.mk.injEq _ _ _ _ ▸ Iff.rfl
  rw [same, List.map_inj_left, List.map_inj_left]
  exact and_congr (forall₂_congr fun n _ => Node.reread_eq_self_iff)
    (forall₂_congr fun e _ => Edge.reread_eq_self_iff)

/-- A document is a graph exactly when it has lists of nodes and edges. -/
theorem ofDocument_eq_ok_iff : ofDocument v = .ok g ↔ ∃ nodes edges,
    v.get? "nodes" = some (.array nodes) ∧ v.get? "edges" = some (.array edges) ∧
      g = ofEntries nodes edges := by
  unfold ofDocument
  constructor
  · intro read
    split at read
    · rename_i nodes edges hnodes hedges
      cases read
      exact ⟨nodes, edges, hnodes, hedges, rfl⟩
    · cases read
    · cases read
  · rintro ⟨nodes, edges, hnodes, hedges, rfl⟩
    rw [hnodes, hedges]

/-- What is read of a document has no empty label and no slot that is `null`. -/
theorem reread_of_ofDocument (read : ofDocument v = .ok g) : g.reread = g := by
  obtain ⟨nodes, edges, -, -, rfl⟩ := ofDocument_eq_ok_iff.mp read
  rw [reread_eq_self_iff]
  constructor
  · intro n member
    obtain ⟨entry, -, rfl⟩ := List.mem_map.mp member
    exact Node.label?_ofEntry entry
  · intro e member
    obtain ⟨entry, -, rfl⟩ := List.mem_map.mp member
    exact Edge.slot?_ofEntry entry

/-- Where a document is a graph, the reader of records finds the same one. -/
theorem ofRecord?_of_ofDocument (read : ofDocument v = .ok g) : ofRecord? v = some g := by
  obtain ⟨nodes, edges, hnodes, hedges, rfl⟩ := ofDocument_eq_ok_iff.mp read
  cases v with
  | object fields =>
      rw [ofRecord?, Json.record?_object]
      simp only [Option.bind_eq_bind, Option.bind_some, Record.withDefault, hnodes, hedges,
        Json.items?]
      rfl
  | _ => cases hnodes

/-- Every graph that is written can be read, and gives itself up to what reading drops. -/
theorem ofDocument_toJson (g : Graph) : ofDocument g.toJson = .ok g.reread := by
  refine ofDocument_eq_ok_iff.mpr ⟨g.nodes.map Node.toJson, g.edges.map Edge.toJson, rfl, rfl, ?_⟩
  have nodes : Node.ofEntry ∘ Node.toJson = Node.reread := funext Node.ofEntry_toJson
  have edges : Edge.ofEntry ∘ Edge.toJson = Edge.reread := funext Edge.ofEntry_toJson
  rw [ofEntries, List.map_map, List.map_map, nodes, edges, reread]

/-- Reading gives what writing keeps: whatever graph a document is read as comes back from
its JSON form, and both readers agree on the document and on the form. Of all graphs those
come back that have neither an empty label nor a slot that is `null`. -/
theorem decode_encode :
    (∀ v g, ofDocument v = .ok g →
      ofDocument g.toJson = .ok g ∧ ofRecord? v = some g ∧ ofRecord? g.toJson = some g) ∧
    ∀ g : Graph,
      (ofDocument g.toJson = .ok g ↔
        (∀ n ∈ g.nodes, n.label? ≠ some "") ∧ ∀ e ∈ g.edges, e.slot? ≠ some .null) ∧
      (ofRecord? g.toJson = some g ↔
        (∀ n ∈ g.nodes, n.label? ≠ some "") ∧ ∀ e ∈ g.edges, e.slot? ≠ some .null) := by
  have form := fun g : Graph => ofRecord?_of_ofDocument g.ofDocument_toJson
  constructor
  · intro v g read
    have same := reread_of_ofDocument read
    refine ⟨?_, ofRecord?_of_ofDocument read, ?_⟩
    · rw [ofDocument_toJson, same]
    · rw [form, same]
  · intro g
    rw [ofDocument_toJson, form, Except.ok.injEq, Option.some.injEq, reread_eq_self_iff]
    exact ⟨Iff.rfl, Iff.rfl⟩

/-! ## A loosely written document -/

namespace Loose

/-- Ids that are no strings, parameters under their other name, an empty label, a slot that is
`null` and entries that are no objects. -/
def document : Json := .object [
  ("edges", .array [
    .null,
    .object [("from", .number (.natural 1)), ("slot", .null), ("to", .bool true)]]),
  ("nodes", .array [
    .object [("id", .number (.natural 1)), ("label", .string ""),
      ("parameters", .object [("alpha", .bool true), ("size", .null)])],
    .string "sale",
    .object [("id", .bool true), ("label", .number (.natural 5)), ("params", .array [])]])]

def graph : Graph where
  nodes := [
    { id := "1", params? := some (.ofList [("alpha", .bool true), ("size", .null)]) },
    {},
    { id := "true", label? := some "5" }]
  edges := [{}, { source := "1", target := "true" }]

theorem decode_encode_loose :
    ofDocument document = .ok graph ∧ ofDocument graph.toJson = .ok graph ∧
      ofRecord? document = some graph ∧ ofRecord? graph.toJson = some graph := by
  have read : ofDocument document = .ok graph := rfl
  exact ⟨read, decode_encode.1 document graph read⟩

end Loose

end Graph

end Dataflow
