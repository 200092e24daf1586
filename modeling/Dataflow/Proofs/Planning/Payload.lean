import Dataflow.Proofs.Graph.RoundTrip
import Dataflow.Proofs.Planning.Spans
import Mathlib.Data.List.Forall2

/-!
# What an answer comes to

An answer is unusable for one of five reasons or else holds a graph, and which of these it is
depends on the first object in it alone, and there on what stands under `nodes` and `edges`
(`Payload.parse_classifies`). Nothing else in the object can spoil it.

Entries of the two lists are read one by one and keep their places: `Node.ReadFrom` and
`Edge.ReadFrom` say of an entry what it reads as, each field from its own key.
-/

namespace Dataflow

/-! ## Entries -/

namespace Json

/-- What a value reads as where a text is wanted. Lists, objects and `null` are no text. -/
inductive ReadsAs : Json → String → Prop where
  | string (text : String) : ReadsAs (.string text) text
  | natural (n : UInt64) : ReadsAs (.number (.natural n)) n.toNat.repr
  /-- Negative numbers are kept by their distance from -1. -/
  | negative (distance : Fin (1 <<< 63)) :
      ReadsAs (.number (.negative distance)) ("-" ++ (distance.val + 1).repr)
  | double (d : Double) : ReadsAs (.number (.double d)) d.text
  | bool (b : Bool) : ReadsAs (.bool b) (if b then "true" else "false")

/-- The text under a name is what the value there reads as, and empty where none does. -/
def HasText (entry : Json) (name text : String) : Prop :=
  (∃ v, entry.get? name = some v ∧ v.ReadsAs text) ∨
  ((∀ v, entry.get? name = some v → ∀ read, ¬ v.ReadsAs read) ∧ text = "")

theorem scalarText?_eq_some_iff {v : Json} {text : String} :
    v.scalarText? = some text ↔ v.ReadsAs text := by
  constructor
  · intro read
    cases v with
    | string s =>
        cases read
        exact .string _
    | number n =>
        cases read
        cases n with
        | natural n => exact .natural n
        | negative distance => exact .negative distance
        | double d => exact .double d
    | bool b =>
        cases b with
        | true =>
            cases read
            exact .bool true
        | false =>
            cases read
            exact .bool false
    | _ => cases read
  · intro reads
    cases reads with
    | bool b => cases b <;> rfl
    | _ => rfl

theorem hasText_scalarText (entry : Json) (name : String) :
    entry.HasText name (Record.scalarText (entry.get? ·) name) := by
  unfold Record.scalarText
  cases read : (entry.get? name).bind Json.scalarText? with
  | some text =>
      obtain ⟨v, held, text⟩ := Option.bind_eq_some_iff.mp read
      exact .inl ⟨v, held, scalarText?_eq_some_iff.mp text⟩
  | none =>
      refine .inr ⟨fun v held text reads => ?_, rfl⟩
      rw [held, Option.bind_some, scalarText?_eq_some_iff.mpr reads] at read
      cases read

end Json

/-- What the entry of a list of nodes reads as. -/
inductive Node.ReadFrom (entry : Json) : Node → Prop where
  /-- What is no object reads as an empty node. -/
  | other (noObject : entry.isObject = false) : ReadFrom entry {}
  /-- So does an object that has parameters under both names. -/
  | twice {a b : Json} (params : entry.get? "params" = some a)
      (parameters : entry.get? "parameters" = some b) : ReadFrom entry {}
  /-- Of any other, each field is read by itself. -/
  | fields {n : Node} (object : entry.isObject = true)
      (once : entry.get? "params" = none ∨ entry.get? "parameters" = none)
      (id : entry.HasText "id" n.id)
      (type : entry.HasText "type" n.type)
      (params : n.params? =
        ((entry.get? "params").or (entry.get? "parameters")).bind Json.table?)
      (label : ∀ text, n.label? = some text ↔
        text ≠ "" ∧ ∃ v, entry.get? "label" = some v ∧ v.ReadsAs text) :
      ReadFrom entry n

/-- What the entry of a list of edges reads as. -/
inductive Edge.ReadFrom (entry : Json) : Edge → Prop where
  /-- What is no object reads as an empty edge. -/
  | other (noObject : entry.isObject = false) : ReadFrom entry {}
  /-- Of an object, each field is read by itself. -/
  | fields {e : Edge} (object : entry.isObject = true)
      (source : entry.HasText "from" e.source)
      (target : entry.HasText "to" e.target)
      (slot : e.slot? = (entry.get? "slot").filter (!·.isNull)) : ReadFrom entry e

theorem Node.label_ofRecord (entry : Json) (params : Option Json) (text : String) :
    (Node.ofRecord (entry.get? ·) params).label? = some text ↔
      text ≠ "" ∧ ∃ v, entry.get? "label" = some v ∧ v.ReadsAs text := by
  simp only [Node.ofRecord, Option.filter_eq_some_iff, Option.bind_eq_some_iff,
    Json.scalarText?_eq_some_iff, bne_iff_ne]
  exact and_comm

theorem Node.readFrom_ofEntry (entry : Json) : Node.ReadFrom entry (Node.ofEntry entry) := by
  cases entry with
  | object fields =>
      have id := Json.hasText_scalarText (.object fields) "id"
      have type := Json.hasText_scalarText (.object fields) "type"
      have label := Node.label_ofRecord (.object fields)
      show Node.ReadFrom _ ((Node.ofJson? (.object fields)).getD {})
      rw [Node.ofJson?, Json.record?_object, Option.bind_eq_bind, Option.bind_some]
      dsimp only
      cases params : (Json.object fields).get? "params" with
      | none =>
          refine .fields rfl (.inl params) id type ?_ (label _)
          rw [params]
          rfl
      | some a =>
          cases parameters : (Json.object fields).get? "parameters" with
          | none =>
              refine .fields rfl (.inr parameters) id type ?_ (label _)
              rw [params]
              rfl
          | some b => exact .twice params parameters
  | _ => exact .other rfl

theorem Edge.readFrom_ofEntry (entry : Json) : Edge.ReadFrom entry (Edge.ofEntry entry) := by
  cases entry with
  | object fields =>
      exact .fields rfl (Json.hasText_scalarText _ "from") (Json.hasText_scalarText _ "to") rfl
  | _ => exact .other rfl

namespace Graph

/-- All entries are read, each in its place. -/
theorem readFrom_ofEntries (nodes edges : List Json) :
    List.Forall₂ Node.ReadFrom nodes (ofEntries nodes edges).nodes ∧
      List.Forall₂ Edge.ReadFrom edges (ofEntries nodes edges).edges := by
  refine ⟨List.forall₂_map_right_iff.mpr ?_, List.forall₂_map_right_iff.mpr ?_⟩
  · exact List.forall₂_same.mpr fun entry _ => Node.readFrom_ofEntry entry
  · exact List.forall₂_same.mpr fun entry _ => Edge.readFrom_ofEntry entry

end Graph

/-! ## Lists that are there, and lists that are not -/

namespace Json

/-- A field is absent or `null`. -/
def Lacks (v : Json) (name : String) : Prop := v.get? name = none ∨ v.get? name = some .null

/-- A field is a list. -/
def HasList (v : Json) (name : String) : Prop := ∃ items, v.get? name = some (.array items)

theorem HasList.not_lacks {v : Json} {name : String} (list : v.HasList name) :
    ¬ v.Lacks name := by
  obtain ⟨items, here⟩ := list
  rintro (absent | null)
  · cases here.symm.trans absent
  · cases here.symm.trans null

end Json

/-- A document is refused for what stands in the place of one of its lists; the list of nodes is
looked at first. -/
inductive Graph.Refused (v : Json) : SchemaError → Prop where
  | nodes (noList : ¬ v.HasList "nodes") : Refused v .nodesNotArray
  | edges (nodes : v.HasList "nodes") (noList : ¬ v.HasList "edges") : Refused v .edgesNotArray

theorem Graph.Refused.not_lists {v : Json} {cause : SchemaError} (refused : Refused v cause) :
    ¬ (v.HasList "nodes" ∧ v.HasList "edges") := by
  rintro ⟨nodes, edges⟩
  cases refused with
  | nodes noList => exact noList nodes
  | edges _ noList => exact noList edges

theorem Graph.Refused.unique {v : Json} {cause cause' : SchemaError} (refused : Refused v cause)
    (refused' : Refused v cause') : cause = cause' := by
  cases refused with
  | nodes noNodes =>
      cases refused' with
      | nodes => rfl
      | edges nodes => exact absurd nodes noNodes
  | edges nodes =>
      cases refused' with
      | nodes noNodes => exact absurd nodes noNodes
      | edges => rfl

/-- A document is refused for the first of its lists that is not there. -/
theorem Graph.refused_of_ofDocument {v : Json} {cause : SchemaError}
    (refusal : ofDocument v = .error cause) : Refused v cause := by
  unfold ofDocument at refusal
  split at refusal
  · cases refusal
  · rename_i items nodes noEdges
    cases refusal
    exact .edges ⟨items, nodes⟩ fun ⟨edges, here⟩ => noEdges edges here
  · rename_i noNodes _
    cases refusal
    exact .nodes fun ⟨nodes, here⟩ => noNodes nodes here

namespace Payload

variable {v : Json} {text : String}

theorem lacks_iff {name : String} : lacks v name = true ↔ v.Lacks name := by
  unfold lacks Json.Lacks
  cases v.get? name with
  | none => simp
  | some held => cases held <;> simp [Json.isNull]

/-- What an object comes to. -/
inductive Verdict (v : Json) : Except PayloadError Payload → Prop where
  | noNodes (lacks : v.Lacks "nodes") : Verdict v (.error .noNodes)
  | noEdges (nodes : ¬ v.Lacks "nodes") (lacks : v.Lacks "edges") : Verdict v (.error .noEdges)
  | malformed {cause : Graph.SchemaError} (nodes : ¬ v.Lacks "nodes") (edges : ¬ v.Lacks "edges")
      (refused : Graph.Refused v cause) : Verdict v (.error (.malformed cause))
  | usable {nodes edges : List Json} {p : Payload}
      (nodesList : v.get? "nodes" = some (.array nodes))
      (edgesList : v.get? "edges" = some (.array edges))
      (graph : p.graph = Graph.ofEntries nodes edges) : Verdict v (.ok p)

theorem verdict_ofObject (v : Json) : Verdict v (ofObject v) := by
  unfold ofObject
  by_cases noNodes : lacks v "nodes" = true
  · rw [if_pos noNodes]
    exact .noNodes (lacks_iff.mp noNodes)
  by_cases noEdges : lacks v "edges" = true
  · rw [if_neg noNodes, if_pos noEdges]
    exact .noEdges (mt lacks_iff.mpr noNodes) (lacks_iff.mp noEdges)
  rw [if_neg noNodes, if_neg noEdges]
  cases read : Graph.ofDocument v with
  | error cause =>
      exact .malformed (mt lacks_iff.mpr noNodes) (mt lacks_iff.mpr noEdges)
        (Graph.refused_of_ofDocument read)
  | ok g =>
      obtain ⟨nodes, edges, nodesList, edgesList, graph⟩ := Graph.ofDocument_eq_ok_iff.mp read
      exact .usable nodesList edgesList graph

/-! ## The text of an answer -/

/-- The first object in a text decides what the text parses to. -/
theorem parse_of_firstObject (first : FirstObject text.toList v) : parse text = ofObject v := by
  have found : object text = .ok v :=
    object_eq_ok_iff.mpr
      ⟨isBlankText_eq_false first.brace_mem, embeddedObject?_eq_some_iff.mpr first⟩
  rw [parse, found]
  rfl

theorem parse_of_blank (blank : isBlankText text = true) : parse text = .error .empty := by
  rw [parse, object, if_pos blank]
  rfl

theorem parse_of_none (solid : isBlankText text = false)
    (none : embeddedObject? text.toList = none) : parse text = .error .noObject := by
  rw [parse, object, if_neg (Bool.eq_false_iff.mp solid), none]
  rfl

/-- An answer is blank, or holds no object, or is judged by its first object. -/
theorem parse_cases (text : String) :
    (isBlankText text = true ∧ parse text = .error .empty) ∨
      (isBlankText text = false ∧ embeddedObject? text.toList = none ∧
        parse text = .error .noObject) ∨
      ∃ v, FirstObject text.toList v ∧ Verdict v (parse text) := by
  cases blank : isBlankText text with
  | true => exact .inl ⟨rfl, parse_of_blank blank⟩
  | false =>
      cases found : embeddedObject? text.toList with
      | none => exact .inr (.inl ⟨rfl, rfl, parse_of_none blank found⟩)
      | some v =>
          have first := embeddedObject?_eq_some_iff.mp found
          exact .inr (.inr ⟨v, first, parse_of_firstObject first ▸ verdict_ofObject v⟩)

theorem parse_eq_empty_iff : parse text = .error .empty ↔ ∀ c ∈ text.toList, isBlank c = true := by
  rw [← List.all_eq_true]
  constructor
  · intro empty
    rcases parse_cases text with ⟨blank, -⟩ | ⟨-, -, none⟩ | ⟨v, -, verdict⟩
    · exact blank
    · cases empty.symm.trans none
    · rw [empty] at verdict
      cases verdict
  · exact parse_of_blank

theorem parse_eq_noObject_iff : parse text = .error .noObject ↔
    (∃ c ∈ text.toList, isBlank c = false) ∧ Json.objectOfChars? text.toList = none ∧
      (∀ span, ClosedSpan text.toList span → Json.objectOfChars? span = none) ∧
      ∀ span, OuterSpan text.toList span → Json.objectOfChars? span = none := by
  have solid_iff : (∃ c ∈ text.toList, isBlank c = false) ↔ isBlankText text = false := by
    rw [isBlankText, List.all_eq_false]
    simp only [Bool.not_eq_true]
  rw [solid_iff, ← embeddedObject?_eq_none_iff]
  constructor
  · intro none
    rcases parse_cases text with ⟨-, empty⟩ | ⟨solid, notFound, -⟩ | ⟨v, -, verdict⟩
    · cases none.symm.trans empty
    · exact ⟨solid, notFound⟩
    · rw [none] at verdict
      cases verdict
  · rintro ⟨solid, notFound⟩
    exact parse_of_none solid notFound

/-- The verdict on an object, outcome by outcome. -/
theorem Verdict.iff {r : Except PayloadError Payload} (verdict : Verdict v r) :
    (r = .error .noNodes ↔ v.Lacks "nodes") ∧
    (r = .error .noEdges ↔ ¬ v.Lacks "nodes" ∧ v.Lacks "edges") ∧
    (∀ cause, r = .error (.malformed cause) ↔
      ¬ v.Lacks "nodes" ∧ ¬ v.Lacks "edges" ∧ Graph.Refused v cause) ∧
    ((∃ p, r = .ok p) ↔ v.HasList "nodes" ∧ v.HasList "edges") := by
  cases verdict with
  | noNodes lacks =>
      have noList : ¬ v.HasList "nodes" := fun list => list.not_lacks lacks
      simp [lacks, noList]
  | noEdges nodes lacks =>
      have noList : ¬ v.HasList "edges" := fun list => list.not_lacks lacks
      simp [nodes, lacks, noList]
  | malformed nodes edges refused =>
      have unique : ∀ cause, Graph.Refused v cause ↔ _ = cause :=
        fun cause => ⟨refused.unique, fun same => same ▸ refused⟩
      simp [nodes, edges, unique, refused.not_lists]
  | @usable entries entries' p nodesList edgesList graph =>
      have nodes : v.HasList "nodes" := ⟨entries, nodesList⟩
      have edges : v.HasList "edges" := ⟨entries', edgesList⟩
      have accepted : ∀ cause, ¬ Graph.Refused v cause :=
        fun cause refused => refused.not_lists ⟨nodes, edges⟩
      simp [nodes, edges, nodes.not_lacks, edges.not_lacks, accepted]

/-- What an answer comes to. It is unusable when it is blank, when none of the places searched is
an object, and else, by the first object in them, when its nodes or its edges are absent or not a
list; the nodes are looked at first, and absence before anything else. Otherwise it is usable,
whatever else the object holds, and the graph has a node for every entry of the one list and an
edge for every entry of the other, in their places, each read by itself. -/
theorem parse_classifies (text : String) :
    (parse text = .error .empty ↔ ∀ c ∈ text.toList, isBlank c = true) ∧
    (parse text = .error .noObject ↔
      (∃ c ∈ text.toList, isBlank c = false) ∧ Json.objectOfChars? text.toList = none ∧
        (∀ span, ClosedSpan text.toList span → Json.objectOfChars? span = none) ∧
        ∀ span, OuterSpan text.toList span → Json.objectOfChars? span = none) ∧
    ((∃ v, FirstObject text.toList v) ↔
      parse text ≠ .error .empty ∧ parse text ≠ .error .noObject) ∧
    ∀ v, FirstObject text.toList v →
      (parse text = .error .noNodes ↔ v.Lacks "nodes") ∧
      (parse text = .error .noEdges ↔ ¬ v.Lacks "nodes" ∧ v.Lacks "edges") ∧
      (∀ cause, parse text = .error (.malformed cause) ↔
        ¬ v.Lacks "nodes" ∧ ¬ v.Lacks "edges" ∧ Graph.Refused v cause) ∧
      ((∃ p, parse text = .ok p) ↔ v.HasList "nodes" ∧ v.HasList "edges") ∧
      ∀ p, parse text = .ok p → ∃ nodes edges,
        v.get? "nodes" = some (.array nodes) ∧ v.get? "edges" = some (.array edges) ∧
          List.Forall₂ Node.ReadFrom nodes p.graph.nodes ∧
          List.Forall₂ Edge.ReadFrom edges p.graph.edges := by
  refine ⟨parse_eq_empty_iff, parse_eq_noObject_iff, ?_, fun v first => ?_⟩
  · constructor
    · rintro ⟨v, first⟩
      have verdict := verdict_ofObject v
      rw [← parse_of_firstObject first] at verdict
      constructor
      · intro empty
        rw [empty] at verdict
        cases verdict
      · intro none
        rw [none] at verdict
        cases verdict
    · rintro ⟨notEmpty, notNone⟩
      rcases parse_cases text with ⟨-, empty⟩ | ⟨-, -, none⟩ | ⟨v, first, -⟩
      · exact absurd empty notEmpty
      · exact absurd none notNone
      · exact ⟨v, first⟩
  · have verdict := verdict_ofObject v
    rw [← parse_of_firstObject first] at verdict
    obtain ⟨noNodes, noEdges, malformed, usable⟩ := verdict.iff
    refine ⟨noNodes, noEdges, malformed, usable, fun p read => ?_⟩
    rw [read] at verdict
    cases verdict with
    | @usable nodes edges _ nodesList edgesList graph =>
        refine ⟨nodes, edges, nodesList, edgesList, ?_⟩
        rw [graph]
        exact Graph.readFrom_ofEntries nodes edges

/-! ## An object in a chatty answer -/

namespace Chatty

/-- A closing brace comes behind the object. An entry of it is no object, one has parameters
under both names, and an id is a number. -/
def answer : String :=
  "Sure:\n\x7b\"nodes\": [null, \x7b\"id\": 7, \"parameters\": \x7b\"size\": 1\x7d\x7d, " ++
  "\x7b\"id\": \"x\", \"params\": \x7b\x7d, \"parameters\": 0\x7d], " ++
  "\"edges\": [\x7b\"from\": 7, \"slot\": null\x7d], \"notes\": []\x7d :\x7d"

def nodes : List Json := [
  .null,
  .object [("id", .number (.natural 7)),
    ("parameters", .object [("size", .number (.natural 1))])],
  .object [("id", .string "x"), ("parameters", .number (.natural 0)), ("params", .object [])]]

def edges : List Json := [.object [("from", .number (.natural 7)), ("slot", .null)]]

def object : Json :=
  .object [("edges", .array edges), ("nodes", .array nodes), ("notes", .array [])]

set_option maxRecDepth 20000 in
theorem firstObject : FirstObject answer.toList object :=
  embeddedObject?_eq_some_iff.mp (by rfl)

theorem parse_classifies_chatty :
    parse " \n" = .error .empty ∧ FirstObject answer.toList object ∧
      ∃ p, parse answer = .ok p ∧ List.Forall₂ Node.ReadFrom nodes p.graph.nodes ∧
        List.Forall₂ Edge.ReadFrom edges p.graph.edges := by
  obtain ⟨-, -, -, judged⟩ := parse_classifies answer
  obtain ⟨-, -, -, usable, entries⟩ := judged object firstObject
  obtain ⟨p, read⟩ := usable.mpr ⟨⟨nodes, rfl⟩, ⟨edges, rfl⟩⟩
  obtain ⟨_, _, nodesList, edgesList, readNodes, readEdges⟩ := entries p read
  cases nodesList
  cases edgesList
  have blank : parse " \n" = .error .empty := (parse_classifies " \n").1.mpr (by simp [isBlank])
  exact ⟨blank, firstObject, p, read, readNodes, readEdges⟩

end Chatty

end Payload

end Dataflow
