import Dataflow.Proofs.Graph.Chain
import Dataflow.Proofs.Validation.Codes
import Dataflow.Proofs.Validation.Connected

/-!
# Reports on chains

What validation finds in a chain of nodes with different ids that are not empty. Nothing is
ever wrong with its ids, the ends and slots of its edges, or with cycles
(`found_structure_chain`), whatever the types. Where the first type begins a graph and each
type feeds the next, nothing is wrong with it at all (`validate_chain`).
-/

namespace Dataflow

open Relation

/-! ## Types that go one behind the other -/

namespace NodeType

/-- A graph may start with a node of the type: it is a source and complete without input. -/
def Begins (t : NodeType) : Prop :=
  t.isSource = true ∧ t.requiresInput = false ∧ (t.ports.mode ≠ .single → t.minInputs = 0)

/-- The output of one type is all the input that another needs. -/
def Feeds (s t : NodeType) : Prop :=
  Graph.KindFits s t ∧ s.outputs? ≠ some 0 ∧ (t.ports.mode ≠ .single → t.minInputs ≤ 1)

instance (t : NodeType) : Decidable t.Begins := inferInstanceAs (Decidable (_ ∧ _))

instance (s t : NodeType) : Decidable (Graph.KindFits s t) :=
  inferInstanceAs (Decidable (_ ∨ _ ∨ _))

instance (s t : NodeType) : Decidable (s.Feeds t) := inferInstanceAs (Decidable (_ ∧ _))

theorem Feeds.one_le_outputs {s t : NodeType} (feeds : s.Feeds t) {declared : UInt32}
    (held : s.outputs? = some declared) : 1 ≤ declared.toNat := by
  refine Nat.pos_of_ne_zero fun zero => feeds.2.1 ?_
  have none : declared = 0 := UInt32.toNat_inj.mp zero
  rw [held, none]

end NodeType

namespace Graph

variable {m : Manifest} {nodes rest : List Node} {first n : Node} {e : Edge} {i : Issue}

/-- A node has only parameters that its type knows. -/
def ParamsKnown (n : Node) (t : NodeType) : Prop :=
  ∀ name ∈ n.params.keys, t.defaults.contains name = true

/-- The codes of issues with ids, with ends and slots of edges, and with cycles. -/
def structureCodes : List IssueCode :=
  [.nodeIdMissing, .nodeIdDuplicate, .edgeShape, .edgeFromMissing, .edgeToMissing,
    .edgeSlotInvalid, .edgeSlotOutOfRange, .graphCycle]

/-! ## What no chain has -/

section

variable (distinct : (nodes.map (·.id)).Nodup) (named : ∀ n ∈ nodes, n.id ≠ "")

include distinct

/-- A chain has no cycle to report. -/
theorem cycleIssues_chain : (chain nodes).cycleIssues = [] :=
  Clean.eq_nil (clean_cycleIssues.mpr ⟨chain_acyclic distinct, distinct⟩) among_cycleIssues
    (by decide)

include named

theorem identityIssues_chain : (chain nodes).identityIssues = [] :=
  identityIssues_eq_nil_iff.mpr ⟨named, distinct⟩

/-- Nothing but what it carries may be wrong with an edge of a chain. -/
theorem edgeIssues_chain {index : Nat} (member : e ∈ (chain nodes).edges) :
    (chain nodes).edgeIssues m index e = (chain nodes).fitIssues m index e := by
  obtain ⟨pair, next, rfl⟩ := mem_edges_chain.mp member
  obtain ⟨before, behind⟩ := mem_of_zip_tail next
  have ends : (Edge.between pair.1.id pair.2.id).hasEnds = true := by
    simp [Edge.hasEnds, Edge.between, named _ before, named _ behind]
  have source : (chain nodes).hasNode pair.1.id = true :=
    hasNode_iff.mpr (List.mem_map_of_mem before)
  have target : (chain nodes).hasNode pair.2.id = true :=
    hasNode_iff.mpr (List.mem_map_of_mem behind)
  have apart : pair.1.id ≠ pair.2.id := by
    intro same
    have onward := idxOf_lt_of_next distinct next
    rw [same] at onward
    exact Nat.lt_irrefl _ onward
  rw [edgeIssues, if_pos ends]
  simp only [Edge.between, source, target, apart, if_true, if_false, List.nil_append]

/-- The edges of a chain have no slots, so only a kind may not fit. -/
theorem among_edgeIssues_chain : Among [.edgeTypeMismatch]
    ((chain nodes).edges.zipIdx.flatMap fun entry =>
      (chain nodes).edgeIssues m entry.2 entry.1) := by
  refine .flatMap fun entry inside => ?_
  have member := List.fst_mem_of_mem_zipIdx inside
  rw [edgeIssues_chain distinct named member]
  obtain ⟨pair, -, same⟩ := mem_edges_chain.mp member
  unfold fitIssues
  split
  · rw [← same]
    dsimp only [slotIssues, Edge.between]
    rw [List.append_nil]
    split <;> simp [Among, Issue.code]
  · simp [Among]

/-- A chain of distinct nodes has nothing wrong with its structure. -/
theorem found_structure_chain (m : Manifest) :
    ((chain nodes).validate m).found structureCodes = [] := by
  rw [found_validate (by decide)]
  simp only [issues, ofCodes_append]
  rw [identityIssues_chain distinct named, cycleIssues_chain distinct,
    (among_edgeIssues_chain distinct named).ofCodes_eq_nil (by decide),
    among_arityIssues.ofCodes_eq_nil (by decide), among_paramIssues.ofCodes_eq_nil (by decide),
    among_connectionIssues.ofCodes_eq_nil (by decide),
    among_isolationIssues.ofCodes_eq_nil (by decide)]
  rfl

end

/-! ## Chains of types that go one behind the other -/

/-- The types of nodes in a row go one behind the other, and each knows the parameters of its
node. -/
structure Row (m : Manifest) (first : Node) (rest : List Node) : Prop where
  begins : ∃ t, m.typeOf? first = some t ∧ t.Begins
  feeds : ∀ pair ∈ (first :: rest).zip rest,
    ∃ s t, m.typeOf? pair.1 = some s ∧ m.typeOf? pair.2 = some t ∧ s.Feeds t
  known : ∀ n ∈ first :: rest, ∀ t, m.typeOf? n = some t → ParamsKnown n t

theorem arityIssues_eq_nil {g : Graph} {t : NodeType} (typed : m.typeOf? n = some t)
    (fed : t.requiresInput = true → (g.incoming n.id).length ≠ 0)
    (single : (g.incoming n.id).length ≤ 1)
    (least : t.ports.mode ≠ .single → t.minInputs ≤ (g.incoming n.id).length)
    (outputs : ∀ declared, t.outputs? = some declared →
      (g.outgoing n.id).length ≤ declared.toNat) : g.arityIssues m n = [] := by
  rw [arityIssues, typed]
  dsimp only
  rw [if_neg fun lacking => fed lacking.1 lacking.2, List.nil_append, List.append_eq_nil_iff]
  constructor
  · cases mode : t.ports.mode with
    | single => exact if_neg (Nat.not_lt.mpr single)
    | multi => exact if_neg (Nat.not_lt.mpr (least (by simp [mode])))
    | variadic => exact if_neg (Nat.not_lt.mpr (least (by simp [mode])))
  · split
    · rename_i declared held
      exact if_neg (Nat.not_lt.mpr (outputs declared held))
    · rfl

/-- A row is one for every manifest that holds its nodes to the same types. -/
theorem Row.congr {m' : Manifest} (row : Row m first rest)
    (same : ∀ n ∈ first :: rest, m'.typeOf? n = m.typeOf? n) : Row m' first rest where
  begins := by
    rw [same first List.mem_cons_self]
    exact row.begins
  feeds := by
    intro pair next
    have ends : pair.1 ∈ first :: rest ∧ pair.2 ∈ first :: rest := mem_of_zip_tail next
    obtain ⟨before, behind⟩ := ends
    rw [same _ before, same _ behind]
    exact row.feeds pair next
  known := by
    intro n member t typed
    rw [same n member] at typed
    exact row.known n member t typed

namespace Row

variable (row : Row m first rest)

include row

/-- A node behind another has a type that the one before it feeds. -/
theorem exists_type (member : n ∈ first :: rest) : ∃ t, m.typeOf? n = some t := by
  rcases List.mem_cons.mp member with rfl | behind
  · obtain ⟨t, typed, -⟩ := row.begins
    exact ⟨t, typed⟩
  · obtain ⟨a, next⟩ : ∃ a, (a, n) ∈ (first :: rest).zip (first :: rest).tail :=
      exists_before behind
    obtain ⟨-, t, -, typed, -⟩ := row.feeds _ next
    exact ⟨t, typed⟩

variable (distinct : ((first :: rest).map (·.id)).Nodup)

theorem placeholders_eq_nil (named : ∀ n ∈ first :: rest, n.type ≠ "") :
    (chain (first :: rest)).placeholders m = [] := by
  refine placeholders_eq_nil_iff.mpr fun n member => ?_
  obtain ⟨t, typed⟩ := row.exists_type member
  obtain ⟨unmarked, held⟩ := Manifest.typeOf?_eq_some_iff.mp typed
  refine ⟨named n member, ⟨t, held⟩, fun marked => ?_⟩
  rw [isMarked_iff.mpr marked] at unmarked
  cases unmarked

theorem paramIssues_eq_nil (member : n ∈ first :: rest) : paramIssues m n = [] := by
  obtain ⟨t, typed⟩ := row.exists_type member
  rw [paramIssues, typed, List.map_eq_nil_iff, List.filter_eq_nil_iff]
  intro name given
  rw [row.known n member t typed name given]
  exact Bool.false_ne_true

/-- The first node is a source, and leads to all others. -/
theorem connectionIssues_chain : (chain (first :: rest)).connectionIssues m = [] := by
  rw [connectionIssues_eq_nil_iff]
  intro id sink
  obtain ⟨t, typed, source, -⟩ := row.begins
  obtain ⟨n, member, rfl⟩ := List.mem_map.mp (mem_ids_of_mem_sinks sink)
  refine ⟨first.id, ?_, path_chain member⟩
  refine List.mem_map_of_mem (List.mem_filter.mpr ⟨List.mem_cons_self, ?_⟩)
  rw [typed]
  exact source

include distinct

theorem arityIssues_chain (member : n ∈ first :: rest) :
    (chain (first :: rest)).arityIssues m n = [] := by
  have outputs : ∀ t, m.typeOf? n = some t → ∀ declared, t.outputs? = some declared →
      ((chain (first :: rest)).outgoing n.id).length ≤ declared.toNat := by
    intro t typed declared held
    rcases Nat.eq_zero_or_pos ((chain (first :: rest)).outgoing n.id).length with last | onward
    · omega
    · obtain ⟨b, next⟩ := exists_next_of_outgoing distinct member onward
      obtain ⟨s, _, typed', -, feeds⟩ := row.feeds _ next
      rw [typed] at typed'
      cases typed'
      exact Nat.le_trans (outgoing_le_one distinct) (feeds.one_le_outputs held)
  rcases List.mem_cons.mp member with rfl | behind
  · obtain ⟨t, typed, -, complete, least⟩ := row.begins
    have inputs := incoming_first distinct
    refine arityIssues_eq_nil typed ?_ ?_ ?_ (outputs t typed)
    · simp [complete]
    · simp [inputs]
    · intro several
      simp [least several]
  · obtain ⟨a, next⟩ : ∃ a, (a, n) ∈ (first :: rest).zip (first :: rest).tail :=
      exists_before behind
    obtain ⟨_, t, -, typed, -, -, least⟩ := row.feeds _ next
    have inputs : ((chain (first :: rest)).incoming n.id).length = 1 :=
      incoming_of_next distinct next
    refine arityIssues_eq_nil typed ?_ ?_ ?_ (outputs t typed)
    · simp [inputs]
    · simp [inputs]
    · intro several
      rw [inputs]
      exact least several

theorem fitIssues_chain {index : Nat} (member : e ∈ (chain (first :: rest)).edges) :
    (chain (first :: rest)).fitIssues m index e = [] := by
  obtain ⟨pair, next, rfl⟩ := mem_edges_chain.mp member
  obtain ⟨before, behind⟩ := mem_of_zip_tail next
  obtain ⟨s, t, typed, typed', fits, -⟩ := row.feeds _ next
  have typeAt : ∀ n ∈ first :: rest, (chain (first :: rest)).typeAt? m n.id = m.typeOf? n := by
    intro n inside
    rw [typeAt?, node?_eq_some (g := chain (first :: rest)) distinct inside]
    rfl
  rw [fitIssues]
  dsimp only [Edge.between]
  rw [typeAt _ before, typeAt _ behind, typed, typed']
  dsimp only
  rw [if_pos (kindFits_iff.mp fits)]
  rfl

end Row

/-- The rule on isolated nodes is silent on two nodes or more in a row. -/
theorem isolationIssues_chain (distinct : ((first :: rest).map (·.id)).Nodup)
    (several : rest ≠ []) : (chain (first :: rest)).isolationIssues = [] := by
  rw [isolationIssues, List.map_eq_nil_iff, List.filter_eq_nil_iff]
  intro n member
  rw [Bool.and_eq_true, List.isEmpty_iff, List.isEmpty_iff]
  rcases List.mem_cons.mp member with rfl | behind
  · obtain ⟨b, rest, rfl⟩ := List.exists_cons_of_ne_nil several
    have next : (n, b) ∈ (n :: b :: rest).zip (n :: b :: rest).tail := List.mem_cons_self
    have onward := outgoing_of_next next
    rintro ⟨-, none⟩
    rw [none] at onward
    cases onward
  · obtain ⟨a, next⟩ : ∃ a, (a, n) ∈ (first :: rest).zip (first :: rest).tail :=
      exists_before behind
    have fed := incoming_of_next distinct next
    rintro ⟨none, -⟩
    rw [none] at fed
    cases fed

theorem blockedSinks_eq_nil {g : Graph} (none : g.placeholders m = []) :
    g.blockedSinks m = [] := by
  rw [blockedSinks, none]
  refine List.filter_eq_nil_iff.mpr fun id _ blocked => ?_
  obtain ⟨_, missing, -⟩ := comesFrom_iff.mp blocked
  cases missing

/-- Two nodes or more in a row, of types that go one behind the other, make a graph with
which nothing is wrong. -/
theorem validate_chain (row : Row m first rest) (several : rest ≠ [])
    (distinct : ((first :: rest).map (·.id)).Nodup)
    (named : ∀ n ∈ first :: rest, n.id ≠ "" ∧ n.type ≠ "") :
    (chain (first :: rest)).validate m = {} := by
  have edges : ((chain (first :: rest)).edges.zipIdx.flatMap fun entry =>
      (chain (first :: rest)).edgeIssues m entry.2 entry.1) = [] := by
    rw [List.flatMap_eq_nil_iff]
    intro entry inside
    have member := List.fst_mem_of_mem_zipIdx inside
    rw [edgeIssues_chain distinct (fun n member => (named n member).1) member,
      row.fitIssues_chain distinct member]
  have arity : (first :: rest).flatMap ((chain (first :: rest)).arityIssues m) = [] :=
    List.flatMap_eq_nil_iff.mpr fun _ => row.arityIssues_chain distinct
  have params : (first :: rest).flatMap (paramIssues m) = [] :=
    List.flatMap_eq_nil_iff.mpr fun _ => row.paramIssues_eq_nil
  have issues : (chain (first :: rest)).issues m = [] := by
    rw [Graph.issues, identityIssues_chain distinct fun n member => (named n member).1, edges,
      nodes_chain, arity, params, cycleIssues_chain distinct, row.connectionIssues_chain,
      isolationIssues_chain distinct several]
    rfl
  have placeholders := row.placeholders_eq_nil fun n member => (named n member).2
  rw [validate, issues, placeholders, blockedSinks_eq_nil placeholders]
  rfl

end Graph

end Dataflow
