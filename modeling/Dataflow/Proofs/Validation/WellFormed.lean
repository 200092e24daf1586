import Dataflow.Proofs.Graph.Order
import Dataflow.Proofs.Table

/-!
# Well-formed graphs

A graph is well-formed against a manifest (`Graph.WellFormed`) when its ids and types
are in order, its edges lead from node to node, carry what their targets accept and
ask for inputs that exist, its nodes have the inputs they need, and it has no cycle.
This is said of nodes and edges alone, without the look-ups that the rules share.
Validation accepts exactly the well-formed graphs (`validate_ok_iff_wellFormed`).

Rule by rule, the lemmas below say when a rule finds no error; `Clean` goes through
appended lists and through the tests that rules are made of.
-/

namespace Dataflow

open Relation

/-- None of some issues is an error. -/
def Clean (issues : List Issue) : Prop := ∀ i ∈ issues, i.isError = false

namespace Clean

@[simp] theorem nil : Clean [] := by simp [Clean]

@[simp] theorem singleton {i : Issue} : Clean [i] ↔ i.isError = false := by simp [Clean]

@[simp] theorem append {a b : List Issue} : Clean (a ++ b) ↔ Clean a ∧ Clean b :=
  List.forall_mem_append

theorem flatMap {α : Type} {items : List α} {f : α → List Issue} :
    Clean (items.flatMap f) ↔ ∀ a ∈ items, Clean (f a) := by
  simp only [Clean, List.mem_flatMap]
  exact ⟨fun h a member i found => h i ⟨a, member, found⟩,
    fun h i ⟨a, member, found⟩ => h a member i found⟩

/-- A rule whose issues are all errors is clean only when it finds nothing. -/
theorem map_of_errors {α : Type} {items : List α} {f : α → Issue}
    (errors : ∀ a, (f a).isError = true) : Clean (items.map f) ↔ items = [] := by
  cases items with
  | nil => simp
  | cons a rest => simp [Clean, errors]

/-- A test that reports an error unless something holds. -/
theorem ite_nil {i : Issue} {c : Prop} [Decidable c] (error : i.isError = true) :
    Clean (if c then [] else [i]) ↔ c := by
  by_cases held : c <;> simp [held, error]

/-- A test that reports an error when something holds. -/
theorem ite_error {i : Issue} {c : Prop} [Decidable c] (error : i.isError = true) :
    Clean (if c then [i] else []) ↔ ¬ c := by
  by_cases held : c <;> simp [held, error]

/-- A test that reports a warning. -/
theorem ite_warning {i : Issue} {c : Prop} [Decidable c] (warning : i.isError = false) :
    Clean (if c then [i] else []) := by
  by_cases held : c <;> simp [held, warning]

/-- A rule whose issues have a warning's code is always clean. -/
theorem of_code {issues : List Issue} (code : IssueCode) (warning : code.severity = .warning)
    (all : ∀ i ∈ issues, i.code = code) : Clean issues := by
  intro i member
  simp [Issue.isError, all i member, warning]

end Clean

theorem forall_mem_zipIdx {α : Type} (items : List α) (p : α → Prop) :
    (∀ entry ∈ items.zipIdx, p entry.1) ↔ ∀ a ∈ items, p a := by
  rw [← List.forall_mem_map (f := Prod.fst) (P := p), List.zipIdx_map_fst]

namespace Graph

variable {g : Graph} {m : Manifest}

/-! ## Rule by rule -/

theorem clean_identityIssues :
    Clean g.identityIssues ↔ (∀ n ∈ g.nodes, n.id ≠ "") ∧ g.ids.Nodup := by
  have missing :
      Clean ((g.nodes.zipIdx.filter (·.1.id == "")).map fun entry => .idMissing entry.2) ↔
      ∀ n ∈ g.nodes, n.id ≠ "" := by
    rw [Clean.map_of_errors fun _ => rfl, List.filter_eq_nil_iff]
    simpa using forall_mem_zipIdx g.nodes fun n => n.id ≠ ""
  have repeated : Clean (g.repeatedIds.map .idDuplicate) ↔
      ∀ id ∈ g.ids, id ≠ "" → g.ids.count id ≤ 1 := by
    rw [Clean.map_of_errors fun _ => rfl, repeatedIds, List.filter_eq_nil_iff]
    simp only [List.mem_eraseDups, List.mem_filter, bne_iff_ne, and_imp, decide_eq_true_eq,
      Nat.not_lt]
  rw [identityIssues, Clean.append, missing, repeated, List.nodup_iff_count_le_one]
  -- an empty id that repeats is not reported twice, but then it is reported as missing
  refine and_congr_right fun named => ⟨fun once id => ?_, fun once id _ _ => once id⟩
  by_cases inside : id ∈ g.ids
  · obtain ⟨n, member, rfl⟩ := List.mem_map.mp inside
    exact once n.id inside (named n member)
  · rw [List.count_eq_zero.mpr inside]
    exact Nat.zero_le 1

theorem isMarked_iff {n : Node} :
    n.isMarked = true ↔ n.params.get? "placeholder" = some (.bool true) := by
  unfold Node.isMarked
  split
  · simp [*]
  · rename_i other
    simpa using other

/-- There is no placeholder when every node has a type of the manifest and no mark. -/
theorem placeholders_eq_nil_iff :
    g.placeholders m = [] ↔ ∀ n ∈ g.nodes, n.type ≠ "" ∧ (∃ type, m.type? n.type = some type) ∧
      n.params.get? "placeholder" ≠ some (.bool true) := by
  rw [placeholders, List.filter_eq_nil_iff]
  refine forall₂_congr fun n _ => ?_
  simp only [Manifest.isPlaceholder, Manifest.contains, Manifest.type?, Bool.or_eq_true,
    beq_iff_eq, Bool.not_eq_true', not_or, ← Table.contains_iff, Bool.not_eq_false, isMarked_iff,
    and_assoc, ne_eq]

/-- What an edge carries is of a kind that its target accepts. -/
def KindFits (source target : NodeType) : Prop :=
  source.ports.output = "" ∨ (∀ i ∈ target.ports.inputs, i.kind = "") ∨
    ∃ i ∈ target.ports.inputs, i.kind = source.ports.output

/-- An index is one of an input that the target has. A target that takes any number of
inputs has them all, and so has one that declares none. -/
def IndexFits (slot : UInt64) (target : NodeType) : Prop :=
  (target.ports.mode = .single → slot = 0) ∧
    (target.ports.mode = .multi → 0 < target.ports.inputs.length →
      slot.toNat < target.ports.inputs.length)

/-- A written slot is the index of an input that the target has. -/
def SlotFits (written : Json) (target : NodeType) : Prop :=
  ∃ slot, Slot.ofJson written = .index slot ∧ IndexFits slot target

/-- Kinds fit where either side leaves them open or the one is among the others. -/
theorem kindFits_iff {source target : NodeType} :
    KindFits source target ↔ source.ports.output = "" ∨ target.acceptedKinds = [] ∨
      source.ports.output ∈ target.acceptedKinds := by
  have accepted : ∀ kind, kind ∈ target.acceptedKinds ↔
      kind ≠ "" ∧ ∃ i ∈ target.ports.inputs, i.kind = kind := by
    intro kind
    simp [NodeType.acceptedKinds, Table.mem_sortedNames, and_comm]
  by_cases silent : source.ports.output = ""
  · simp [KindFits, silent]
  · rw [accepted, List.eq_nil_iff_forall_not_mem]
    simp only [KindFits, silent, false_or, accepted, ne_eq, not_false_eq_true, true_and]
    refine or_congr_left ⟨fun none kind => ?_, fun none i member => ?_⟩
    · rintro ⟨named, i, member, rfl⟩
      exact named (none i member)
    · by_contra named
      exact none i.kind ⟨named, i, member, rfl⟩

theorem clean_slotIssues {index : Nat} {e : Edge} {target : NodeType} :
    Clean (g.slotIssues index e target) ↔
      ∀ written, e.slot? = some written → SlotFits written target := by
  unfold slotIssues SlotFits IndexFits
  cases here : e.slot? with
  | none => simp
  | some written =>
      have read : e.slotValue? = some (Slot.ofJson written) := by rw [Edge.slotValue?, here]; rfl
      rw [read]
      cases value : Slot.ofJson written with
      | invalid => simp [value, Issue.isError, Issue.code, IssueCode.severity]
      | index slot =>
          cases target.ports.mode with
          | single =>
              dsimp only
              rw [Clean.ite_nil rfl]
              simp [value]
          | multi =>
              dsimp only
              rw [Clean.ite_error rfl]
              simp [value]
          | variadic => simp [value]

/-- Between held ends nothing is wrong when kind and slot fit. -/
theorem clean_fitIssues {index : Nat} {e : Edge} :
    Clean (g.fitIssues m index e) ↔ ∀ source target,
      g.typeAt? m e.source = some source → g.typeAt? m e.target = some target →
        KindFits source target ∧ ∀ written, e.slot? = some written → SlotFits written target := by
  unfold fitIssues
  split
  · rename_i source target hsource htarget
    dsimp only
    rw [Clean.append, Clean.ite_nil rfl, clean_slotIssues, ← kindFits_iff]
    simp only [hsource, htarget, Option.some.injEq]
    constructor
    · rintro fits _ _ rfl rfl
      exact fits
    · intro fits
      exact fits source target rfl rfl
  · rename_i untyped
    simp only [Clean.nil, true_iff]
    intro source target hsource htarget
    exact absurd htarget (untyped source target hsource)

theorem clean_edgeIssues {index : Nat} {e : Edge} :
    Clean (g.edgeIssues m index e) ↔
      (e.source ≠ "" ∧ e.target ≠ "" ∧ e.source ∈ g.ids ∧ e.target ∈ g.ids) ∧
        Clean (g.fitIssues m index e) := by
  have ends : e.hasEnds = true ↔ e.source ≠ "" ∧ e.target ≠ "" := by simp [Edge.hasEnds]
  unfold edgeIssues
  split
  · rename_i both
    have loop : Clean (if e.source = e.target then [.selfEdge index e.source] else []) :=
      Clean.ite_warning rfl
    rw [Clean.append, Clean.append, Clean.append, Clean.ite_nil rfl, Clean.ite_nil rfl,
      hasNode_iff, hasNode_iff]
    rw [ends] at both
    simp only [both, loop, and_true, true_and, ne_eq, not_false_eq_true]
  · rename_i lacking
    rw [ends] at lacking
    constructor
    · intro clean
      cases clean (.edgeShape index) List.mem_cons_self
    · rintro ⟨⟨source, target, -⟩, -⟩
      exact absurd ⟨source, target⟩ lacking

/-- A node has the inputs that its type needs. -/
def InputsSuffice (g : Graph) (n : Node) (type : NodeType) : Prop :=
  (type.requiresInput = true → 1 ≤ (g.incoming n.id).length) ∧
    (type.ports.mode = .multi ∨ type.ports.mode = .variadic →
      type.minInputs ≤ (g.incoming n.id).length)

/-- Excess is a warning, so a node is clean when its inputs suffice. -/
theorem clean_arityIssues {n : Node} :
    Clean (g.arityIssues m n) ↔ ∀ type, m.typeOf? n = some type → g.InputsSuffice n type := by
  unfold arityIssues InputsSuffice
  split
  · simp [*]
  · rename_i type htype
    dsimp only
    rw [Clean.append, Clean.append, Clean.ite_error rfl]
    refine (and_iff_left ?_).trans ?_
    · split
      · exact Clean.ite_warning rfl
      · exact Clean.nil
    simp only [htype, Option.some.injEq, forall_eq']
    refine and_congr ⟨fun held required => ?_, fun held lacking => ?_⟩ ?_
    · exact Nat.pos_of_ne_zero fun none => held ⟨required, none⟩
    · have := held lacking.1
      omega
    · cases type.ports.mode with
      | single => simpa using Clean.ite_warning rfl
      | multi =>
          dsimp only
          rw [Clean.ite_error rfl]
          simp
      | variadic =>
          dsimp only
          rw [Clean.ite_error rfl]
          simp

theorem clean_cycleIssues : Clean g.cycleIssues ↔ g.Acyclic ∧ g.ids.Nodup := by
  rw [cycleIssues, Clean.ite_error rfl, order_length_lt_iff, not_or, not_not, not_not]

/-- A report has no error when the rules on ids, edges, inputs and cycles find none; the
other rules only warn. -/
theorem clean_issues : Clean (g.issues m) ↔
    Clean g.identityIssues ∧ (∀ e ∈ g.edges, ∀ index, Clean (g.edgeIssues m index e)) ∧
      (∀ n ∈ g.nodes, Clean (g.arityIssues m n)) ∧ Clean g.cycleIssues := by
  -- whether an edge is reported as an error does not depend on its index
  have edges : (∀ entry ∈ g.edges.zipIdx, Clean (g.edgeIssues m entry.2 entry.1)) ↔
      ∀ e ∈ g.edges, ∀ index, Clean (g.edgeIssues m index e) := by
    rw [← forall_mem_zipIdx g.edges fun e => ∀ index, Clean (g.edgeIssues m index e)]
    refine forall₂_congr fun entry _ => ⟨fun clean index => ?_, fun clean => clean entry.2⟩
    rw [clean_edgeIssues, clean_fitIssues] at clean ⊢
    exact clean
  have params : Clean (g.nodes.flatMap (paramIssues m)) :=
    Clean.flatMap.mpr fun n _ =>
      .of_code .paramUnknown rfl fun _ => code_of_mem_paramIssues
  have connection : Clean (g.connectionIssues m) :=
    .of_code .graphDisconnected rfl fun _ => code_of_mem_connectionIssues
  have isolation : Clean g.isolationIssues :=
    .of_code .nodeIsolated rfl fun _ => code_of_mem_isolationIssues
  simp only [issues, Clean.append, params, connection, isolation, and_true, and_assoc]
  rw [Clean.flatMap, Clean.flatMap, edges]

/-! ## Well-formedness -/

/-- A node of the id has a type of the manifest. -/
def HasType (g : Graph) (m : Manifest) (id : String) (type : NodeType) : Prop :=
  ∃ n ∈ g.nodes, n.id = id ∧ m.type? n.type = some type

/-- What a graph has to satisfy to be valid, said of its nodes and edges alone. -/
structure WellFormed (g : Graph) (m : Manifest) : Prop where
  /-- Every node has an id. -/
  named : ∀ n ∈ g.nodes, n.id ≠ ""
  distinct : g.ids.Nodup
  /-- Every node has a type of the manifest and is not marked as a placeholder. -/
  typed : ∀ n ∈ g.nodes, n.type ≠ "" ∧ (∃ type, m.type? n.type = some type) ∧
    n.params.get? "placeholder" ≠ some (.bool true)
  /-- Every edge has two ends, which are ids of nodes. -/
  ended : ∀ e ∈ g.edges,
    e.source ≠ "" ∧ e.target ≠ "" ∧ e.source ∈ g.ids ∧ e.target ∈ g.ids
  /-- Every edge carries what its target accepts. -/
  kinds : ∀ e ∈ g.edges, ∀ source target,
    g.HasType m e.source source → g.HasType m e.target target → KindFits source target
  /-- Every slot is the index of an input. -/
  slots : ∀ e ∈ g.edges, ∀ written, e.slot? = some written →
    ∃ slot, Slot.ofJson written = .index slot ∧
      ∀ target, g.HasType m e.target target → IndexFits slot target
  /-- Every node has the inputs that its type needs. -/
  inputs : ∀ n ∈ g.nodes, ∀ type, m.type? n.type = some type → g.InputsSuffice n type
  /-- No path of edges leads back to where it starts. -/
  acyclic : ∀ id, ¬ TransGen g.Arc id id

/-- A report is good when no issue is an error and there are no placeholders. -/
theorem validate_ok_iff :
    (g.validate m).ok = true ↔ Clean (g.issues m) ∧ g.placeholders m = [] := by
  simp only [Report.ok, validate, Bool.and_eq_true, List.isEmpty_iff, List.map_eq_nil_iff,
    List.filter_eq_nil_iff, Bool.not_eq_true, Clean]

/-- A node that is not marked is held to its type. -/
theorem typeOf?_eq {n : Node} (unmarked : n.params.get? "placeholder" ≠ some (.bool true)) :
    m.typeOf? n = m.type? n.type := by
  rw [Manifest.typeOf?, if_neg (mt isMarked_iff.mp unmarked)]

/-- With distinct ids and no marked node, looking up the type of an id finds the type of
the node of that id. -/
theorem typeAt?_eq_some_iff (distinct : g.ids.Nodup)
    (unmarked : ∀ n ∈ g.nodes, n.params.get? "placeholder" ≠ some (.bool true))
    {id : String} {type : NodeType} : g.typeAt? m id = some type ↔ g.HasType m id type := by
  rw [typeAt?, Option.bind_eq_some_iff]
  constructor
  · rintro ⟨n, found, held⟩
    obtain ⟨member, named⟩ := mem_of_node? found
    rw [typeOf?_eq (unmarked n member)] at held
    exact ⟨n, member, named, held⟩
  · rintro ⟨n, member, rfl, held⟩
    exact ⟨n, node?_eq_some distinct member, by rw [typeOf?_eq (unmarked n member), held]⟩

/-- Every id of a node has a type where every node has one. -/
theorem exists_hasType (typed : ∀ n ∈ g.nodes, ∃ type, m.type? n.type = some type)
    {id : String} (inside : id ∈ g.ids) : ∃ type, g.HasType m id type := by
  obtain ⟨n, member, named⟩ := List.mem_map.mp inside
  obtain ⟨type, held⟩ := typed n member
  exact ⟨type, n, member, named, held⟩

theorem wellFormed_of_clean (clean : Clean (g.issues m)) (none : g.placeholders m = []) :
    g.WellFormed m := by
  obtain ⟨identity, edges, arity, cycle⟩ := clean_issues.mp clean
  obtain ⟨named, distinct⟩ := clean_identityIssues.mp identity
  have typed := placeholders_eq_nil_iff.mp none
  have types : ∀ {id : String} {type : NodeType},
      g.typeAt? m id = some type ↔ g.HasType m id type :=
    typeAt?_eq_some_iff distinct fun n member => (typed n member).2.2
  have ended := fun e member => (clean_edgeIssues.mp (edges e member 0)).1
  have fits := fun e member => clean_fitIssues.mp (clean_edgeIssues.mp (edges e member 0)).2
  simp only [types] at fits
  refine ⟨named, distinct, typed, ended, ?_, ?_, ?_, ?_⟩
  · intro e member source target hsource htarget
    exact (fits e member source target hsource htarget).1
  · intro e member written here
    -- a slot is only checked where both ends have a type, and here they all do
    obtain ⟨-, -, sourceInside, targetInside⟩ := ended e member
    have known := fun n member => (typed n member).2.1
    obtain ⟨source, hsource⟩ := exists_hasType known sourceInside
    obtain ⟨target, htarget⟩ := exists_hasType known targetInside
    obtain ⟨slot, value, -⟩ := (fits e member source target hsource htarget).2 written here
    refine ⟨slot, value, fun other hother => ?_⟩
    obtain ⟨slot', value', fit⟩ := (fits e member source other hsource hother).2 written here
    rw [value] at value'
    cases value'
    exact fit
  · intro n member type held
    exact clean_arityIssues.mp (arity n member) type
      ((typeOf?_eq (typed n member).2.2).trans held)
  · rw [← link_eq_arc fun e member => (ended e member).2.2]
    exact (clean_cycleIssues.mp cycle).1

theorem WellFormed.link_eq_arc (wf : g.WellFormed m) : g.Link = g.Arc :=
  Graph.link_eq_arc fun e member => (wf.ended e member).2.2

theorem WellFormed.no_cycle (wf : g.WellFormed m) : g.Acyclic := by
  rw [Acyclic, wf.link_eq_arc]
  exact wf.acyclic

theorem WellFormed.clean (wf : g.WellFormed m) : Clean (g.issues m) := by
  have types : ∀ {id : String} {type : NodeType},
      g.typeAt? m id = some type ↔ g.HasType m id type :=
    typeAt?_eq_some_iff wf.distinct fun n member => (wf.typed n member).2.2
  refine clean_issues.mpr ⟨clean_identityIssues.mpr ⟨wf.named, wf.distinct⟩, ?_, ?_, ?_⟩
  · intro e member index
    refine clean_edgeIssues.mpr ⟨wf.ended e member, clean_fitIssues.mpr ?_⟩
    intro source target hsource htarget
    refine ⟨wf.kinds e member source target (types.mp hsource) (types.mp htarget), ?_⟩
    intro written here
    obtain ⟨slot, value, fit⟩ := wf.slots e member written here
    exact ⟨slot, value, fit target (types.mp htarget)⟩
  · intro n member
    refine clean_arityIssues.mpr fun type held => wf.inputs n member type ?_
    rwa [typeOf?_eq (wf.typed n member).2.2] at held
  · exact clean_cycleIssues.mpr ⟨wf.no_cycle, wf.distinct⟩

/-- Validation accepts exactly the well-formed graphs. Issues are errors or warnings by
their severity, so a warning never decides. -/
theorem validate_ok_iff_wellFormed (g : Graph) (m : Manifest) :
    ((g.validate m).ok = true ↔ g.WellFormed m) ∧
    (∀ i ∈ (g.validate m).errors, i.code.severity = .error) ∧
    (∀ i ∈ (g.validate m).warnings, i.code.severity = .warning) := by
  refine ⟨?_, ?_, ?_⟩
  · rw [validate_ok_iff]
    exact ⟨fun valid => wellFormed_of_clean valid.1 valid.2,
      fun wf => ⟨wf.clean, placeholders_eq_nil_iff.mpr wf.typed⟩⟩
  · intro i member
    exact eq_of_beq (List.mem_filter.mp member).2
  · intro i member
    have other := (List.mem_filter.mp member).2
    cases severity : i.code.severity with
    | error => simp [Issue.isError, severity] at other
    | warning => rfl

end Graph

end Dataflow
