import Dataflow.Proofs.Validation.Rules
import Dataflow.Proofs.Validation.WellFormed

/-!
# Issues by code

Which part of a report has codes of a list. Every rule reports issues of a few codes only
(`Among`), so picking issues by code from a report keeps some rules whole and drops others.
-/

namespace Dataflow

/-- The issues whose codes are in a list. -/
def ofCodes (codes : List IssueCode) (issues : List Issue) : List Issue :=
  issues.filter fun i => codes.contains i.code

/-- The issues of a report whose codes are in a list. -/
def Report.found (r : Report) (codes : List IssueCode) : List Issue := ofCodes codes r.issues

/-- All of some issues have their codes in a list. -/
def Among (codes : List IssueCode) (issues : List Issue) : Prop := ∀ i ∈ issues, i.code ∈ codes

variable {codes codes' : List IssueCode} {issues : List Issue} {i : Issue}

theorem mem_ofCodes : i ∈ ofCodes codes issues ↔ i ∈ issues ∧ i.code ∈ codes := by
  simp [ofCodes]

theorem ofCodes_append (codes : List IssueCode) (issues issues' : List Issue) :
    ofCodes codes (issues ++ issues') = ofCodes codes issues ++ ofCodes codes issues' :=
  List.filter_append ..

theorem ofCodes_flatMap {α : Type} (codes : List IssueCode) (items : List α)
    (f : α → List Issue) :
    ofCodes codes (items.flatMap f) = items.flatMap fun a => ofCodes codes (f a) :=
  List.filter_flatMap

/-- Of fewer codes, picked from what was picked already. -/
theorem ofCodes_ofCodes (fewer : ∀ c ∈ codes, c ∈ codes') :
    ofCodes codes (ofCodes codes' issues) = ofCodes codes issues := by
  rw [ofCodes, ofCodes, ofCodes, List.filter_filter]
  refine List.filter_congr fun i _ => ?_
  cases listed : codes.contains i.code with
  | false => rfl
  | true =>
      have kept := fewer _ (List.contains_iff_mem.mp listed)
      rw [List.contains_iff_mem.mpr kept, Bool.and_self]

namespace Among

theorem flatMap {α : Type} {items : List α} {f : α → List Issue}
    (each : ∀ a ∈ items, Among codes (f a)) : Among codes (items.flatMap f) := by
  intro i member
  obtain ⟨a, inside, found⟩ := List.mem_flatMap.mp member
  exact each a inside i found

theorem ofCodes_eq_self (among : Among codes issues) (kept : ∀ c ∈ codes, c ∈ codes') :
    ofCodes codes' issues = issues := by
  refine List.filter_eq_self.mpr fun i member => ?_
  simpa using kept _ (among i member)

/-- Issues of some codes are dropped when none of these is asked for. -/
theorem ofCodes_eq_nil (among : Among codes issues) (dropped : ∀ c ∈ codes, c ∉ codes') :
    ofCodes codes' issues = [] := by
  refine List.filter_eq_nil_iff.mpr fun i member => ?_
  simpa using dropped _ (among i member)

/-- Nothing is lost by leaving out a code that does not occur. -/
theorem filter_ne_eq_self {code : IssueCode} (among : Among codes issues)
    (other : code ∉ codes) : issues.filter (·.code != code) = issues := by
  refine List.filter_eq_self.mpr fun i member => bne_iff_ne.mpr fun same => ?_
  exact other (same ▸ among i member)

end Among

namespace Graph

variable {g : Graph} {m : Manifest}

/-! ## Rule by rule -/

/-- The codes of what edges carry and ask for. -/
def fitCodes : List IssueCode := [.edgeTypeMismatch, .edgeSlotInvalid, .edgeSlotOutOfRange]

theorem among_identityIssues : Among [.nodeIdMissing, .nodeIdDuplicate] g.identityIssues :=
  fun i member => by simpa using code_of_mem_identityIssues member

theorem among_fitIssues {index : Nat} {e : Edge} : Among fitCodes (g.fitIssues m index e) :=
  fun i member => by simpa [fitCodes] using code_of_mem_fitIssues member

theorem among_edgeIssues :
    Among [.edgeShape, .edgeFromMissing, .edgeToMissing, .edgeSelf, .edgeTypeMismatch,
      .edgeSlotInvalid, .edgeSlotOutOfRange]
      (g.edges.zipIdx.flatMap fun entry => g.edgeIssues m entry.2 entry.1) :=
  .flatMap fun _ _ _ => code_of_mem_edgeIssues

theorem among_arityIssues :
    Among [.nodeInputsRequired, .nodeInputsExcess, .nodeInputsMissing, .nodeOutputsExcess]
      (g.nodes.flatMap (g.arityIssues m)) :=
  .flatMap fun _ _ _ => code_of_mem_arityIssues

theorem among_paramIssues : Among [.paramUnknown] (g.nodes.flatMap (paramIssues m)) :=
  .flatMap fun _ _ _ member => List.mem_singleton.mpr (code_of_mem_paramIssues member)

theorem among_cycleIssues : Among [.graphCycle] g.cycleIssues := by
  intro i member
  rw [(mem_cycleIssues.mp member).1]
  exact List.mem_singleton.mpr rfl

theorem among_connectionIssues : Among [.graphDisconnected] (g.connectionIssues m) :=
  fun _ member => List.mem_singleton.mpr (code_of_mem_connectionIssues member)

theorem among_isolationIssues : Among [.nodeIsolated] g.isolationIssues :=
  fun _ member => List.mem_singleton.mpr (code_of_mem_isolationIssues member)

/-! ## Reports -/

theorem mem_issues_validate : i ∈ (g.validate m).issues ↔ i ∈ g.issues m := by
  rw [Report.issues, validate, List.mem_append, List.mem_filter, List.mem_filter,
    ← and_or_left]
  cases i.isError <;> simp

/-- Issues of codes that are all errors stand among the errors, in the order of the rules. -/
theorem ofCodes_errors (errors : ∀ c ∈ codes, c.severity = .error) :
    ofCodes codes (g.validate m).errors = ofCodes codes (g.issues m) := by
  rw [validate, ofCodes, ofCodes, List.filter_filter]
  refine List.filter_congr fun i _ => ?_
  cases listed : codes.contains i.code with
  | false => rfl
  | true =>
      rw [Issue.isError, errors _ (List.contains_iff_mem.mp listed)]
      rfl

/-- No warning has the code of an error. -/
theorem ofCodes_warnings_eq_nil (errors : ∀ c ∈ codes, c.severity = .error) :
    ofCodes codes (g.validate m).warnings = [] := by
  refine List.filter_eq_nil_iff.mpr fun i member listed => ?_
  have warning := (List.mem_filter.mp member).2
  rw [Issue.isError, errors _ (List.contains_iff_mem.mp listed)] at warning
  cases warning

/-- Issues of codes that are all errors stand in a report in the order of the rules. -/
theorem found_validate (errors : ∀ c ∈ codes, c.severity = .error) :
    (g.validate m).found codes = ofCodes codes (g.issues m) := by
  rw [Report.found, Report.issues, ofCodes_append, ofCodes_errors errors,
    ofCodes_warnings_eq_nil errors, List.append_nil]

/-- The issues on ids and cycles come from two rules. -/
theorem ofCodes_identity_cycle :
    ofCodes [.nodeIdMissing, .nodeIdDuplicate, .graphCycle] (g.issues m) =
      g.identityIssues ++ g.cycleIssues := by
  simp only [issues, ofCodes_append]
  rw [among_identityIssues.ofCodes_eq_self (by decide),
    among_edgeIssues.ofCodes_eq_nil (by decide), among_arityIssues.ofCodes_eq_nil (by decide),
    among_paramIssues.ofCodes_eq_nil (by decide), among_cycleIssues.ofCodes_eq_self (by decide),
    among_connectionIssues.ofCodes_eq_nil (by decide),
    among_isolationIssues.ofCodes_eq_nil (by decide)]
  simp only [List.append_nil]

/-- Of the issues on an edge with both ends, those on what it carries and asks for. -/
theorem ofCodes_edgeIssues {index : Nat} {e : Edge} :
    ofCodes fitCodes (g.edgeIssues m index e) =
      if e.hasEnds then g.fitIssues m index e else [] := by
  unfold edgeIssues
  split
  · have others : ofCodes fitCodes
        ((if g.hasNode e.source then [] else [.sourceMissing index e.source])
          ++ (if g.hasNode e.target then [] else [.targetMissing index e.target])
          ++ (if e.source = e.target then [.selfEdge index e.source] else [])) = [] := by
      refine List.filter_eq_nil_iff.mpr fun i member => ?_
      simp only [List.mem_append, List.mem_ite_nil_left, List.mem_ite_nil_right,
        List.mem_singleton] at member
      rcases member with (⟨-, rfl⟩ | ⟨-, rfl⟩) | ⟨-, rfl⟩ <;> simp [fitCodes, Issue.code]
    rw [ofCodes_append, others, List.nil_append,
      among_fitIssues.ofCodes_eq_self fun _ => id]
  · rfl

/-- The issues on what edges carry and ask for come from one rule. -/
theorem ofCodes_fit :
    ofCodes fitCodes (g.issues m) = g.edges.zipIdx.flatMap fun entry =>
      if entry.1.hasEnds then g.fitIssues m entry.2 entry.1 else [] := by
  simp only [issues, ofCodes_append]
  rw [among_identityIssues.ofCodes_eq_nil (by decide),
    among_arityIssues.ofCodes_eq_nil (by decide), among_paramIssues.ofCodes_eq_nil (by decide),
    among_cycleIssues.ofCodes_eq_nil (by decide),
    among_connectionIssues.ofCodes_eq_nil (by decide),
    among_isolationIssues.ofCodes_eq_nil (by decide), ofCodes_flatMap]
  simp only [List.append_nil, List.nil_append, ofCodes_edgeIssues]

end Graph

/-!
## Ids

The rule on ids lists the places of the nodes without an id, and then the ids that repeat, each
once and by its first occurrence. Both lists are determined here without reference to how they are
found, so that every report has these errors on ids and no others (`validate_identity`).
-/

/-- A rule that only knows errors finds nothing when it finds no error. -/
theorem Clean.eq_nil {codes : List IssueCode} {issues : List Issue} (clean : Clean issues)
    (among : Among codes issues) (errors : ∀ c ∈ codes, c.severity = .error) : issues = [] := by
  refine List.eq_nil_iff_forall_not_mem.mpr fun i member => ?_
  have harmless := clean i member
  simp [Issue.isError, errors _ (among i member)] at harmless

namespace Graph

variable {g : Graph} {m : Manifest}

/-- The places of the nodes without an id. -/
def unnamed (g : Graph) : List Nat := (g.nodes.zipIdx.filter (·.1.id == "")).map (·.2)

theorem identityIssues_eq (g : Graph) :
    g.identityIssues = g.unnamed.map .idMissing ++ g.repeatedIds.map .idDuplicate := by
  rw [identityIssues, unnamed, List.map_map]
  rfl

theorem unnamed_ascending (g : Graph) : g.unnamed.Pairwise (· < ·) := by
  have places : g.unnamed.Sublist (g.nodes.zipIdx.map (·.2)) := List.filter_sublist.map _
  rw [List.zipIdx_map_snd] at places
  exact (List.pairwise_lt_range' ..).sublist places

/-- The unnamed places are those of empty ids. -/
theorem mem_unnamed {place : Nat} : place ∈ g.unnamed ↔ g.ids[place]? = some "" := by
  simp only [unnamed, ids, List.mem_map, List.mem_filter, List.mem_zipIdx_iff_getElem?,
    List.getElem?_map, Option.map_eq_some_iff, beq_iff_eq]
  constructor
  · rintro ⟨⟨n, _⟩, ⟨found, empty⟩, rfl⟩
    exact ⟨n, found, empty⟩
  · rintro ⟨n, found, empty⟩
    exact ⟨(n, place), ⟨found, empty⟩, rfl⟩

/-- The ids that repeat may be picked from all ids as well. -/
theorem picks_repeatedIds (g : Graph) :
    Picks g.ids (fun id => id ≠ "" ∧ 2 ≤ g.ids.count id) g.repeatedIds := by
  rw [repeatedIds, ← filter_eraseDups, List.filter_filter]
  refine picks_filter_eraseDups (fun id => ?_) g.ids
  rw [Bool.and_eq_true, decide_eq_true_eq, bne_iff_ne, and_comm]
  rfl

theorem identityIssues_eq_nil_iff :
    g.identityIssues = [] ↔ (∀ n ∈ g.nodes, n.id ≠ "") ∧ g.ids.Nodup := by
  rw [← clean_identityIssues]
  constructor
  · intro none
    rw [none]
    exact Clean.nil
  · exact fun clean => clean.eq_nil among_identityIssues (by decide)

/-- The errors on ids come from one rule. -/
theorem ofCodes_identity :
    ofCodes [.nodeIdMissing, .nodeIdDuplicate] (g.issues m) = g.identityIssues := by
  have fewer : ∀ c ∈ [IssueCode.nodeIdMissing, .nodeIdDuplicate],
      c ∈ [IssueCode.nodeIdMissing, .nodeIdDuplicate, .graphCycle] := by decide
  rw [← ofCodes_ofCodes fewer, ofCodes_identity_cycle, ofCodes_append,
    among_identityIssues.ofCodes_eq_self fun _ => id,
    among_cycleIssues.ofCodes_eq_nil (by decide), List.append_nil]

/-- What the rule on ids finds, one error for every node without an id, which names its place, and
behind them one for every id that several nodes have, however many, by first occurrence. It finds
nothing exactly when all nodes have ids of their own. Whatever the manifest, these are the issues
on ids in the report. -/
theorem validate_identity (g : Graph) :
    ∃ (places : List Nat) (repeated : List String),
      g.identityIssues = places.map .idMissing ++ repeated.map .idDuplicate ∧
      places.Pairwise (· < ·) ∧ (∀ place, place ∈ places ↔ g.ids[place]? = some "") ∧
      Picks g.ids (fun id => id ≠ "" ∧ 2 ≤ g.ids.count id) repeated ∧
      (∀ place, (Issue.idMissing place).path = "nodes." ++ place.repr) ∧
      (g.identityIssues = [] ↔ (∀ n ∈ g.nodes, n.id ≠ "") ∧ g.ids.Nodup) ∧
      ∀ m, ofCodes [.nodeIdMissing, .nodeIdDuplicate] (g.validate m).errors = g.identityIssues ∧
        ofCodes [.nodeIdMissing, .nodeIdDuplicate] (g.validate m).warnings = [] := by
  refine ⟨g.unnamed, g.repeatedIds, g.identityIssues_eq, g.unnamed_ascending,
    fun _ => mem_unnamed, g.picks_repeatedIds, fun _ => rfl, identityIssues_eq_nil_iff,
    fun m => ⟨?_, ofCodes_warnings_eq_nil (by decide)⟩⟩
  rw [ofCodes_errors (by decide), ofCodes_identity]

end Graph

end Dataflow
