import Dataflow.Validation.Report

/-!
# What the rules report

For every rule of validation the codes that it reports, so that an issue of a code
can be traced to the rule that found it: a report has a code when some rule found it
(`hasCode_iff`), and only the rule on cycles finds a cycle (`hasCode_cycle_iff`).
-/

namespace Dataflow.Graph

variable {g : Graph} {m : Manifest} {i : Issue}

/-! ## Codes -/

theorem code_of_mem_identityIssues (member : i ∈ g.identityIssues) :
    i.code = .nodeIdMissing ∨ i.code = .nodeIdDuplicate := by
  rcases List.mem_append.mp member with member | member
  · obtain ⟨entry, -, rfl⟩ := List.mem_map.mp member
    exact Or.inl rfl
  · obtain ⟨id, -, rfl⟩ := List.mem_map.mp member
    exact Or.inr rfl

theorem code_of_mem_slotIssues {index : Nat} {e : Edge} {target : NodeType}
    (member : i ∈ g.slotIssues index e target) :
    i.code = .edgeSlotInvalid ∨ i.code = .edgeSlotOutOfRange := by
  unfold slotIssues at member
  dsimp only at member
  split at member
  · rw [List.mem_singleton.mp member]
    exact Or.inl rfl
  · split at member
    · split at member
      · cases member
      · rw [List.mem_singleton.mp member]
        exact Or.inr rfl
    · split at member
      · rw [List.mem_singleton.mp member]
        exact Or.inr rfl
      · cases member
    · cases member
  · cases member

theorem code_of_mem_fitIssues {index : Nat} {e : Edge} (member : i ∈ g.fitIssues m index e) :
    i.code = .edgeTypeMismatch ∨ i.code = .edgeSlotInvalid ∨ i.code = .edgeSlotOutOfRange := by
  unfold fitIssues at member
  split at member
  · rcases List.mem_append.mp member with member | member
    · split at member
      · cases member
      · rw [List.mem_singleton.mp member]
        exact Or.inl rfl
    · exact Or.inr (code_of_mem_slotIssues member)
  · cases member

theorem code_of_mem_edgeIssues {index : Nat} {e : Edge} (member : i ∈ g.edgeIssues m index e) :
    i.code ∈ [.edgeShape, .edgeFromMissing, .edgeToMissing, .edgeSelf, .edgeTypeMismatch,
      .edgeSlotInvalid, .edgeSlotOutOfRange] := by
  unfold edgeIssues at member
  split at member
  · simp only [List.mem_append] at member
    rcases member with ((member | member) | member) | member
    · split at member
      · cases member
      · simp [List.mem_singleton.mp member, Issue.code]
    · split at member
      · cases member
      · simp [List.mem_singleton.mp member, Issue.code]
    · split at member
      · simp [List.mem_singleton.mp member, Issue.code]
      · cases member
    · rcases code_of_mem_fitIssues member with code | code | code <;> simp [code]
  · simp [List.mem_singleton.mp member, Issue.code]

theorem code_of_mem_arityIssues {n : Node} (member : i ∈ g.arityIssues m n) :
    i.code ∈ [.nodeInputsRequired, .nodeInputsExcess, .nodeInputsMissing,
      .nodeOutputsExcess] := by
  unfold arityIssues at member
  dsimp only at member
  split at member
  · cases member
  · simp only [List.mem_append] at member
    rcases member with (member | member) | member
    · split at member
      · simp [List.mem_singleton.mp member, Issue.code]
      · cases member
    · split at member
      all_goals
        split at member
        · simp [List.mem_singleton.mp member, Issue.code]
        · cases member
    · split at member
      · split at member
        · simp [List.mem_singleton.mp member, Issue.code]
        · cases member
      · cases member

theorem code_of_mem_paramIssues {n : Node} (member : i ∈ paramIssues m n) :
    i.code = .paramUnknown := by
  unfold paramIssues at member
  split at member
  · cases member
  · obtain ⟨param, -, rfl⟩ := List.mem_map.mp member
    rfl

theorem mem_cycleIssues : i ∈ g.cycleIssues ↔ i = .cycle ∧ g.order.length < g.nodes.length := by
  unfold cycleIssues
  split
  · simp [*]
  · simp [*]

theorem code_of_mem_connectionIssues (member : i ∈ g.connectionIssues m) :
    i.code = .graphDisconnected := by
  unfold connectionIssues at member
  dsimp only at member
  split at member
  · cases member
  · rw [List.mem_singleton.mp member]
    rfl

theorem code_of_mem_isolationIssues (member : i ∈ g.isolationIssues) :
    i.code = .nodeIsolated := by
  obtain ⟨n, -, rfl⟩ := List.mem_map.mp member
  rfl

/-! ## The report as a whole -/

theorem mem_issues : i ∈ g.issues m ↔
    i ∈ g.identityIssues ∨
    (∃ entry ∈ g.edges.zipIdx, i ∈ g.edgeIssues m entry.2 entry.1) ∨
    (∃ n ∈ g.nodes, i ∈ g.arityIssues m n) ∨
    (∃ n ∈ g.nodes, i ∈ paramIssues m n) ∨
    i ∈ g.cycleIssues ∨ i ∈ g.connectionIssues m ∨ i ∈ g.isolationIssues := by
  simp only [issues, List.mem_append, List.mem_flatMap, or_assoc]

/-- A report has a code when some rule found an issue of the code. -/
theorem hasCode_iff {code : IssueCode} :
    (g.validate m).hasCode code = true ↔ ∃ i ∈ g.issues m, i.code = code := by
  simp only [Report.hasCode, Report.issues, validate, List.any_eq_true, List.mem_append,
    List.mem_filter, beq_iff_eq]
  constructor
  · rintro ⟨i, ⟨member, -⟩ | ⟨member, -⟩, code⟩
    · exact ⟨i, member, code⟩
    · exact ⟨i, member, code⟩
  · rintro ⟨i, member, code⟩
    refine ⟨i, ?_, code⟩
    cases error : i.isError with
    | true => exact Or.inl ⟨member, rfl⟩
    | false => exact Or.inr ⟨member, rfl⟩

/-- Only the rule on cycles reports a cycle. -/
theorem hasCode_cycle_iff :
    (g.validate m).hasCode .graphCycle = true ↔ g.order.length < g.nodes.length := by
  rw [hasCode_iff]
  constructor
  · rintro ⟨i, member, code⟩
    rcases mem_issues.mp member with found | ⟨_, _, found⟩ | ⟨_, _, found⟩ | ⟨_, _, found⟩ |
      found | found | found
    · rcases code_of_mem_identityIssues found with other | other <;> simp [other] at code
    · have other := code_of_mem_edgeIssues found
      simp [code] at other
    · have other := code_of_mem_arityIssues found
      simp [code] at other
    · simp [code_of_mem_paramIssues found] at code
    · exact (mem_cycleIssues.mp found).2
    · simp [code_of_mem_connectionIssues found] at code
    · simp [code_of_mem_isolationIssues found] at code
  · intro short
    exact ⟨.cycle, by simp [mem_issues, mem_cycleIssues, short], rfl⟩

end Dataflow.Graph
