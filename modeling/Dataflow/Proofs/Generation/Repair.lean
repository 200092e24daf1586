import Dataflow.Proofs.Generation.Search
import Dataflow.Proofs.Planning.Prompt

/-!
# What a request for repair says

A request for repair tells a model what is wrong with its graph: the errors in the order of the
report and behind them the placeholders in the order of the nodes, of both together the first ten
(`Graph.Tells`). Placeholders have the room that the errors leave, which need not be room for all of
them (`Crowded.untold_placeholder`). A graph is not valid for the same two reasons, so whenever a
repair is asked for there is something to tell.

A run asks for plans until an answer is usable, and there may be one call behind that answer, which
asks for a repair (`Planner.Sends`). Hooks may do as they like: they are handed these requests.
-/

namespace Dataflow

/-! ## The lines on a graph -/

/-- The line on a placeholder. -/
def Node.placeholderLine (n : Node) : String :=
  "placeholder: node " ++ n.id ++ " uses type " ++ (if n.type = "" then "unknown" else n.type)
    ++ " which is not in the manifest"

namespace Graph

variable {g : Graph} {m : Manifest}

/-- Some lines tell what is wrong with a graph. -/
structure Tells (g : Graph) (m : Manifest) (lines : List String) : Prop where
  /-- They are the first ten of those on errors, as reported, and on placeholders, node by node. -/
  lines_eq : lines =
    ((g.validate m).errors.map (fun i => i.code.name ++ ": " ++ i.message)
      ++ (g.nodes.filter m.isPlaceholder).map Node.placeholderLine).take 10
  /-- There are some exactly when the graph is not valid. -/
  ne_nil_iff : lines ≠ [] ↔ (g.validate m).ok = false
  length_le : lines.length ≤ 10
  /-- Fewer than ten errors are all told, and behind them as many placeholders as there is room
  for. -/
  room : (g.validate m).errors.length < 10 → lines =
    (g.validate m).errors.map (fun i => i.code.name ++ ": " ++ i.message)
      ++ ((g.nodes.filter m.isPlaceholder).take (10 - (g.validate m).errors.length)).map
        Node.placeholderLine
  /-- Each of those is named. -/
  named : ∀ n ∈ (g.nodes.filter m.isPlaceholder).take (10 - (g.validate m).errors.length),
    n.placeholderLine ∈ lines
  /-- There is room for the first one at least. -/
  first_named : (g.validate m).errors.length < 10 →
    ∀ n ∈ (g.nodes.filter m.isPlaceholder).head?, n.placeholderLine ∈ lines

/-- Errors come before placeholders, and only the first ten lines are told. -/
theorem repairLines_validate (g : Graph) (m : Manifest) : (g.validate m).repairLines =
    ((g.validate m).errors.map Issue.line
      ++ (g.nodes.filter m.isPlaceholder).map Node.placeholderLine).take 10 := by
  have placeholders : (g.validate m).placeholders =
      (g.nodes.filter m.isPlaceholder).map Placeholder.ofNode := rfl
  rw [Report.repairLines, placeholders, List.map_map]
  rfl

end Graph

/-- A report has nothing for a request for repair exactly when it finds the graph valid. -/
theorem Report.repairLines_eq_nil_iff (r : Report) : r.repairLines = [] ↔ r.ok = true := by
  rw [repairLines, List.take_eq_nil_iff, List.append_eq_nil_iff, List.map_eq_nil_iff,
    List.map_eq_nil_iff, ok, Bool.and_eq_true, List.isEmpty_iff, List.isEmpty_iff]
  exact or_iff_right (Nat.succ_ne_zero 9)

namespace Graph

variable {g : Graph} {m : Manifest}

/-- The lines on errors come first, and those on placeholders have what they leave of the ten. -/
theorem repairLines_of_few (few : (g.validate m).errors.length < 10) :
    (g.validate m).repairLines = (g.validate m).errors.map Issue.line
      ++ ((g.nodes.filter m.isPlaceholder).take (10 - (g.validate m).errors.length)).map
        Node.placeholderLine := by
  have whole : ((g.validate m).errors.map Issue.line).length ≤ 10 := by
    rw [List.length_map]
    omega
  rw [repairLines_validate, List.take_append, List.take_of_length_le whole, List.length_map,
    List.map_take]

/-- A placeholder is named while the errors leave room for it. -/
theorem placeholderLine_mem {n : Node} (inRoom :
    n ∈ (g.nodes.filter m.isPlaceholder).take (10 - (g.validate m).errors.length)) :
    n.placeholderLine ∈ (g.validate m).repairLines := by
  have few : (g.validate m).errors.length < 10 := by
    have room := List.length_pos_of_mem inRoom
    rw [List.length_take] at room
    omega
  rw [repairLines_of_few few]
  exact List.mem_append_right _ (List.mem_map_of_mem inRoom)

theorem tells_repairLines (g : Graph) (m : Manifest) : g.Tells m (g.validate m).repairLines where
  lines_eq := g.repairLines_validate m
  ne_nil_iff := by rw [ne_eq, Report.repairLines_eq_nil_iff, Bool.not_eq_true]
  length_le := List.length_take_le ..
  room := repairLines_of_few
  named _ := placeholderLine_mem
  first_named few n first := by
    obtain ⟨others, listed⟩ := List.head?_eq_some_iff.mp first
    obtain ⟨room, left⟩ : ∃ room, 10 - (g.validate m).errors.length = room + 1 :=
      ⟨9 - (g.validate m).errors.length, by omega⟩
    refine placeholderLine_mem ?_
    rw [listed, left, List.take_succ_cons]
    exact List.mem_cons_self

/-! ### Nine errors and two placeholders -/

namespace Crowded

/-- Two nodes of unknown types, and nine edges to a node that is not there. -/
def graph : Graph where
  nodes := [{ id := "a", type := "x" }, { id := "b", type := "y" }]
  edges := List.replicate 9 { source := "a", target := "z" }

/-- The second placeholder is left out. -/
theorem untold_placeholder :
    (graph.validate {}).errors.length = 9 ∧
    graph.nodes.filter (Manifest.isPlaceholder {}) = graph.nodes ∧
    (graph.validate {}).repairLines.drop 9 =
      ["placeholder: node a uses type x which is not in the manifest"] ∧
    ∃ n ∈ graph.nodes, n.placeholderLine ∉ (graph.validate {}).repairLines := by
  refine ⟨by decide +kernel, rfl, by decide +kernel, { id := "b", type := "y" }, ?_,
    by decide +kernel⟩
  exact List.mem_cons_of_mem _ List.mem_cons_self

end Crowded

end Graph

/-! ## The calls of a run -/

variable {σ : Type}

namespace Planner

/-- Calls ask for a plan, and end with the first usable answer if there is one. -/
structure AsksForPlan (p : Planner) (prompt : Prompt) (calls : List (Call σ)) : Prop where
  asked : ∀ c ∈ calls, c.request = p.request c.family c.model prompt
  unread : ∀ c ∈ calls.dropLast, p.read? c = none

/-- What the calls of a run ask for. -/
inductive Sends (p : Planner) (prompt : Prompt) : List (Call σ) → Prop where
  | plan {calls : List (Call σ)} (asks : p.AsksForPlan prompt calls) : Sends p prompt calls
  /-- The call behind a usable answer asks for a repair of the graph in the answer, and tells what
  is wrong with it. -/
  | repair {calls : List (Call σ)} {c : Call σ} {raw : String} {payload : Payload}
      {lines : List String} {request : Prompt} (asks : p.AsksForPlan prompt calls)
      (answer : calls.getLast?.bind p.read? = some (raw, payload))
      (requested : c.request = p.request c.family c.model request)
      (asksRepair : request.IsRepairOf prompt lines payload.graph.updated)
      (tells : payload.graph.updated.Tells p.manifest lines)
      (nonempty : lines ≠ []) :
      Sends p prompt (calls ++ [c])

variable {p : Planner} {prompt : Prompt} {task : Task} {families : List (Family σ)}
  {pairs : List (Family σ × String)} {calls : List (Call σ)} {found : Option (Family σ × Plan)}
  {plan : Plan}

/-- A search asks every model for a plan, and none for a repair. -/
theorem Search.asksForPlan (search : Search p prompt pairs calls found) :
    p.AsksForPlan prompt calls := by
  refine ⟨search.asked, fun c member => ?_⟩
  cases found with
  | none => exact search.of_none.2 c (List.dropLast_subset calls member)
  | some entry =>
      obtain ⟨tried, winner, -, -, rfl, unread, -⟩ := search.of_some
      rw [List.dropLast_concat] at member
      exact unread c member

theorem Generation.sends (generation : Generation p task families calls plan) :
    p.Sends task.prompt calls := by
  cases generation with
  | heuristic search => exact .plan search.asksForPlan
  | valid search _ => exact .plan search.asksForPlan
  | repaired search invalid _ requested =>
      have asks := search.asksForPlan
      obtain ⟨tried, winner, raw, payload, rfl, -, read, -, rfl⟩ := search.of_some
      have tells := payload.graph.updated.tells_repairLines p.manifest
      have answer : (tried ++ [winner]).getLast?.bind p.read? = some (raw, payload) := by
        rw [List.getLast?_concat]
        exact read
      exact .repair asks answer requested (Prompt.isRepairOf_iff.mpr rfl) tells
        (tells.ne_nil_iff.mpr invalid)

/-- The lines on a graph tell what is wrong with it, whatever the graph. A run asks for plans up to
the first usable answer, and in a call behind that, if there is one, for a repair: its request
repeats the one for the plan and goes on with the instructions, at least one and at most ten things
that are wrong with the graph in the answer, and the beginning of that graph. -/
theorem generate_tells (p : Planner) (task : Task) (families : List (Family σ)) (s : Progress σ) :
    (∀ (g : Graph) (m : Manifest), g.Tells m (g.validate m).repairLines) ∧
    ∃ calls, (p.generate task families s).2.calls = s.calls ++ calls ∧
      p.Sends task.prompt calls := by
  obtain ⟨calls, advances, generation⟩ := p.generate_advances task families s
  exact ⟨Graph.tells_repairLines, calls, advances.calls_eq, generation.sends⟩

end Planner

end Dataflow
