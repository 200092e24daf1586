import Dataflow.Proofs.Generation.Search
import Dataflow.Proofs.Planning.Aliases

/-!
# What a plan is made of

A run reads at most two usable answers: the one that ends its search, and the answer to a
request for repair. `Planner.Outcome` lists them beside the plan, and `generate_outcome` says
that every run ends in one of three ways.

The first answer is brought up to date before it is checked. The answer to the request for
repair is not: its graph is in the plan as it was read, former names included.
-/

namespace Dataflow

variable {σ : Type}

namespace Planner

section

variable {p : Planner} {task : Task} {prompt : Prompt} {families : List (Family σ)}
  {calls : List (Call σ)} {plan : Plan} {family : Family σ}

/-- The usable answers of a run, in order, and the plan that it ends with. -/
inductive Outcome (p : Planner) (task : Task) : List (String × Payload) → Plan → Prop where
  | heuristic : Outcome p task [] (.ofHeuristic task.intent task.summary Plan.failureNote)
  | answered (model raw : String) (payload : Payload) :
      Outcome p task [(raw, payload)] (.ofPayload model raw payload)
  | repaired (model raw raw' : String) (payload payload' : Payload)
      (invalid : (payload.graph.updated.validate p.manifest).ok = false) :
      Outcome p task [(raw, payload), (raw', payload')]
        ((Plan.ofPayload model raw payload).repairedBy raw' payload')

/-- What the planner reads of a call is a text together with its payload. -/
theorem parse_of_read? {c : Call σ} {raw : String} {payload : Payload}
    (read : p.read? c = some (raw, payload)) : Payload.parse raw = .ok payload := by
  unfold read? at read
  split at read
  · cases read
  · obtain ⟨found, parsed, made⟩ := Option.map_eq_some_iff.mp read
    cases made
    exact toOption_eq_some_iff.mp parsed

/-- A search that finds something reads one usable answer, and plans with it. -/
theorem Search.answers_of_some {pairs : List (Family σ × String)}
    (search : Search p prompt pairs calls (some (family, plan))) :
    ∃ model raw payload, calls.filterMap p.read? = [(raw, payload)] ∧
      plan = .ofPayload model raw payload := by
  obtain ⟨tried, winner, raw, payload, rfl, unread, read, -, made⟩ := search.of_some
  refine ⟨winner.model, raw, payload, ?_, made⟩
  rw [List.filterMap_append, List.filterMap_eq_nil_iff.mpr unread, List.nil_append,
    List.filterMap_cons_some read, List.filterMap_nil]

theorem Generation.outcome (generation : Generation p task families calls plan) :
    Outcome p task (calls.filterMap p.read?) plan := by
  cases generation with
  | heuristic search =>
      rw [List.filterMap_eq_nil_iff.mpr search.of_none.2]
      exact .heuristic
  | valid search _ =>
      obtain ⟨model, raw, payload, answers, rfl⟩ := search.answers_of_some
      rw [answers]
      exact .answered model raw payload
  | @repaired calls plan c search invalid _ _ =>
      obtain ⟨model, raw, payload, answers, rfl⟩ := search.answers_of_some
      rw [List.filterMap_append, answers]
      cases read : p.read? c with
      | none =>
          rw [List.filterMap_cons_none read]
          exact .answered model raw payload
      | some answer =>
          rw [List.filterMap_cons_some read]
          exact .repaired model raw answer.1 payload answer.2 invalid

/-- Every run ends in one of the three ways. -/
theorem generate_outcome (p : Planner) (task : Task) (families : List (Family σ))
    (s : Progress σ) :
    ∃ calls, s.Advances p calls (p.generate task families s).2 ∧
      Outcome p task (calls.filterMap p.read?) (p.generate task families s).1 := by
  obtain ⟨calls, advances, generation⟩ := p.generate_advances task families s
  exact ⟨calls, advances, generation.outcome⟩

/-- The graph of a plan is that of the last usable answer. It is up to date when that was the
only one; when it came in a second call, as a repair, it is the graph as it was read, and so
up to date only if the model used no former names. -/
theorem generate_graph (p : Planner) (task : Task) (families : List (Family σ))
    (s : Progress σ) :
    ∃ calls, (p.generate task families s).2.calls = s.calls ++ calls ∧
      let plan := (p.generate task families s).1
      (calls.filterMap p.read? = [] ∧ plan.rawOutput? = none) ∨
      ∃ earlier raw payload, calls.filterMap p.read? = earlier ++ [(raw, payload)] ∧
        plan.rawOutput? = some raw ∧ Payload.parse raw = .ok payload ∧
        ((earlier = [] ∧ plan.graph = payload.graph.updated ∧ plan.graph.IsUpToDate) ∨
          (earlier.length = 1 ∧ plan.graph = payload.graph ∧
            (plan.graph = payload.graph.updated ↔ plan.graph.IsUpToDate))) := by
  obtain ⟨calls, advances, outcome⟩ := p.generate_outcome task families s
  refine ⟨calls, advances.calls_eq, ?_⟩
  have parses : ∀ answer ∈ calls.filterMap p.read?, Payload.parse answer.1 = .ok answer.2 := by
    intro answer member
    obtain ⟨c, -, read⟩ := List.mem_filterMap.mp member
    exact parse_of_read? read
  dsimp only
  generalize calls.filterMap p.read? = answers at outcome parses
  generalize (p.generate task families s).1 = plan at outcome
  cases outcome with
  | heuristic => exact Or.inl ⟨rfl, rfl⟩
  | answered model raw payload =>
      refine Or.inr ⟨[], raw, payload, rfl, rfl, parses _ List.mem_cons_self, Or.inl ?_⟩
      exact ⟨rfl, rfl, payload.graph.updated_isUpToDate⟩
  | repaired model raw raw' payload payload' invalid =>
      refine Or.inr ⟨[(raw, payload)], raw', payload', rfl, rfl,
        parses _ (List.mem_append_right [_] List.mem_cons_self), Or.inr ⟨rfl, rfl, ?_⟩⟩
      show payload'.graph = payload'.graph.updated ↔ payload'.graph.IsUpToDate
      rw [eq_comm, Graph.updated_eq_self_iff]

end

/-! ## A repair under a former name -/

namespace FormerName

def planner : Planner := { manifest := {} }

def task : Task := { intent := "draw", summary := [] }

/-- Answers with a node of a type that is in no manifest, and then with one that goes by a
former name. -/
def answer : Nat → String
  | 0 => "\x7b\"nodes\": [\x7b\"id\": \"m\", \"type\": \"x\"\x7d], \"edges\": []\x7d"
  | _ => "\x7b\"nodes\": [\x7b\"id\": \"p\", \"type\": \"promptInput\"\x7d], \"edges\": []\x7d"

/-- A family whose world counts the calls. -/
def families : List (Family Nat) :=
  [{ name := "alpha"
     models := ["one"]
     ask := fun _ world => (⟨0, .ok {
       id := ""
       text := answer world
       usage := {}
       model := "one"
       finishReason := .endTurn }⟩, world + 1) }]

def plan : Plan := (planner.generate task families { world := 0 }).1

theorem repair_keeps_former_name :
    plan.rawOutput? = some (answer 1) ∧ plan.graph.nodes.map (·.type) = ["promptInput"] ∧
    ¬ plan.graph.IsUpToDate ∧
    ∃ payload, Payload.parse (answer 1) = .ok payload ∧ plan.graph ≠ payload.graph.updated := by
  have types : plan.graph.nodes.map (·.type) = ["promptInput"] := by decide +kernel
  have outdated : ¬ plan.graph.IsUpToDate := by
    intro upToDate
    have member : "promptInput" ∈ plan.graph.nodes.map (·.type) := types ▸ List.mem_cons_self
    obtain ⟨n, known, type⟩ := List.mem_map.mp member
    exact upToDate n known ⟨"promptInput", "textInput"⟩ List.mem_cons_self type
  refine ⟨by decide +kernel, types, outdated, ?_⟩
  cases parsed : Payload.parse (answer 1) with
  | error cause =>
      have usable : (Payload.parse (answer 1)).isOk = true := by decide +kernel
      rw [parsed] at usable
      cases usable
  | ok payload =>
      refine ⟨payload, rfl, fun same => outdated ?_⟩
      rw [same]
      exact payload.graph.updated_isUpToDate

end FormerName

end Planner

end Dataflow
