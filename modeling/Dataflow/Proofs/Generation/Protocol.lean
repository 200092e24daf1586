import Dataflow.Proofs.Generation.Search
import Dataflow.Proofs.Planning.Prompt

/-!
# The protocol of calls

Which calls a run makes, whatever the providers do: the models are tried in order, family
by family, up to the first usable answer, and a winner whose graph is not valid has it
repaired by the first model of its family, once. Hooks are taken to be quiet, so what is
sent is what was written and what is received is what was answered.
-/

namespace Dataflow

variable {σ : Type}

namespace Planner

/-- A call asks its model, of its family, with the texts of a prompt and the limits of the
settings. -/
def Asks (p : Planner) (c : Call σ) (prompt : Prompt) : Prop :=
  c.request = { Request.chat c.model prompt.system prompt.user with
    maxTokens? := some p.settings.maxTokens
    temperature? := some p.settings.temperature
    provider? := some c.family.name }

/-- The calls that a run may make. -/
inductive Protocol (p : Planner) (prompt : Prompt) (families : List (Family σ)) :
    List (Call σ) → Prop where
  /-- No answer was usable: every model was asked, once, and nothing was repaired. -/
  | exhausted {tried : List (Call σ)}
      (pairs : tried.map Call.attempt = attempts families)
      (asked : ∀ c ∈ tried, p.Asks c prompt)
      (unusable : ∀ c ∈ tried, ∀ payload, ¬ p.Usable c payload) :
      Protocol p prompt families tried
  /-- The last answer is the first usable one, and its graph is valid. -/
  | accepted {tried : List (Call σ)} {winner : Call σ} {payload : Payload}
      (pairs : (tried ++ [winner]).map Call.attempt <+: attempts families)
      (asked : ∀ c ∈ tried ++ [winner], p.Asks c prompt)
      (unusable : ∀ c ∈ tried, ∀ payload, ¬ p.Usable c payload)
      (usable : p.Usable winner payload)
      (valid : (payload.graph.updated.validate p.manifest).ok = true) :
      Protocol p prompt families (tried ++ [winner])
  /-- The first usable answer had an invalid graph, and the first model of its family was
  asked to repair it in view of what is wrong with it. -/
  | repaired {tried : List (Call σ)} {winner repair : Call σ} {payload : Payload}
      {request : Prompt}
      (pairs : (tried ++ [winner]).map Call.attempt <+: attempts families)
      (asked : ∀ c ∈ tried ++ [winner], p.Asks c prompt)
      (unusable : ∀ c ∈ tried, ∀ payload, ¬ p.Usable c payload)
      (usable : p.Usable winner payload)
      (invalid : (payload.graph.updated.validate p.manifest).ok = false)
      (family : repair.family = winner.family)
      (model : winner.family.models.head? = some repair.model)
      (asks : p.Asks repair request)
      (asksRepair : request.IsRepairOf prompt
        (payload.graph.updated.validate p.manifest).repairLines payload.graph.updated) :
      Protocol p prompt families (tried ++ [winner, repair])

variable {p : Planner} {prompt : Prompt} {pairs : List (Family σ × String)}
  {calls : List (Call σ)} {c : Call σ}

/-- Under quiet hooks the request of a call is the planner's own. -/
theorem asks_of_quiet (quiet : ∀ h ∈ p.hooks, h.Quiet)
    (asked : c.request = p.request c.family c.model prompt) : p.Asks c prompt := by
  rw [request, Hook.beforeAll_of_quiet quiet] at asked
  exact asked

theorem not_usable_of_quiet (quiet : ∀ h ∈ p.hooks, h.Quiet) (unread : p.read? c = none)
    (payload : Payload) : ¬ p.Usable c payload := by
  intro usable
  obtain ⟨raw, read⟩ := (read?_eq_some_iff quiet).mpr usable
  rw [unread] at read
  cases read

/-- A search that finds something, told without the hooks: the last call is the first
with a usable answer, and the graph found is that of its payload. -/
theorem Search.exists_winner {family : Family σ} {plan : Plan}
    (quiet : ∀ h ∈ p.hooks, h.Quiet)
    (search : Search p prompt pairs calls (some (family, plan))) :
    ∃ tried winner payload, calls = tried ++ [winner] ∧ winner.family = family ∧
      plan.graph = payload.graph.updated ∧ (∀ c ∈ tried, ∀ payload, ¬ p.Usable c payload) ∧
      p.Usable winner payload := by
  obtain ⟨tried, winner, raw, payload, rfl, unread, read, rfl, rfl⟩ := search.of_some
  exact ⟨tried, winner, payload, rfl, rfl, rfl,
    fun c member => not_usable_of_quiet quiet (unread c member),
    (read?_eq_some_iff quiet).mp ⟨raw, read⟩⟩

/-- The calls of a generation keep to the protocol. -/
theorem Generation.protocol {task : Task} {families : List (Family σ)} {plan : Plan}
    (quiet : ∀ h ∈ p.hooks, h.Quiet) (generation : Generation p task families calls plan) :
    Protocol p task.prompt families calls := by
  cases generation with
  | heuristic search =>
      obtain ⟨pairs, unread⟩ := search.of_none
      refine .exhausted pairs ?_ ?_
      · exact fun c member => asks_of_quiet quiet (search.asked c member)
      · exact fun c member => not_usable_of_quiet quiet (unread c member)
  | valid search ok =>
      have asked := fun c member => asks_of_quiet quiet (search.asked c member)
      have pairs := search.attempts_prefix
      obtain ⟨tried, winner, payload, rfl, -, graph, unusable, usable⟩ :=
        search.exists_winner quiet
      rw [graph] at ok
      exact .accepted pairs asked unusable usable ok
  | repaired search invalid first request =>
      have asked := fun c member => asks_of_quiet quiet (search.asked c member)
      have pairs := search.attempts_prefix
      obtain ⟨tried, winner, payload, rfl, family, graph, unusable, usable⟩ :=
        search.exists_winner quiet
      rw [graph] at invalid request
      rw [List.append_assoc, List.singleton_append]
      refine .repaired pairs asked unusable usable invalid family.symm ?_ ?_
        (Prompt.isRepairOf_iff.mpr rfl)
      · rw [family, first]
      · exact asks_of_quiet quiet request

namespace UnknownType

def planner : Planner := { manifest := {}, hooks := [.tally] }

def task : Task := { intent := "draw", summary := [] }

/-- Fails at first, and then answers with a node of a type that is in no manifest. -/
def answer : Nat → Except Failure Response
  | 0 => .error (.unauthorized "alpha")
  | _ => .ok {
    id := ""
    text := "\x7b\"nodes\": [\x7b\"id\": \"m\", \"type\": \"x\"\x7d], \"edges\": []\x7d"
    usage := {}
    model := "two"
    finishReason := .endTurn }

/-- A family without models, and one whose world counts the calls. -/
def families : List (Family Nat) :=
  [{ name := "empty", models := [], ask := fun _ world => (⟨0, answer world⟩, world) },
    { name := "alpha", models := ["one", "two", "three"]
      ask := fun _ world => (⟨0, answer world⟩, world + 1) }]

end UnknownType

end Planner

end Dataflow
