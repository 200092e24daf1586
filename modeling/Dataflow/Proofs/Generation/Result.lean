import Dataflow.Proofs.Generation.Outcome
import Dataflow.Proofs.Generation.Protocol
import Dataflow.Proofs.Text

/-!
# The plan of a run

A run ends with a plan whatever the providers do. Which plan is said here field by field, as a
function of the usable answers alone (`Planner.planFrom`): the first of them gives every field, a
second one, which can only be a repair, takes the place of the graph and of the raw output, and
without any the plan is that of the fixed rules.

* **non-interference**: answers that are not usable are no argument of that function, so two runs
  in which only those differ end with the same plan;
* **coherence**: the raw output in a plan holds the graph in the plan, but for former names of
  types (`planFrom_parses`).
-/

namespace Dataflow

variable {σ : Type}

/-! ## Notes -/

/-- Notes with one more behind them. -/
def withNote (notes note : String) : String :=
  if notes = "" then note else notes ++ " " ++ note

/-- Joined notes have no blanks at either end. -/
theorem trim_joinNotes (notes : List String) : trim (joinNotes notes) = joinNotes notes := by
  refine trim_intercalate " " fun part member => ?_
  obtain ⟨member, nonempty⟩ := List.mem_filter.mp member
  obtain ⟨note, -, rfl⟩ := List.mem_map.mp member
  exact ⟨trim_trim note, bne_iff_ne.mp nonempty⟩

/-- Joined notes are trimmed already, so that joining a note to them leaves them as they are. -/
theorem joinNotes_pair (notes : List String) {note : String} (trimmed : trim note = note)
    (nonempty : note ≠ "") :
    joinNotes [joinNotes notes, note] = withNote (joinNotes notes) note := by
  show " ".intercalate (List.filter _ [trim (joinNotes notes), trim note]) = _
  rw [trim_joinNotes, trimmed]
  -- no space goes before the first note
  by_cases empty : joinNotes notes = ""
  · simp [withNote, empty, nonempty]
  · simp [withNote, empty, nonempty, String.intercalate_cons_cons]

namespace Planner

section

variable {p : Planner} {task : Task} {families : List (Family σ)} {calls : List (Call σ)}
  {c : Call σ} {plan : Plan} {model raw : String} {payload : Payload}

/-! ## Usable answers -/

/-- The usable answers to some calls, in order: the model asked and the text of its answer. -/
def answers (p : Planner) (calls : List (Call σ)) : List (String × String) :=
  calls.filterMap fun c => (p.usable? c).map fun answer => (c.model, answer.1)

/-- Answers come in the order of the calls. -/
theorem answers_append (calls calls' : List (Call σ)) :
    p.answers (calls ++ calls') = p.answers calls ++ p.answers calls' :=
  List.filterMap_append

theorem answers_eq_nil (unusable : ∀ c ∈ calls, p.usable? c = none) : p.answers calls = [] := by
  refine List.filterMap_eq_nil_iff.mpr fun c member => ?_
  rw [unusable c member]
  rfl

theorem answers_singleton (usable : p.usable? c = some (raw, payload)) :
    p.answers [c] = [(c.model, raw)] := by
  simp [answers, usable]

/-! ## From answers to plans -/

/-- The plan of the answer of a model. -/
def planOf (model raw : String) : Option Plan := do
  let payload ← (Payload.parse raw).toOption
  return {
    graph := payload.graph.updated
    rawOutput? := some raw
    modelUsed := model
    proposedNodes := payload.proposedNodes
    alternatives := payload.alternatives
    notes := joinNotes [payload.notes, AliasUse.note payload.graph.aliasUses] }

/-- The plan of the usable answers of a run, in order. There is one if they hold payloads. -/
def planFrom (task : Task) : List (String × String) → Option Plan
  | [] => some {
      graph := heuristicPlan task.intent task.summary
      rawOutput? := none
      modelUsed := "heuristic"
      proposedNodes := []
      alternatives := []
      notes := "Model call failed; returned heuristic plan." }
  | [(model, raw)] => planOf model raw
  | (model, raw) :: (_, raw') :: _ => do
    let plan ← planOf model raw
    let repair ← (Payload.parse raw').toOption
    return { plan with
      graph := repair.graph
      rawOutput? := some raw'
      notes := withNote plan.notes "Applied one-shot repair from validator feedback." }

theorem planOf_eq (parsed : Payload.parse raw = .ok payload) :
    planOf model raw = some (.ofPayload model raw payload) := by
  rw [planOf, parsed]
  rfl

/-- Two answers make the plan of the first, with the graph of the second. -/
theorem planFrom_repaired {model' raw' : String} {payload' : Payload}
    (parsed : Payload.parse raw = .ok payload) (parsed' : Payload.parse raw' = .ok payload') :
    planFrom task [(model, raw), (model', raw')] =
      some ((Plan.ofPayload model raw payload).repairedBy raw' payload') := by
  have trimmed : trim Plan.repairNote = Plan.repairNote := by decide +kernel
  have notes := joinNotes_pair [payload.notes, AliasUse.note payload.graph.aliasUses] trimmed
    (by decide)
  simp only [planFrom, planOf_eq parsed, parsed', Except.toOption, Option.bind_eq_bind,
    Option.bind_some, Option.pure_def, Plan.repairedBy, Plan.ofPayload, notes]
  rfl

/-- Only the text of a payload makes a plan, and the payload is the one in it. -/
theorem planOf_eq_some (made : planOf model raw = some plan) :
    ∃ payload, Payload.parse raw = .ok payload ∧ plan = .ofPayload model raw payload := by
  obtain ⟨payload, parsed, made⟩ := Option.bind_eq_some_iff.mp made
  cases made
  exact ⟨payload, toOption_eq_some_iff.mp parsed, rfl⟩

/-- Every plan with a raw output has the graph that is read from it. -/
theorem planFrom_parses {answers : List (String × String)}
    (made : planFrom task answers = some plan) (present : plan.rawOutput? = some raw) :
    ∃ payload, Payload.parse raw = .ok payload ∧ payload.graph.UpdatesTo plan.graph := by
  match answers with
  | [] =>
      cases made
      cases present
  | [(model, first)] =>
      obtain ⟨payload, parsed, rfl⟩ := planOf_eq_some made
      cases present
      exact ⟨payload, parsed, payload.graph.updatesTo_updated⟩
  | (model, first) :: (_, second) :: _ =>
      simp only [planFrom, Option.bind_eq_bind, Option.bind_eq_some_iff] at made
      obtain ⟨_, -, payload, parsed, made⟩ := made
      cases made
      cases present
      exact ⟨payload, toOption_eq_some_iff.mp parsed, .refl payload.graph⟩

/-- A search that finds something has one usable answer, and plans with it. -/
theorem Search.answers_eq {prompt : Prompt} {pairs : List (Family σ × String)} {family : Family σ}
    (quiet : ∀ h ∈ p.hooks, h.Quiet)
    (search : Search p prompt pairs calls (some (family, plan))) :
    ∃ model raw payload, p.answers calls = [(model, raw)] ∧ Payload.parse raw = .ok payload ∧
      plan = .ofPayload model raw payload := by
  obtain ⟨tried, winner, raw, payload, rfl, unread, read, -, made⟩ := search.of_some
  refine ⟨winner.model, raw, payload, ?_, parse_of_read? read, made⟩
  simp only [read?_of_quiet quiet] at unread read
  rw [answers_append, answers_eq_nil unread, answers_singleton read, List.nil_append]

/-- A generation ends with the plan of its usable answers. -/
theorem Generation.planFrom_answers (quiet : ∀ h ∈ p.hooks, h.Quiet)
    (generation : Generation p task families calls plan) :
    planFrom task (p.answers calls) = some plan := by
  cases generation with
  | heuristic search =>
      have unread := search.of_none.2
      simp only [read?_of_quiet quiet] at unread
      rw [answers_eq_nil unread]
      rfl
  | valid search _ =>
      obtain ⟨model, raw, payload, answers, parsed, rfl⟩ := search.answers_eq quiet
      rw [answers]
      exact planOf_eq parsed
  | @repaired calls plan repair search _ _ _ =>
      obtain ⟨model, raw, payload, answers, parsed, rfl⟩ := search.answers_eq quiet
      rw [answers_append, answers]
      cases answer : p.read? repair with
      | none =>
          -- the call is there, but without a second answer the plan is that of the first
          rw [read?_of_quiet quiet] at answer
          rw [answers_eq_nil (by simpa using answer), List.append_nil]
          exact planOf_eq parsed
      | some found =>
          have parsed' := parse_of_read? answer
          rw [read?_of_quiet quiet] at answer
          rw [answers_singleton answer]
          exact planFrom_repaired parsed parsed'

/-- What a run ends with, whatever the providers answer. Its calls keep to the protocol, its plan
is that of their usable answers, and every run with the same usable answers ends with the same
plan, whichever answers it had beside them. -/
theorem generate_result (p : Planner) (quiet : ∀ h ∈ p.hooks, h.Quiet) (task : Task)
    (families : List (Family σ)) (s : Progress σ) :
    ∃ calls, (p.generate task families s).2.calls = s.calls ++ calls ∧
      Protocol p task.prompt families calls ∧
      let plan := (p.generate task families s).1
      planFrom task (p.answers calls) = some plan ∧
      (∀ raw, plan.rawOutput? = some raw →
        ∃ payload, Payload.parse raw = .ok payload ∧ payload.graph.UpdatesTo plan.graph) ∧
      ∀ {τ : Type} (families' : List (Family τ)) (s' : Progress τ) (calls' : List (Call τ)),
        (p.generate task families' s').2.calls = s'.calls ++ calls' →
        p.answers calls' = p.answers calls → (p.generate task families' s').1 = plan := by
  obtain ⟨calls, advances, generation⟩ := p.generate_advances task families s
  have made := generation.planFrom_answers quiet
  refine ⟨calls, advances.calls_eq, generation.protocol quiet, made, fun _ => planFrom_parses made,
    ?_⟩
  intro τ families' s' calls' added same
  -- the other run is a generation too, so its plan is the same function of the same answers
  obtain ⟨calls'', advances', generation'⟩ := p.generate_advances task families' s'
  obtain rfl : calls'' = calls' := List.append_cancel_left (advances'.calls_eq.symm.trans added)
  have made' := generation'.planFrom_answers quiet
  rw [same, made] at made'
  exact (Option.some.inj made').symm

end

/-! ## Two runs with the same usable answers -/

namespace Detour

def planner : Planner := { manifest := {}, hooks := [.tally] }

def task : Task := { intent := "draw", summary := [] }

/-- A node of a type that is in no manifest, so that a repair is asked for. -/
def draft : String := "\x7b\"nodes\": [\x7b\"id\": \"m\", \"type\": \"x\"\x7d], \"edges\": []\x7d"

def correction : String := "\x7b\"nodes\": [], \"edges\": [], \"notes\": \"gone\"\x7d"

/-- Fails in the world 0 and answers without a plan in the world 1; both lead to the world 2. -/
def answer : Nat → Except Failure String
  | 0 => .error (.unauthorized "alpha")
  | 1 => .ok "no plan"
  | 2 => .ok draft
  | _ => .ok correction

def families : List (Family Nat) :=
  [{ name := "alpha"
     models := ["one", "two"]
     ask := fun _ world =>
      (⟨0, (answer world).map fun text =>
        { id := "", text, usage := {}, model := "one", finishReason := .endTurn }⟩,
        max 2 (world + 1)) }]

/-- The run from a world. -/
def run (world : Nat) : Plan × Progress Nat := planner.generate task families { world }

theorem run_ignores_unusable :
    (∀ h ∈ planner.hooks, h.Quiet) ∧
    (run 0).2.calls.map (·.reply.result.isOk) = [false, true, true] ∧
    (run 1).2.calls.map (·.reply.result.isOk) = [true, true, true] ∧
    planFrom task [("two", draft), ("one", correction)] = some (run 0).1 ∧
    (run 1).1 = (run 0).1 := by
  have quiet : ∀ h ∈ planner.hooks, h.Quiet := by
    rintro h (_ | ⟨_, ⟨⟩⟩)
    exact Hook.quiet_tally
  have answers : planner.answers (run 0).2.calls = [("two", draft), ("one", correction)] := by
    decide +kernel
  have answers' : planner.answers (run 1).2.calls = [("two", draft), ("one", correction)] := by
    decide +kernel
  obtain ⟨calls, rfl, -, made, -, alike⟩ :=
    planner.generate_result quiet task families { world := 0 }
  refine ⟨quiet, by decide +kernel, by decide +kernel, answers ▸ made, ?_⟩
  exact alike families { world := 1 } (run 1).2.calls rfl (answers'.trans answers.symm)

end Detour

end Planner

end Dataflow
