import Dataflow.Chat
import Dataflow.Double.Basic
import Dataflow.Generation.Plan
import Dataflow.Planning.Payload
import Dataflow.Planning.Prompt
import Dataflow.Provider.Exchange

/-!
# Generating plans

Models are called one after another until an answer is usable, and a graph that is not valid is
repaired once. When no answer is usable the plan is one of the fixed rules, so there is always a
plan.
-/

namespace Dataflow

/-!
## Calls to models

A family is a provider with models to try on it. What a provider answers may
depend on everything before: the world is a state that every call changes. An
answer after the time limit counts as none.
-/

/-- A provider and the models to try on it, in order. -/
structure Family (σ : Type) where
  name : String
  models : List String
  ask : Request → σ → Reply × σ

/-- Limits on a call, and the temperature asked for. -/
structure Settings where
  timeoutMs : UInt64 := 60000
  temperature : Temperature := .ofDouble ((Double.ofDecimal? false 2 (-1)).getD (.zero false))
  maxTokens : UInt32 := 1200

/-- A call that was made: the model that it was made for, the request as the provider
got it, and what came of it. -/
structure Call (σ : Type) where
  family : Family σ
  model : String
  request : Request
  reply : Reply

/-- How far a run has come: the world, the tally, and the calls made, in order. -/
structure Progress (σ : Type) where
  world : σ
  tally : Tally := {}
  calls : List (Call σ) := []

/-- What plans are made with: the manifest that they are checked against, settings,
and hooks around every call. -/
structure Planner where
  manifest : Manifest
  settings : Settings := {}
  hooks : List Hook := []

namespace Planner

variable {σ : Type}

/-- The request for a model of a family, as the provider gets it. -/
def request (p : Planner) (family : Family σ) (model : String) (prompt : Prompt) : Request :=
  Hook.beforeAll p.hooks { Request.chat model prompt.system prompt.user with
    maxTokens? := some p.settings.maxTokens
    temperature? := some p.settings.temperature
    provider? := some family.name }

/-- What a reply is worth: nothing after the time limit. -/
def received (p : Planner) (family : Family σ) (reply : Reply) : Except Failure Response :=
  if reply.delayMs ≤ p.settings.timeoutMs then reply.result
  else .error (.timedOut family.name p.settings.timeoutMs)

/-- Calls a model; the text of the answer if there is one. -/
def call (p : Planner) (family : Family σ) (model : String) (prompt : Prompt)
    (s : Progress σ) : Except Failure String × Progress σ :=
  let request := p.request family model prompt
  let (reply, world) := family.ask request s.world
  let calls := s.calls ++ [⟨family, model, request, reply⟩]
  match p.received family reply with
  | .error failure => (.error failure, { world, tally := s.tally, calls })
  | .ok response =>
    let (response, tally) := Hook.afterAll p.hooks request response s.tally
    (.ok response.text, { world, tally, calls })

/-- Calls a model; the raw text and the payload of a usable answer. -/
def answer? (p : Planner) (family : Family σ) (model : String) (prompt : Prompt)
    (s : Progress σ) : Option (String × Payload) × Progress σ :=
  match p.call family model prompt s with
  | (.error _, s) => (none, s)
  | (.ok raw, s) =>
    match Payload.parse raw with
    | .error _ => (none, s)
    | .ok payload => (some (raw, payload), s)

end Planner

/-!
## Runs

Families are tried in order, and the models of each, until an answer is usable.
If its graph is not valid, the first model of that family is asked once to
repair it. When no answer is usable the plan is one of the fixed rules, so there
always is a plan.
-/

/-- What a plan is wanted for: an intent, the node types to plan with, and perhaps a
graph to start from. -/
structure Task where
  intent : String
  summary : Summary
  current? : Option Graph := none

def Task.prompt (t : Task) : Prompt :=
  (((Draft.ofIntent t.intent).withManifest t.summary).withCurrent t.current?).build

namespace Planner

variable {σ : Type}

/-- The plan of the first of some models of a family whose answer is usable. -/
def tryModels (p : Planner) (family : Family σ) (prompt : Prompt) :
    List String → Progress σ → Option Plan × Progress σ
  | [], s => (none, s)
  | model :: rest, s =>
    match p.answer? family model prompt s with
    | (some (raw, payload), s) => (some (.ofPayload model raw payload), s)
    | (none, s) => p.tryModels family prompt rest s

/-- The plan of the first of some families with a usable answer, and the family. -/
def tryFamilies (p : Planner) (prompt : Prompt) :
    List (Family σ) → Progress σ → Option (Family σ × Plan) × Progress σ
  | [], s => (none, s)
  | family :: rest, s =>
    match p.tryModels family prompt family.models s with
    | (some plan, s) => (some (family, plan), s)
    | (none, s) => p.tryFamilies prompt rest s

/-- Has an invalid plan repaired by the first model of its family. What comes back is
not checked again; without a usable answer the plan stays as it is. -/
def repair (p : Planner) (family : Family σ) (prompt : Prompt) (plan : Plan)
    (s : Progress σ) : Plan × Progress σ :=
  let report := plan.graph.validate p.manifest
  match report.ok, family.models with
  | true, _ | false, [] => (plan, s)
  | false, model :: _ =>
    match p.answer? family model (prompt.repair report.repairLines plan.graph) s with
    | (some (raw, payload), s) => (plan.repairedBy raw payload, s)
    | (none, s) => (plan, s)

/-- Makes a plan with some families. -/
def generate (p : Planner) (task : Task) (families : List (Family σ)) (s : Progress σ) :
    Plan × Progress σ :=
  match p.tryFamilies task.prompt families s with
  | (some (family, plan), s) => p.repair family task.prompt plan s
  | (none, s) => (.ofHeuristic task.intent task.summary Plan.failureNote, s)

end Planner

/-- A world that services are asked in, and whether the usage in an answer overflowed. -/
structure Session (σ : Type) where
  world : σ
  overflowed : Bool := false

/-- The family of a service reached over a network. An answer that comes within the time
limit is read, and one whose usage overflows ends the session: nothing is sent in it any
more. -/
def ServiceFamily.over {σ : Type} (f : ServiceFamily) (transport : Transport σ)
    (timeoutMs : UInt64) : Family (Session σ) where
  name := f.name
  models := f.models
  ask q s :=
    let silent : Except Failure Response := .error f.service.provider.unreachable
    if s.overflowed then (⟨0, silent⟩, s)
    else
      match f.service.ask transport q s.world with
      | (delayMs, some result, world) => (⟨delayMs, result⟩, { world })
      | (delayMs, none, world) =>
        (⟨delayMs, silent⟩, { world, overflowed := delayMs ≤ timeoutMs })

/-- Makes a plan with the families that the credentials and a preference give. When the
session ends before, there is none, but only the world that it ended in. -/
def Planner.generateWith {σ : Type} (p : Planner) (task : Task) (credentials : Credentials)
    (preference : Preference) (transport : Transport σ) (s : Progress (Session σ)) :
    Except σ (Plan × Progress (Session σ)) :=
  match credentials.families preference with
  | [] =>
    .ok (.ofHeuristic task.intent task.summary (Plan.missingKeysNote preference.missingKeys), s)
  | families =>
    let (plan, s) :=
      p.generate task (families.map (·.over transport p.settings.timeoutMs)) s
    if s.world.overflowed then .error s.world.world else .ok (plan, s)

end Dataflow
