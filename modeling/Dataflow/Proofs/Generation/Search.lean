import Dataflow.Generation.Generate
import Dataflow.Proofs.Generation.Calls

/-!
# The calls of a run

Families and their models form one list of attempts. A search goes through the list
call by call and stops at the first answer that it can read; a generation is a search
and perhaps one call more. `Planner.Search` and `Planner.Generation` say so of the calls
alone, and `generate_advances` says that every run is one: what a run called, and with
what plan it ended, is then a question about these two relations.
-/

namespace Dataflow

variable {σ : Type}

/-- The models to try, family by family. -/
def attempts (families : List (Family σ)) : List (Family σ × String) :=
  families.flatMap fun family => family.models.map (family, ·)

/-- The attempts are the models of each family on that family. -/
theorem mem_attempts {families : List (Family σ)} {family : Family σ} {model : String} :
    (family, model) ∈ attempts families ↔ family ∈ families ∧ model ∈ family.models := by
  simp only [attempts, List.mem_flatMap, List.mem_map, Prod.mk.injEq]
  constructor
  · rintro ⟨_, member, _, held, rfl, rfl⟩
    exact ⟨member, held⟩
  · rintro ⟨member, held⟩
    exact ⟨family, member, model, held, rfl, rfl⟩

/-- The attempt that a call is. -/
def Call.attempt (c : Call σ) : Family σ × String := (c.family, c.model)

namespace Planner

/-- The calls of a search through a list of attempts, and what it found. -/
inductive Search (p : Planner) (prompt : Prompt) :
    List (Family σ × String) → List (Call σ) → Option (Family σ × Plan) → Prop where
  | exhausted : Search p prompt [] [] none
  | usable {c : Call σ} {rest : List (Family σ × String)} {raw : String} {payload : Payload}
      (asked : c.request = p.request c.family c.model prompt)
      (read : p.read? c = some (raw, payload)) :
      Search p prompt (c.attempt :: rest) [c] (some (c.family, .ofPayload c.model raw payload))
  | unusable {c : Call σ} {rest : List (Family σ × String)} {calls : List (Call σ)}
      {found : Option (Family σ × Plan)}
      (asked : c.request = p.request c.family c.model prompt)
      (read : p.read? c = none)
      (onward : Search p prompt rest calls found) :
      Search p prompt (c.attempt :: rest) (c :: calls) found

/-- The calls of a generation, and the plan made. -/
inductive Generation (p : Planner) (task : Task) (families : List (Family σ)) :
    List (Call σ) → Plan → Prop where
  | heuristic {calls : List (Call σ)}
      (search : Search p task.prompt (attempts families) calls none) :
      Generation p task families calls (.ofHeuristic task.intent task.summary Plan.failureNote)
  | valid {calls : List (Call σ)} {family : Family σ} {plan : Plan}
      (search : Search p task.prompt (attempts families) calls (some (family, plan)))
      (ok : (plan.graph.validate p.manifest).ok = true) :
      Generation p task families calls plan
  | repaired {calls : List (Call σ)} {plan : Plan} {c : Call σ}
      (search : Search p task.prompt (attempts families) calls (some (c.family, plan)))
      (invalid : (plan.graph.validate p.manifest).ok = false)
      (first : c.family.models.head? = some c.model)
      (asked : c.request = p.request c.family c.model
        (task.prompt.repair (plan.graph.validate p.manifest).repairLines plan.graph)) :
      Generation p task families (calls ++ [c])
        (match p.read? c with
        | some (raw, payload) => plan.repairedBy raw payload
        | none => plan)

variable {p : Planner} {prompt : Prompt} {pairs pairs' : List (Family σ × String)}
  {calls calls' : List (Call σ)} {found : Option (Family σ × Plan)} {family : Family σ}
  {plan : Plan}

/-! ## Searches -/

namespace Search

-- The inductions are on the list of attempts: whether a search has found something is an
-- index of the relation, so an induction on the search would have to carry it along.

/-- A search that finds nothing goes on behind its list. -/
theorem append (nothing : Search p prompt pairs calls none)
    (onward : Search p prompt pairs' calls' found) :
    Search p prompt (pairs ++ pairs') (calls ++ calls') found := by
  induction pairs generalizing calls with
  | nil =>
      cases nothing
      exact onward
  | cons pair rest ih =>
      cases nothing with
      | unusable asked read later => exact .unusable asked read (ih later)

/-- A search that finds something never looks behind its list. -/
theorem append_of_some (something : Search p prompt pairs calls (some (family, plan)))
    (pairs' : List (Family σ × String)) :
    Search p prompt (pairs ++ pairs') calls (some (family, plan)) := by
  induction pairs generalizing calls with
  | nil => cases something
  | cons pair rest ih =>
      cases something with
      | usable asked read => exact .usable asked read
      | unusable asked read later => exact .unusable asked read (ih later)

/-- Every call of a search puts the same prompt to its model. -/
theorem asked (search : Search p prompt pairs calls found) :
    ∀ c ∈ calls, c.request = p.request c.family c.model prompt := by
  induction search with
  | exhausted => simp
  | usable asked _ => simpa using asked
  | unusable asked _ _ ih => exact List.forall_mem_cons.mpr ⟨asked, ih⟩

/-- A search makes its attempts in order, each once. -/
theorem attempts_prefix (search : Search p prompt pairs calls found) :
    calls.map Call.attempt <+: pairs := by
  induction search with
  | exhausted => exact List.prefix_rfl
  | usable _ _ => exact ⟨_, rfl⟩
  | unusable _ _ _ ih => exact (List.prefix_cons_inj _).mpr ih

/-- A search that finds nothing makes all attempts, and none is usable. -/
theorem of_none (search : Search p prompt pairs calls none) :
    calls.map Call.attempt = pairs ∧ ∀ c ∈ calls, p.read? c = none := by
  induction pairs generalizing calls with
  | nil =>
      cases search
      exact ⟨rfl, by simp⟩
  | cons pair rest ih =>
      cases search with
      | unusable _ read later =>
          obtain ⟨made, unread⟩ := ih later
          exact ⟨congrArg (_ :: ·) made, List.forall_mem_cons.mpr ⟨read, unread⟩⟩

/-- A search that finds something ends at the first usable answer. -/
theorem of_some (search : Search p prompt pairs calls (some (family, plan))) :
    ∃ tried winner raw payload, calls = tried ++ [winner] ∧ (∀ c ∈ tried, p.read? c = none) ∧
      p.read? winner = some (raw, payload) ∧ winner.family = family ∧
      plan = .ofPayload winner.model raw payload := by
  induction pairs generalizing calls with
  | nil => cases search
  | cons pair rest ih =>
      cases search with
      | @usable c _ raw payload _ read => exact ⟨[], c, raw, payload, rfl, by simp, read, rfl, rfl⟩
      | @unusable c _ _ _ _ read later =>
          obtain ⟨tried, winner, raw, payload, rfl, unread, found⟩ := ih later
          exact ⟨c :: tried, winner, raw, payload, rfl,
            List.forall_mem_cons.mpr ⟨read, unread⟩, found⟩

theorem family_mem {families : List (Family σ)}
    (search : Search p prompt (attempts families) calls found) :
    ∀ c ∈ calls, c.family ∈ families := by
  intro c member
  have made := search.attempts_prefix.subset (List.mem_map_of_mem member)
  exact (mem_attempts.mp made).1

/-- A family that something was found in has models. -/
theorem exists_model {families : List (Family σ)}
    (search : Search p prompt (attempts families) calls (some (family, plan))) :
    ∃ model models, family.models = model :: models := by
  obtain ⟨tried, winner, -, -, rfl, -, -, rfl, -⟩ := search.of_some
  have made : winner.attempt ∈ (tried ++ [winner]).map Call.attempt :=
    List.mem_map_of_mem (List.mem_append_right tried List.mem_cons_self)
  have held := (mem_attempts.mp (search.attempts_prefix.subset made)).2
  exact List.exists_cons_of_ne_nil (List.ne_nil_of_mem held)

end Search

/-- Only the families that are given are called. -/
theorem Generation.family_mem {task : Task} {families : List (Family σ)}
    (generation : Generation p task families calls plan) : ∀ c ∈ calls, c.family ∈ families := by
  cases generation with
  | heuristic search => exact search.family_mem
  | valid search _ => exact search.family_mem
  | repaired search _ _ _ =>
      have tried := search.family_mem
      obtain ⟨_, winner, -, -, rfl, -, -, same, -⟩ := search.of_some
      intro c member
      rcases List.mem_append.mp member with before | last
      · exact tried c before
      · rw [List.mem_singleton.mp last, ← same]
        exact tried winner (List.mem_append_right _ List.mem_cons_self)

/-! ## Runs are generations -/

/-- Trying the models of a family is a search over them, call by call. -/
theorem tryModels_advances (p : Planner) (family : Family σ) (prompt : Prompt)
    (models : List String) (s : Progress σ) :
    ∃ calls, s.Advances p calls (p.tryModels family prompt models s).2 ∧
      Search p prompt (models.map (family, ·)) calls
        ((p.tryModels family prompt models s).1.map (family, ·)) := by
  induction models generalizing s with
  | nil => exact ⟨[], .refl p s, .exhausted⟩
  | cons model rest ih =>
      let c := p.callIn family model prompt s.world
      have step := Progress.Advances.call p family model prompt s
      rw [tryModels, answer?_eq]
      cases read : p.read? c with
      | some answer => exact ⟨[c], step, .usable (c := c) rfl read⟩
      | none =>
          obtain ⟨calls, onward, search⟩ := ih (p.after s c)
          exact ⟨c :: calls, step.trans onward, .unusable (c := c) rfl read search⟩

/-- Trying the families is one search over all attempts, family by family. -/
theorem tryFamilies_advances (p : Planner) (prompt : Prompt) (families : List (Family σ))
    (s : Progress σ) :
    ∃ calls, s.Advances p calls (p.tryFamilies prompt families s).2 ∧
      Search p prompt (attempts families) calls (p.tryFamilies prompt families s).1 := by
  induction families generalizing s with
  | nil => exact ⟨[], .refl p s, .exhausted⟩
  | cons family rest ih =>
      obtain ⟨calls, step, search⟩ := p.tryModels_advances family prompt family.models s
      unfold tryFamilies
      cases tried : p.tryModels family prompt family.models s with
      | mk found s' =>
          rw [tried] at step search
          cases found with
          | some plan => exact ⟨calls, step, search.append_of_some (attempts rest)⟩
          | none =>
              obtain ⟨calls', onward, search'⟩ := ih s'
              exact ⟨calls ++ calls', step.trans onward, search.append search'⟩

/-- A plan with a valid graph is not repaired. -/
theorem repair_of_ok (ok : (plan.graph.validate p.manifest).ok = true) (s : Progress σ) :
    p.repair family prompt plan s = (plan, s) := by
  simp only [repair, ok]

/-- For a plan with an invalid graph the first model of its family is called once, and an answer
that cannot be used leaves the plan as it is. -/
theorem repair_of_invalid {model : String} {models : List String} {s : Progress σ} {c : Call σ}
    (invalid : (plan.graph.validate p.manifest).ok = false)
    (known : family.models = model :: models)
    (call : c = p.callIn family model
      (prompt.repair (plan.graph.validate p.manifest).repairLines plan.graph) s.world) :
    p.repair family prompt plan s =
      (match p.read? c with
        | some (raw, payload) => plan.repairedBy raw payload
        | none => plan, p.after s c) := by
  simp only [repair, invalid, known, answer?_eq, ← call]
  cases p.read? c with
  | none => rfl
  | some answer => rfl

/-- Every run is a generation: what it called, it called one after another. -/
theorem generate_advances (p : Planner) (task : Task) (families : List (Family σ))
    (s : Progress σ) :
    ∃ calls, s.Advances p calls (p.generate task families s).2 ∧
      Generation p task families calls (p.generate task families s).1 := by
  obtain ⟨calls, step, search⟩ := p.tryFamilies_advances task.prompt families s
  unfold generate
  cases tried : p.tryFamilies task.prompt families s with
  | mk found s' =>
      rw [tried] at step search
      cases found with
      | none => exact ⟨calls, step, .heuristic search⟩
      | some entry =>
          obtain ⟨family, plan⟩ := entry
          dsimp only
          cases ok : (plan.graph.validate p.manifest).ok with
          | true =>
              rw [repair_of_ok ok]
              exact ⟨calls, step, .valid search ok⟩
          | false =>
              obtain ⟨model, models, known⟩ := search.exists_model
              let c := p.callIn family model
                (task.prompt.repair (plan.graph.validate p.manifest).repairLines plan.graph)
                s'.world
              have first : c.family.models.head? = some c.model := by
                show family.models.head? = some model
                rw [known, List.head?_cons]
              rw [repair_of_invalid ok known (c := c) rfl]
              exact ⟨calls ++ [c], step.trans (.call p family model _ s'),
                .repaired search ok first rfl⟩

end Planner

end Dataflow
