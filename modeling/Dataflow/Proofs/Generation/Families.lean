import Dataflow.Generation.Generate
import Dataflow.Proofs.Lists

/-!
# The families and models that are tried

The models of a family are the preferred or else the default one, and behind it the fallbacks
that are left, in the order in which they first occur (`modelSequence_split`). There is a family
for each provider that is allowed and has a key. Where there is none, a plan is made without a
call, and its note names the providers that are allowed, which are those that lack a key
(`generateWith_models`).
-/

namespace Dataflow

/-! ## Models -/

variable {preferred? : Option String} {default : String} {fallbacks : List String}

/-- Behind the first model stand the fallbacks other than it. -/
theorem modelSequence_split (preferred? : Option String) (default : String)
    (fallbacks : List String) : ∃ rest,
      modelSequence preferred? default fallbacks = preferred?.getD default :: rest ∧
      Picks fallbacks (· ≠ preferred?.getD default) rest := by
  have other : ∀ m, (!m == preferred?.getD default) = true ↔ m ≠ preferred?.getD default := by simp
  refine ⟨_, ?_, picks_filter_eraseDups other fallbacks⟩
  -- taking the first model out before or after removing repetitions is the same
  rw [modelSequence, List.eraseDups_cons, filter_eraseDups]

theorem nodup_modelSequence : (modelSequence preferred? default fallbacks).Nodup :=
  nodup_eraseDups _

theorem head?_modelSequence :
    (modelSequence preferred? default fallbacks).head? = some (preferred?.getD default) := by
  obtain ⟨rest, split, -⟩ := modelSequence_split preferred? default fallbacks
  rw [split, List.head?_cons]

theorem modelSequence_ne_nil : modelSequence preferred? default fallbacks ≠ [] := by
  obtain ⟨rest, split, -⟩ := modelSequence_split preferred? default fallbacks
  rw [split]
  exact List.cons_ne_nil _ _

/-- The preferred model, or else the default, is tried, and so is every fallback. -/
theorem mem_modelSequence {model : String} : model ∈ modelSequence preferred? default fallbacks ↔
    model = preferred?.getD default ∨ model ∈ fallbacks := by
  rw [modelSequence, List.mem_eraseDups, List.mem_cons]

/-- The fallbacks keep their order, but for one that is the first model. -/
theorem modelSequence_ordered : (modelSequence preferred? default fallbacks).tail.Pairwise
    fun a b => fallbacks.idxOf a < fallbacks.idxOf b := by
  obtain ⟨rest, split, picks⟩ := modelSequence_split preferred? default fallbacks
  rw [split]
  exact picks.ordered

/-! ## Families -/

namespace Credentials

variable {c : Credentials} {preference : Preference} {f : ServiceFamily}

/-- Every family has the same preferred model, but a default and fallbacks of its own. -/
theorem models_of_mem_families (member : f ∈ c.families preference) :
    f.models = modelSequence c.preferredModel? f.service.provider.defaultModel
      f.service.provider.fallbackModels := by
  obtain ⟨provider, -, chosen⟩ := List.mem_filterMap.mp member
  obtain ⟨key, -, rfl⟩ := Option.map_eq_some_iff.mp chosen
  rfl

/-- There is no family exactly when every provider that is allowed lacks its key. -/
theorem families_eq_nil_iff : c.families preference = [] ↔
    ∀ provider, preference.allows provider = true → c.key? provider = none := by
  rw [families, List.filterMap_eq_nil_iff]
  refine forall_congr' fun provider => ?_
  rw [family?, Option.map_eq_none_iff, Preference.allows, List.contains_iff_mem]

end Credentials

/-! ## Plans without a key -/

/-- The provider as notes name it. -/
def Provider.title : Provider → String
  | .perplexity => "Perplexity"
  | .openai => "OpenAI"

/-- The note on missing keys names a provider exactly when it is allowed. -/
theorem holds_title_missingKeysNote (preference : Preference) (provider : Provider) :
    holds provider.title.toList (Plan.missingKeysNote preference.missingKeys).toList =
      preference.allows provider := by
  cases preference <;> cases provider <;> decide +kernel

/-- The plan of the fixed rules, with the note on missing keys. -/
def keylessPlan (task : Task) (preference : Preference) : Plan where
  graph := heuristicPlan task.intent task.summary
  rawOutput? := none
  modelUsed := "heuristic"
  proposedNodes := []
  alternatives := []
  notes := Plan.missingKeysNote preference.missingKeys

/-- Without a key no model is called, and the plan says which key is missing. -/
theorem Planner.generateWith_of_nil {σ : Type} {c : Credentials} {preference : Preference}
    (none : c.families preference = []) (p : Planner) (task : Task) (transport : Transport σ)
    (s : Progress (Session σ)) :
    p.generateWith task c preference transport s = .ok (keylessPlan task preference, s) := by
  rw [generateWith, none]
  rfl

/-- With a key the plan is that of a run with the services, unless the session ends in it. -/
theorem Planner.generateWith_of_ne_nil {σ : Type} {c : Credentials} {preference : Preference}
    (some : c.families preference ≠ []) (p : Planner) (task : Task) (transport : Transport σ)
    (s : Progress (Session σ)) :
    p.generateWith task c preference transport s =
      let run := p.generate task
        ((c.families preference).map (·.over transport p.settings.timeoutMs)) s
      if run.2.world.overflowed then .error run.2.world.world else .ok run := by
  unfold generateWith
  split
  next none => exact absurd none some
  · rfl

/-- The models to try are the preferred or else the default one, which comes first, and the
fallbacks. None comes twice, and behind the first the fallbacks keep the order of their first
occurrences. The models of every family are of this kind, and there is no family exactly when
every provider that is allowed lacks its key. Then the plan is that of the fixed rules with a
note that names the providers allowed, and no call was made. -/
theorem generateWith_models :
    (∀ (preferred? : Option String) (default : String) (fallbacks : List String),
      let models := modelSequence preferred? default fallbacks
      models.Nodup ∧ models.head? = some (preferred?.getD default) ∧
      (∀ model, model ∈ models ↔ model = preferred?.getD default ∨ model ∈ fallbacks) ∧
      models.tail.Pairwise fun a b => fallbacks.idxOf a < fallbacks.idxOf b) ∧
    ∀ (c : Credentials) (preference : Preference),
      (∀ f ∈ c.families preference, f.models ≠ [] ∧ f.models.Nodup ∧
        ∀ preferred ∈ c.preferredModel?, f.models.head? = some preferred) ∧
      (c.families preference = [] ↔
        ∀ provider, preference.allows provider = true → c.key? provider = none) ∧
      (c.families preference = [] →
        (∀ (σ : Type) (p : Planner) (task : Task) (transport : Transport σ)
            (s : Progress (Session σ)),
          p.generateWith task c preference transport s = .ok (keylessPlan task preference, s)) ∧
        ∀ provider,
          holds provider.title.toList (Plan.missingKeysNote preference.missingKeys).toList =
            preference.allows provider) := by
  refine ⟨fun preferred? default fallbacks => ?_, fun c preference => ⟨?_, ?_, ?_⟩⟩
  · exact ⟨nodup_modelSequence, head?_modelSequence, fun _ => mem_modelSequence,
      modelSequence_ordered⟩
  · intro f member
    rw [Credentials.models_of_mem_families member]
    refine ⟨modelSequence_ne_nil, nodup_modelSequence, fun preferred set => ?_⟩
    rw [head?_modelSequence, Option.mem_def.mp set, Option.getD_some]
  · exact Credentials.families_eq_nil_iff
  · intro none
    exact ⟨fun _ p task transport s => p.generateWith_of_nil none task transport s,
      holds_title_missingKeysNote preference⟩

/-! ## A key for the other provider, and a fallback that is preferred -/

namespace OtherKey

def credentials : Credentials := { openaiKey? := some "k", preferredModel? := some "gpt-4o" }

def planner : Planner := { manifest := {} }

def task : Task := { intent := "draw", summary := [] }

/-- A network that counts the requests. -/
def transport : Transport Nat := fun _ count => (⟨0, .refused⟩, count + 1)

theorem generateWith_models_otherKey :
    credentials.families .perplexity = [] ∧
    planner.generateWith task credentials .perplexity transport { world := { world := 0 } } =
      .ok (keylessPlan task .perplexity, { world := { world := 0 } }) ∧
    (credentials.families .any).map (·.models) = [["gpt-4o", "gpt-4o-mini", "gpt-4.1-mini"]] ∧
    ∀ f ∈ credentials.families .any, f.models.Nodup ∧ f.models.head? = some "gpt-4o" := by
  obtain ⟨-, families⟩ := generateWith_models
  obtain ⟨-, none, keyless⟩ := families credentials .perplexity
  have lacking : credentials.families .perplexity = [] := by
    refine none.mpr fun provider allowed => ?_
    cases provider with
    | perplexity => rfl
    | openai => cases allowed
  refine ⟨lacking, (keyless lacking).1 Nat planner task transport _, by decide +kernel, ?_⟩
  intro f member
  obtain ⟨-, nodup, first⟩ := (families credentials .any).1 f member
  exact ⟨nodup, first "gpt-4o" rfl⟩

end OtherKey

end Dataflow
