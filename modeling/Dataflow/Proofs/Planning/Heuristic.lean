import Dataflow.Manifest.Builtin
import Dataflow.Proofs.Validation.Chain

/-!
# The plan of last resort

Without a model there is still a plan (`Heuristic.plan`): nodes in a row, or nothing. It uses
only types at hand, so that against the manifest they are from no node is a placeholder, and
it is drawn right whatever those types are. Where they are the built-in ones, nothing is wrong
with it (`heuristicPlan_usable`).
-/

namespace Dataflow

open Dataflow.Graph

/-- The types of a summary, and of every part of it, are in the manifest. -/
theorem Manifest.contains_of_mem_summary {m : Manifest} {s : Summary}
    (part : s.Sublist m.summarize) {name : String} (member : name ∈ s.types) :
    m.contains name = true := by
  obtain ⟨entry, inside, rfl⟩ := List.mem_map.mp member
  obtain ⟨e, held, rfl⟩ := List.mem_map.mp (part.subset inside)
  exact Table.contains_iff_mem.mpr (List.mem_map_of_mem held)

namespace Heuristic

variable {intent : String} {types : List String}

/-! ## What all plans share -/

/-- The nodes of every plan: different ids, types, no mark. -/
structure Drawn (nodes : List Node) : Prop where
  distinct : (nodes.map (·.id)).Nodup
  named : ∀ n ∈ nodes, n.id ≠ "" ∧ n.type ≠ ""
  unmarked : ∀ n ∈ nodes, n.isMarked = false

/-- There are three plans besides the empty one. -/
theorem plan_cases (intent : String) (types : List String) :
    plan intent types = imagePlan intent ∨ plan intent types = audioPlan ∨
      plan intent types = textPlan intent ∨ plan intent types = {} := by
  unfold plan
  split
  · exact Or.inl rfl
  · split
    · exact Or.inr (Or.inl rfl)
    · split
      · exact Or.inr (Or.inr (Or.inl rfl))
      · exact Or.inr (Or.inr (Or.inr rfl))

/-- A plan is only chosen when its types are at hand. -/
theorem usesOnly_plan (intent : String) (types : List String) :
    (plan intent types).usesOnly types = true := by
  unfold plan
  split
  · rename_i chosen
    exact (Bool.and_eq_true_iff.mp chosen).2
  · split
    · rename_i chosen
      exact (Bool.and_eq_true_iff.mp chosen).2
    · split
      · assumption
      · rfl

theorem usesOnly_iff {g : Graph} :
    g.usesOnly types = true ↔ g.nodes.map (·.type) ⊆ types := by
  simp [usesOnly, List.subset_def]

/-- The types of a rule that fits the intent are at hand. -/
def Ready (intent : String) (types : List String) : Prop :=
  (mentions imageWords intent = true ∧ ["textInput", "geminiText2Image", "export"] ⊆ types) ∨
  (mentions audioWords intent = true ∧
    ["audioInput", "deepgramTranscribe", "textDisplay"] ⊆ types) ∨
  ["textInput", "textDisplay"] ⊆ types

/-- A plan has nodes exactly when the types of a rule are at hand. -/
theorem nodes_plan_ne_nil_iff : (plan intent types).nodes ≠ [] ↔ Ready intent types := by
  have image : (imagePlan intent).usesOnly types = true ↔
      ["textInput", "geminiText2Image", "export"] ⊆ types := usesOnly_iff
  have audio : audioPlan.usesOnly types = true ↔
      ["audioInput", "deepgramTranscribe", "textDisplay"] ⊆ types := usesOnly_iff
  have text : (textPlan intent).usesOnly types = true ↔
      ["textInput", "textDisplay"] ⊆ types := usesOnly_iff
  rw [Ready, ← image, ← audio, ← text, ← Bool.and_eq_true, ← Bool.and_eq_true, plan]
  split
  next chosen => exact iff_of_true (List.cons_ne_nil _ _) (.inl chosen)
  next noImage =>
    split
    next chosen => exact iff_of_true (List.cons_ne_nil _ _) (.inr (.inl chosen))
    next noAudio =>
      split
      next chosen => exact iff_of_true (List.cons_ne_nil _ _) (.inr (.inr chosen))
      next noText => exact iff_of_false (fun some => some rfl) (by simp [noImage, noAudio, noText])

theorem imagePlan_drawn (intent : String) :
    Drawn [intentNode intent, bare "gen1" "geminiText2Image", bare "export1" "export"] where
  distinct := by
    show ["text1", "gen1", "export1"].Nodup
    decide
  named := by simp [intentNode, bare, Node.setParam]
  unmarked := by
    simp only [List.forall_mem_cons]
    exact ⟨rfl, rfl, rfl, nofun⟩

theorem audioPlan_drawn :
    Drawn [bare "audio1" "audioInput", bare "dg1" "deepgramTranscribe",
      bare "view1" "textDisplay"] where
  distinct := by decide
  named := by simp [bare]
  unmarked := by
    simp only [List.forall_mem_cons]
    exact ⟨rfl, rfl, rfl, nofun⟩

theorem textPlan_drawn (intent : String) :
    Drawn [intentNode intent, bare "view1" "textDisplay"] where
  distinct := by
    show ["text1", "view1"].Nodup
    decide
  named := by simp [intentNode, bare, Node.setParam]
  unmarked := by
    simp only [List.forall_mem_cons]
    exact ⟨rfl, rfl, nofun⟩

/-- Whatever the intent and the types, the plan is a chain of drawn nodes. -/
theorem exists_drawn (intent : String) (types : List String) :
    ∃ nodes, plan intent types = chain nodes ∧ Drawn nodes := by
  rcases plan_cases intent types with same | same | same | same
  · exact ⟨_, same, imagePlan_drawn intent⟩
  · exact ⟨_, same, audioPlan_drawn⟩
  · exact ⟨_, same, textPlan_drawn intent⟩
  · exact ⟨[], same, by simp, by simp, by simp⟩

/-! ## Rows of built-in types -/

/-- The types of plans, as the built-in manifest has them. -/
theorem types_builtin :
    Manifest.builtin.type? "textInput" = some Builtin.textInput ∧
    Manifest.builtin.type? "geminiText2Image" = some Builtin.geminiText2Image ∧
    Manifest.builtin.type? "export" = some Builtin.imageExport ∧
    Manifest.builtin.type? "audioInput" = some Builtin.audioInput ∧
    Manifest.builtin.type? "deepgramTranscribe" = some Builtin.deepgramTranscribe ∧
    Manifest.builtin.type? "textDisplay" = some Builtin.textDisplay := by
  simp only [Manifest.type?, Manifest.builtin, Table.get?_ofList]
  exact ⟨rfl, rfl, rfl, rfl, rfl, rfl⟩

theorem typeOf?_intentNode (intent : String) :
    Manifest.builtin.typeOf? (intentNode intent) = some Builtin.textInput :=
  Manifest.typeOf?_eq_some_iff.mpr ⟨rfl, types_builtin.1⟩

theorem typeOf?_bare {id type : String} {t : NodeType}
    (held : Manifest.builtin.type? type = some t) :
    Manifest.builtin.typeOf? (bare id type) = some t :=
  Manifest.typeOf?_eq_some_iff.mpr ⟨rfl, held⟩

theorem paramsKnown_intentNode (intent : String) :
    ∀ t, Manifest.builtin.typeOf? (intentNode intent) = some t →
      ParamsKnown (intentNode intent) t := by
  intro t typed name given
  rw [typeOf?_intentNode] at typed
  cases typed
  rw [List.mem_singleton.mp (show name ∈ ["text"] from given)]
  rfl

theorem paramsKnown_bare (id type : String) : 
    ∀ t, Manifest.builtin.typeOf? (bare id type) = some t → ParamsKnown (bare id type) t :=
  fun _ _ _ given => nomatch given

theorem imagePlan_row (intent : String) : Row .builtin (intentNode intent)
    [bare "gen1" "geminiText2Image", bare "export1" "export"] := by
  obtain ⟨-, generate, export', -⟩ := types_builtin
  constructor
  · exact ⟨_, typeOf?_intentNode intent, by decide⟩
  · simp only [List.zip_cons_cons, List.zip_nil_right, List.forall_mem_cons]
    exact ⟨⟨_, _, typeOf?_intentNode intent, typeOf?_bare generate, by decide⟩,
      ⟨_, _, typeOf?_bare generate, typeOf?_bare export', by decide⟩, nofun⟩
  · simp only [List.forall_mem_cons]
    exact ⟨paramsKnown_intentNode intent, paramsKnown_bare _ _, paramsKnown_bare _ _, nofun⟩

theorem audioPlan_row : Row .builtin (bare "audio1" "audioInput")
    [bare "dg1" "deepgramTranscribe", bare "view1" "textDisplay"] := by
  obtain ⟨-, -, -, audio, transcribe, display⟩ := types_builtin
  constructor
  · exact ⟨_, typeOf?_bare audio, by decide⟩
  · simp only [List.zip_cons_cons, List.zip_nil_right, List.forall_mem_cons]
    exact ⟨⟨_, _, typeOf?_bare audio, typeOf?_bare transcribe, by decide⟩,
      ⟨_, _, typeOf?_bare transcribe, typeOf?_bare display, by decide⟩, nofun⟩
  · simp only [List.forall_mem_cons]
    exact ⟨paramsKnown_bare _ _, paramsKnown_bare _ _, paramsKnown_bare _ _, nofun⟩

theorem textPlan_row (intent : String) :
    Row .builtin (intentNode intent) [bare "view1" "textDisplay"] := by
  obtain ⟨-, -, -, -, -, display⟩ := types_builtin
  constructor
  · exact ⟨_, typeOf?_intentNode intent, by decide⟩
  · simp only [List.zip_cons_cons, List.zip_nil_right, List.forall_mem_cons]
    exact ⟨⟨_, _, typeOf?_intentNode intent, typeOf?_bare display, by decide⟩, nofun⟩
  · simp only [List.forall_mem_cons]
    exact ⟨paramsKnown_intentNode intent, paramsKnown_bare _ _, nofun⟩

/-- Nodes in a row of built-in types are valid wherever their types are the built-in ones. -/
theorem validate_drawn {m : Manifest} {first : Node} {rest : List Node}
    (drawn : Drawn (first :: rest)) (row : Row .builtin first rest) (several : rest ≠ [])
    (same : ∀ n ∈ first :: rest, m.type? n.type = Manifest.builtin.type? n.type) :
    (chain (first :: rest)).validate m = {} := by
  refine validate_chain (row.congr fun n member => ?_) several drawn.distinct drawn.named
  rw [Manifest.typeOf?, Manifest.typeOf?, same n member]

/-- There is nothing to report on a plan where its types are those of the built-in manifest. -/
theorem validate_plan {m : Manifest} (intent : String) (types : List String)
    (same : ∀ n ∈ (plan intent types).nodes, m.type? n.type = Manifest.builtin.type? n.type) :
    (plan intent types).validate m = {} := by
  rcases plan_cases intent types with here | here | here | here <;> rw [here] at same ⊢
  · exact validate_drawn (imagePlan_drawn intent) (imagePlan_row intent) (List.cons_ne_nil _ _) same
  · exact validate_drawn audioPlan_drawn audioPlan_row (List.cons_ne_nil _ _) same
  · exact validate_drawn (textPlan_drawn intent) (textPlan_row intent) (List.cons_ne_nil _ _) same
  · rfl

end Heuristic

open Heuristic

/-- The plan of last resort can always be used. With any part of a manifest's summary at hand it
uses the types of that part only, none of its nodes is a placeholder, and nothing is wrong with
its ids, with the ends and slots of its edges, or with cycles. Where the manifest has the types
of the plan as the built-in one has them, nothing at all is wrong with it. It has nodes whenever
the types of a rule that fits the intent are at hand. -/
theorem heuristicPlan_usable (intent : String) (m : Manifest) (s : Summary)
    (part : s.Sublist m.summarize) :
    let g := heuristicPlan intent s
    (∀ n ∈ g.nodes, n.type ∈ s.types) ∧
    (g.validate m).placeholders = [] ∧
    (g.validate m).found structureCodes = [] ∧
    ((∀ n ∈ g.nodes, m.type? n.type = Manifest.builtin.type? n.type) →
      (g.validate m).ok = true ∧ g.validate m = {}) ∧
    (g.nodes ≠ [] ↔ Ready intent s.types) := by
  intro g
  obtain ⟨nodes, drawn, distinct, named, unmarked⟩ := exists_drawn intent s.types
  have only : ∀ n ∈ g.nodes, n.type ∈ s.types := by
    have only := usesOnly_plan intent s.types
    rw [usesOnly, List.all_eq_true] at only
    exact fun n member => List.contains_iff_mem.mp (only n member)
  refine ⟨only, ?_, ?_, fun same => ?_, nodes_plan_ne_nil_iff⟩
  · have none : g.placeholders m = [] := by
      refine List.filter_eq_nil_iff.mpr fun n member => ?_
      have known := Manifest.contains_of_mem_summary part (only n member)
      have inside : n ∈ (chain nodes).nodes := drawn ▸ member
      rw [nodes_chain] at inside
      simp [Manifest.isPlaceholder, known, unmarked n inside, (named n inside).2]
    rw [validate, none]
    rfl
  · show ((plan intent s.types).validate m).found structureCodes = []
    rw [drawn]
    exact found_structure_chain distinct (fun n member => (named n member).1) m
  · have whole : g.validate m = {} := validate_plan intent s.types same
    exact ⟨by rw [whole]; rfl, whole⟩

/-! ## A manifest of few types -/

namespace Spare

/-- Two built-in types, and one that has only its name from there. -/
def manifest : Manifest where
  types := .ofList [
    ("export", {}), ("textDisplay", Builtin.textDisplay), ("textInput", Builtin.textInput)]

/-- All types but the first. -/
def summary : Summary := manifest.summarize.tail

theorem heuristicPlan_usable_spare :
    let g := heuristicPlan "A \"Banner\"" summary
    summary.Sublist manifest.summarize ∧
    (∀ n ∈ g.nodes, n.type ∈ summary.types) ∧ (g.validate manifest).placeholders = [] ∧
      (g.validate manifest).found structureCodes = [] ∧
    (∀ n ∈ g.nodes, manifest.type? n.type = Manifest.builtin.type? n.type) ∧
      (g.validate manifest).ok = true ∧ g.validate manifest = {} ∧ g.nodes ≠ [] := by
  intro g
  have part : summary.Sublist manifest.summarize := List.tail_sublist _
  have same : ∀ n ∈ g.nodes, manifest.type? n.type = Manifest.builtin.type? n.type := by
    obtain ⟨input, -, -, -, -, display⟩ := types_builtin
    show ∀ n ∈ [intentNode _, bare "view1" "textDisplay"], _
    simp only [List.forall_mem_cons]
    exact ⟨input.symm, display.symm, nofun⟩
  obtain ⟨only, placeholders, structured, usable, nodes⟩ :=
    heuristicPlan_usable "A \"Banner\"" manifest summary part
  have ready : Ready "A \"Banner\"" summary.types := .inr (.inr (by decide))
  obtain ⟨ok, whole⟩ := usable same
  exact ⟨part, only, placeholders, structured, same, ok, whole, nodes.mpr ready⟩

end Spare

end Dataflow
