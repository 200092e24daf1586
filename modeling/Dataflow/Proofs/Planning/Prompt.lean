import Dataflow.Planning.Prompt
import Dataflow.Proofs.Lists

/-!
# The order of sections in a request

Summaries and graphs are added to a draft one by one, behind the form of the answer, which every
draft starts with. The sort by rank then puts the intent first and the form of the answer last,
and between them all summaries and all graphs, each kind in the order in which it was added
(`sorted_addAll`). How the two kinds were mixed leaves no trace in a request, and a request for
repair goes on where the request ended (`build_addAll`), with its instructions, what is wrong line
by line, and the beginning of the graph (`Prompt.isRepairOf_iff`).
-/

namespace Dataflow

/-- What may be added to a draft: node types, or a graph to start from if there is one. -/
inductive Addition where
  | manifest (summary : Summary)
  | current (graph? : Option Graph)

namespace Addition

/-- The summary that is added. -/
def summary? : Addition → Option Summary
  | .manifest summary => some summary
  | .current _ => none

/-- The graph that is added. -/
def graph? : Addition → Option Graph
  | .manifest _ => none
  | .current graph? => graph?

/-- The section that is added. -/
def section? : Addition → Option PromptSection
  | .manifest summary => some (.manifest summary)
  | .current graph? => graph?.map .current

end Addition

namespace Draft

/-- The draft with an addition. -/
def add (d : Draft) : Addition → Draft
  | .manifest summary => d.withManifest summary
  | .current graph? => d.withCurrent graph?

/-- The draft with additions made one after another. -/
def addAll (d : Draft) (additions : List Addition) : Draft := additions.foldl add d

theorem sections_add (d : Draft) (a : Addition) :
    (d.add a).sections = d.sections ++ a.section?.toList := by
  cases a with
  | manifest summary => rfl
  | current graph? =>
      cases graph? with
      | none => exact (List.append_nil _).symm
      | some graph => rfl

/-- Additions come behind what is there, in order. -/
theorem sections_addAll (d : Draft) (additions : List Addition) :
    (d.addAll additions).sections = d.sections ++ additions.filterMap Addition.section? := by
  induction additions generalizing d with
  | nil => exact (List.append_nil _).symm
  | cons a rest ih =>
      show ((d.add a).addAll rest).sections = _
      rw [ih, sections_add, List.append_assoc]
      cases added : a.section? with
      | none => rw [List.filterMap_cons_none added, Option.toList_none, List.nil_append]
      | some s => rw [List.filterMap_cons_some added, Option.toList_some, List.singleton_append]

/-! ## Ranks -/

/-- The sections of one rank are those of the additions that make such a section. -/
theorem filter_rank {α : Type} {pick? : Addition → Option α} {make : α → PromptSection} {r : Nat}
    (only : ∀ a : Addition, a.section?.filter (·.rank = r) = (pick? a).map make)
    (additions : List Addition) :
    (additions.filterMap Addition.section?).filter (·.rank = r) =
      (additions.filterMap pick?).map make := by
  rw [List.filter_filterMap, List.map_filterMap]
  exact List.filterMap_congr fun a _ => only a

theorem filter_rank_manifest (additions : List Addition) :
    (additions.filterMap Addition.section?).filter (·.rank = 1) =
      (additions.filterMap Addition.summary?).map .manifest :=
  filter_rank (by rintro (_ | _ | _) <;> rfl) additions

theorem filter_rank_current (additions : List Addition) :
    (additions.filterMap Addition.section?).filter (·.rank = 2) =
      (additions.filterMap Addition.graph?).map .current :=
  filter_rank (by rintro (_ | _ | _) <;> rfl) additions

/-- No section added has the rank of the intent or that of the form of the answer. -/
theorem filter_rank_outer {r : Nat} (outer : r = 0 ∨ r = 3) (additions : List Addition) :
    (additions.filterMap Addition.section?).filter (·.rank = r) = [] := by
  rw [List.filter_filterMap, List.filterMap_eq_nil_iff]
  intro a _
  rcases outer with rfl | rfl <;> rcases a with _ | _ | _ <;> rfl

/-- The sections of a request in their order. -/
def outline (intent : String) (summaries : List Summary) (graphs : List Graph) :
    List PromptSection :=
  .intent intent :: (summaries.map .manifest ++ (graphs.map .current ++ [.contract]))

/-- However the additions are mixed, all summaries come before all graphs, and both stand between
the intent and the form of the answer. -/
theorem sorted_addAll (intent : String) (additions : List Addition) :
    ((ofIntent intent).addAll additions).sorted = outline intent
      (additions.filterMap Addition.summary?) (additions.filterMap Addition.graph?) := by
  have below : ∀ s ∈ ((ofIntent intent).addAll additions).sections, s.rank < 4 := by
    intro s _
    cases s <;> simp [PromptSection.rank]
  have ranks : List.range 4 = [0, 1, 2, 3] := rfl
  rw [sorted, mergeSort_eq_flatMap below, sections_addAll, ranks]
  simp only [List.flatMap_cons, List.flatMap_nil, List.filter_append, filter_rank_manifest,
    filter_rank_current, filter_rank_outer (.inl rfl), filter_rank_outer (.inr rfl),
    List.append_nil]
  -- the sections that every draft starts with fall to the first rank and to the last
  rfl

/-! ## Requests -/

/-- Whatever was added in whatever order, a request holds the intent, then the summaries in their
order, then the first characters of the graphs in theirs, then the form of the answer. So two
drafts with the same summaries and the same graphs make the same request, and a request for
repair only adds to the request that it follows. -/
theorem build_addAll (intent : String) :
    (∀ additions, ((ofIntent intent).addAll additions).build = {
      system := Instructions.system
      user := String.intercalate "\n\n" (
        ["User intent: " ++ intent]
        ++ (additions.filterMap Addition.summary?).map (fun summary =>
          "Manifest summary (compact): " ++ summary.toJson.compact)
        ++ (additions.filterMap Addition.graph?).map (fun graph =>
          "Current graph (optional): " ++ .ofList (graph.toJson.compact.toList.take 8000))
        ++ [Instructions.contract]) }) ∧
    (∀ additions additions',
      additions.filterMap Addition.summary? = additions'.filterMap Addition.summary? →
      additions.filterMap Addition.graph? = additions'.filterMap Addition.graph? →
      ((ofIntent intent).addAll additions).build = ((ofIntent intent).addAll additions').build) ∧
    ∀ (request : Prompt) (lines : List String) (previous : Graph),
      (request.repair lines previous).system = request.system ∧
      ∃ more, more ≠ "" ∧ (request.repair lines previous).user = request.user ++ more := by
  refine ⟨?_, ?_, ?_⟩
  · intro additions
    rw [build, sorted_addAll, outline]
    simp only [List.map_append, List.map_cons, List.map_map, List.map_nil, List.append_assoc]
    rfl
  · intro additions additions' summaries graphs
    rw [build, build, sorted_addAll, sorted_addAll, summaries, graphs]
  · intro request lines previous
    refine ⟨rfl, Prompt.repairText lines previous, ?_, rfl⟩
    -- whatever the lines and the graph are, the text of a repair starts with words of its own
    intro empty
    have starts := congrArg String.toList empty
    simp [Prompt.repairText] at starts

/-! ## Two mixtures of the same summaries and graphs -/

namespace Mixed

def imageType : SummaryEntry := .ofType "image" {}

def textType : SummaryEntry := .ofType "text" {}

def graph : Graph := { nodes := [{ id := "a", type := "text" }] }

/-- The graph comes between the summaries. -/
def between : List Addition := [.manifest [imageType], .current (some graph), .manifest [textType]]

/-- The graph comes first, and once there is none to add. -/
def before : List Addition :=
  [.current (some graph), .current none, .manifest [imageType], .manifest [textType]]

theorem build_between_eq_before :
    between.filterMap Addition.summary? = before.filterMap Addition.summary? ∧
    between.filterMap Addition.graph? = before.filterMap Addition.graph? ∧
    ((ofIntent "draw").addAll between).build = ((ofIntent "draw").addAll before).build :=
  ⟨rfl, rfl, (build_addAll "draw").2.1 between before rfl rfl⟩

end Mixed

end Draft

/-! ## Requests for repair -/

namespace Prompt

/-- A request asks to repair a graph in view of some lines: it repeats another request and goes on
with the instructions, the lines one below the other, and the first 4000 characters of the graph. -/
structure IsRepairOf (repair request : Prompt) (lines : List String) (previous : Graph) :
    Prop where
  system_eq : repair.system = request.system
  user_eq : ∃ errors shown : String,
    repair.user = request.user ++ "\n\n" ++ Instructions.repair
      ++ "\n\nValidation errors:\n" ++ errors ++ "\n\nPrevious graph:\n" ++ shown ∧
    errors.toList = ['\n'].intercalate (lines.map String.toList) ∧
    shown.toList = previous.toJson.compact.toList.take 4000

variable {repair request : Prompt} {lines : List String} {previous : Graph}

/-- Nothing else asks for that repair. -/
theorem isRepairOf_iff :
    repair.IsRepairOf request lines previous ↔ repair = request.repair lines previous := by
  have joined : (String.intercalate "\n" lines).toList =
      ['\n'].intercalate (lines.map String.toList) := String.toList_intercalate
  have first : (firstChars previousLimit previous.toJson.compact).toList =
      previous.toJson.compact.toList.take 4000 := String.toList_ofList
  constructor
  · rintro ⟨system, errors, shown, user, listed, begun⟩
    obtain rfl := String.toList_inj.mp (listed.trans joined.symm)
    obtain rfl := String.toList_inj.mp (begun.trans first.symm)
    obtain ⟨repairSystem, repairUser⟩ := repair
    rw [Prompt.repair, Prompt.mk.injEq]
    refine ⟨system, user.trans ?_⟩
    simp only [repairText, String.append_assoc]
  · rintro rfl
    refine ⟨rfl, _, _, ?_, joined, first⟩
    simp only [Prompt.repair, repairText, String.append_assoc]

end Prompt

end Dataflow
