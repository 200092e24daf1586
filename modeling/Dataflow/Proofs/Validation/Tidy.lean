import Dataflow.Proofs.Graph.Reach
import Dataflow.Proofs.Validation.Codes
import Dataflow.Proofs.Validation.Marks

/-!
# The report on a tidied graph

Tidying rewrites parameters and drops edges, and reports look at both. Where no default marks
a node as a placeholder, what is a placeholder before is one after, so every node is held to
the same type; and an edge that goes was held to nothing but its ends. What the rules report
is related rule by rule:

* the rules on ids and cycles report the same;
* the rules on edges report the same on an edge that stays, up to its index;
* the rule on parameters has nothing left to report;
* the rules that count edges or follow them report the same when no edge was dangling.

`tidy_validate` puts these together.
-/

namespace Dataflow

open Relation

/-- No type has a default that marks its nodes as placeholders. -/
def Manifest.MarksNone (m : Manifest) : Prop :=
  ∀ name type, m.type? name = some type →
    type.defaults.get? "placeholder" ≠ some (.bool true)

/-! ## Lists -/

theorem flatMap_zipIdx {α β : Type} (items : List α) (f : α → List β) :
    (items.zipIdx.flatMap fun entry => f entry.1) = items.flatMap f := by
  rw [← List.flatMap_map (Prod.fst), List.zipIdx_map_fst]

/-- Elements that give nothing may be left out. -/
theorem flatMap_filter {α β : Type} {items : List α} {p : α → Bool} {f : α → List β}
    (nothing : ∀ a ∈ items, p a = false → f a = []) :
    (items.filter p).flatMap f = items.flatMap f := by
  induction items with
  | nil => rfl
  | cons a rest ih =>
      obtain ⟨first, nothing⟩ := List.forall_mem_cons.mp nothing
      rw [List.flatMap_cons, ← ih nothing]
      cases kept : p a with
      | true => rw [List.filter_cons_of_pos kept, List.flatMap_cons]
      | false => rw [List.filter_cons_of_neg (by simp [kept]), first kept, List.nil_append]

/-! ## Nodes -/

namespace Node

variable {m : Manifest} (marksNone : m.MarksNone) (n : Node)

include marksNone

theorem isMarked_tidy : (n.tidy m).isMarked = n.isMarked := by
  have unmarked : ¬ n.TakesMark m := fun ⟨_, type, known, mark⟩ =>
    marksNone n.type type known mark
  rw [Bool.eq_iff_iff, isMarked_tidy_iff]
  exact or_iff_left unmarked

theorem typeOf?_tidy : m.typeOf? (n.tidy m) = m.typeOf? n := by
  rw [Manifest.typeOf?, Manifest.typeOf?, isMarked_tidy marksNone, tidy_type]

theorem isPlaceholder_tidy : m.isPlaceholder (n.tidy m) = m.isPlaceholder n := by
  rw [Manifest.isPlaceholder, Manifest.isPlaceholder, isMarked_tidy marksNone, tidy_type]

theorem paramIssues_tidy : Graph.paramIssues m (n.tidy m) = [] := by
  unfold Graph.paramIssues
  split
  · rfl
  · rename_i type typed
    rw [typeOf?_tidy marksNone] at typed
    rw [params_tidy typed, keys_mergedParams, List.map_eq_nil_iff, List.filter_eq_nil_iff]
    intro key member
    simp [Table.contains_iff_mem.mpr member]

end Node

theorem Placeholder.ofNode_tidy (m : Manifest) (n : Node) : ofNode (n.tidy m) = ofNode n := by
  rw [ofNode, ofNode, Node.tidy_id, Node.tidy_type]

namespace Graph

variable {g : Graph} {m : Manifest}

/-! ## Rules that look at nodes -/

theorem identityIssues_tidied : (g.tidied m).identityIssues = g.identityIssues := by
  have missing : ((g.tidied m).nodes.zipIdx.filter (·.1.id == "")).map
      (fun entry => Issue.idMissing entry.2) =
        (g.nodes.zipIdx.filter (·.1.id == "")).map fun entry => .idMissing entry.2 := by
    rw [nodes_tidied, List.zipIdx_map, List.filter_map, List.map_map]
    simp [Function.comp_def]
  rw [identityIssues, identityIssues, missing, repeatedIds, repeatedIds, ids_tidied]

theorem cycleIssues_tidied : (g.tidied m).cycleIssues = g.cycleIssues := by
  rw [cycleIssues, cycleIssues, order_tidied, nodes_tidied, List.length_map]

section

variable (marksNone : m.MarksNone)

include marksNone

theorem idsWhere_tidied (property : NodeType → Bool) :
    (g.tidied m).idsWhere m property = g.idsWhere m property := by
  rw [idsWhere, idsWhere, nodes_tidied, List.filter_map, List.map_map]
  simp only [Function.comp_def, Node.typeOf?_tidy marksNone, Node.tidy_id]

theorem placeholders_tidied :
    (g.tidied m).placeholders m = (g.placeholders m).map (·.tidy m) := by
  rw [placeholders, placeholders, nodes_tidied, List.filter_map]
  simp only [Function.comp_def, Node.isPlaceholder_tidy marksNone]

theorem map_placeholders_tidied {α : Type} {f : Node → α} (same : ∀ n, f (n.tidy m) = f n) :
    ((g.tidied m).placeholders m).map f = (g.placeholders m).map f := by
  rw [placeholders_tidied marksNone, List.map_map]
  exact List.map_congr_left fun n _ => same n

theorem paramIssues_tidied : (g.tidied m).nodes.flatMap (paramIssues m) = [] := by
  rw [nodes_tidied, List.flatMap_map, List.flatMap_eq_nil_iff]
  exact fun n _ => n.paramIssues_tidy marksNone

/-! ## Rules that look at edges -/

theorem typeAt?_tidied (id : String) : (g.tidied m).typeAt? m id = g.typeAt? m id := by
  rw [typeAt?, typeAt?, node?_tidied, Option.bind_map]
  exact congrArg _ (funext fun n => n.typeOf?_tidy marksNone)

/-- Whether an edge fits does not depend on parameters. -/
theorem fitIssues_tidied (index : Nat) (e : Edge) :
    (g.tidied m).fitIssues m index e = g.fitIssues m index e := by
  have slots : (g.tidied m).slotIssues index e = g.slotIssues index e := by
    funext target
    have type : ((g.tidied m).node? e.target).map (·.type) = (g.node? e.target).map (·.type) := by
      rw [node?_tidied, Option.map_map]
      exact congrArg (Option.map · _) (funext fun n => n.tidy_type m)
    unfold slotIssues
    rw [type]
  rw [fitIssues, fitIssues, typeAt?_tidied marksNone, typeAt?_tidied marksNone, slots]

theorem edgeIssues_tidied (index : Nat) (e : Edge) :
    (g.tidied m).edgeIssues m index e = g.edgeIssues m index e := by
  rw [edgeIssues, edgeIssues, hasNode_tidied, fitIssues_tidied marksNone]

end

/-- What is said of an issue apart from its place. -/
def wording (i : Issue) : IssueCode × String := (i.code, i.message)

theorem wording_slotIssues (index : Nat) (e : Edge) (target : NodeType) :
    (g.slotIssues index e target).map wording = (g.slotIssues 0 e target).map wording := by
  unfold slotIssues
  dsimp only
  split
  · rfl
  · split
    · split <;> rfl
    · split <;> rfl
    · rfl
  · rfl

theorem wording_fitIssues (index : Nat) (e : Edge) :
    (g.fitIssues m index e).map wording = (g.fitIssues m 0 e).map wording := by
  unfold fitIssues
  split
  · rw [List.map_append, List.map_append, wording_slotIssues]
    congr 1
    split <;> rfl
  · rfl

/-- A dangling edge is held to no type. -/
theorem fitIssues_of_dangling {index : Nat} {e : Edge} (dangling : g.connects e = false) :
    g.fitIssues m index e = [] := by
  have untyped : ∀ id, g.hasNode id = false → g.typeAt? m id = none := by
    intro id missing
    rw [Bool.eq_false_iff, ne_eq, hasNode_iff] at missing
    rw [typeAt?, node?_eq_none_iff.mpr missing]
    rfl
  unfold fitIssues
  split
  · rename_i source target
    rcases Bool.and_eq_false_iff.mp dangling with missing | missing
    · rw [untyped _ missing] at source
      cases source
    · rw [untyped _ missing] at target
      cases target
  · rfl

/-- What is said of what an edge carries and asks for. -/
def fitWording (g : Graph) (m : Manifest) (e : Edge) : List (IssueCode × String) :=
  if e.hasEnds then (g.fitIssues m 0 e).map wording else []

theorem wording_fit :
    (ofCodes fitCodes (g.issues m)).map wording = g.edges.flatMap (g.fitWording m) := by
  have placed : ∀ index e, (if e.hasEnds then g.fitIssues m index e else []).map wording =
      g.fitWording m e := by
    intro index e
    unfold fitWording
    split
    · exact wording_fitIssues index e
    · rfl
  rw [ofCodes_fit, List.map_flatMap]
  simp only [placed]
  exact flatMap_zipIdx g.edges (g.fitWording m)

theorem fitWording_of_dangling {e : Edge} (dangling : g.connects e = false) :
    g.fitWording m e = [] := by
  rw [fitWording, fitIssues_of_dangling dangling]
  exact ite_self _

/-- On what edges carry and ask for, tidying changes nothing but the places. -/
theorem wording_fit_tidied (marksNone : m.MarksNone) :
    (ofCodes fitCodes ((g.tidied m).issues m)).map wording =
      (ofCodes fitCodes (g.issues m)).map wording := by
  have same : (g.tidied m).fitWording m = g.fitWording m := by
    funext e
    rw [fitWording, fitWording, fitIssues_tidied marksNone]
  rw [wording_fit, wording_fit, same, edges_tidied]
  exact flatMap_filter fun e _ => fitWording_of_dangling

/-- An edge that stays is reported for its shape only if a node has no id. -/
theorem of_mem_edgeIssues {index : Nat} {e : Edge} {i : Issue} (link : e ∈ g.links)
    (member : i ∈ g.edgeIssues m index e) : i.code ∉ [.edgeFromMissing, .edgeToMissing] ∧
      (i.code = .edgeShape → ∃ n ∈ g.nodes, n.id = "") := by
  obtain ⟨-, source, target⟩ := mem_links.mp link
  unfold edgeIssues at member
  rw [if_pos (hasNode_iff.mpr source), if_pos (hasNode_iff.mpr target), List.nil_append,
    List.nil_append] at member
  split at member
  · rcases List.mem_append.mp member with loop | fit
    · split at loop
      · rw [List.mem_singleton.mp loop]
        simp [Issue.code]
      · cases loop
    · rcases code_of_mem_fitIssues fit with code | code | code <;> simp [code]
  · rename_i lacking
    rw [List.mem_singleton.mp member]
    refine ⟨by simp [Issue.code], fun _ => ?_⟩
    have empty : "" ∈ g.ids := by
      by_cases nameless : e.source = ""
      · exact nameless ▸ source
      · have nameless' : e.target = "" := by simpa [Edge.hasEnds, nameless] using lacking
        exact nameless' ▸ target
    exact List.mem_map.mp empty

/-! ## Rules that follow edges -/

theorem comesFrom_of_tidied {goal : String → Bool} {id : String}
    (met : (g.tidied m).comesFrom goal id = true) : g.comesFrom goal id = true := by
  obtain ⟨u, wanted, path⟩ := comesFrom_iff.mp met
  refine comesFrom_iff.mpr ⟨u, wanted, ReflTransGen.mono ?_ _ _ path⟩
  rintro u v ⟨e, link, ends⟩
  exact ⟨e, List.mem_of_mem_filter link, ends⟩

/-- Removing edges blocks no further sink. -/
theorem blockedSinks_tidied (marksNone : m.MarksNone) :
    ((g.tidied m).blockedSinks m).Sublist (g.blockedSinks m) := by
  unfold blockedSinks
  rw [map_placeholders_tidied marksNone fun n => n.tidy_id m, sinks, idsWhere_tidied marksNone]
  exact List.monotone_filter_right _ fun id => comesFrom_of_tidied

/-! ## Reports -/

section

variable (marksNone : m.MarksNone)

include marksNone

/-- Where no edge was dangling, tidying takes away what was reported of parameters. -/
theorem issues_tidied (closed : ∀ e ∈ g.edges, e.source ∈ g.ids ∧ e.target ∈ g.ids) :
    (g.tidied m).issues m = (g.issues m).filter (·.code != .paramUnknown) := by
  have edges : (g.tidied m).edges = g.edges := links_eq_edges closed
  have incoming : (g.tidied m).incoming = g.incoming := by
    funext id
    rw [incoming, incoming, edges]
  have outgoing : (g.tidied m).outgoing = g.outgoing := by
    funext id
    rw [outgoing, outgoing, edges]
  have reachable : (g.tidied m).reachable = g.reachable := by
    funext start
    rw [reachable, reachable, arcs, arcs, edges]
  have arity : (g.tidied m).nodes.flatMap ((g.tidied m).arityIssues m) =
      g.nodes.flatMap (g.arityIssues m) := by
    rw [nodes_tidied, List.flatMap_map]
    refine List.flatMap_congr fun n _ => ?_
    simp only [arityIssues, Node.typeOf?_tidy marksNone, Node.tidy_id, Node.tidy_type, incoming,
      outgoing]
  have connection : (g.tidied m).connectionIssues m = g.connectionIssues m := by
    simp only [connectionIssues, sinks, sources, idsWhere_tidied marksNone, reachable]
  have isolation : (g.tidied m).isolationIssues = g.isolationIssues := by
    rw [isolationIssues, isolationIssues, nodes_tidied, List.filter_map, List.map_map]
    simp only [Function.comp_def, Node.tidy_id, Node.tidy_type, incoming, outgoing]
  have params : (g.nodes.flatMap (paramIssues m)).filter (·.code != .paramUnknown) = [] := by
    refine List.filter_eq_nil_iff.mpr fun i member => ?_
    simpa using among_paramIssues i member
  simp only [issues, List.filter_append, edges, edgeIssues_tidied marksNone]
  rw [identityIssues_tidied, arity, paramIssues_tidied marksNone, cycleIssues_tidied, connection,
    isolation, params, among_identityIssues.filter_ne_eq_self (by decide),
    among_edgeIssues.filter_ne_eq_self (by decide),
    among_arityIssues.filter_ne_eq_self (by decide),
    among_cycleIssues.filter_ne_eq_self (by decide),
    among_connectionIssues.filter_ne_eq_self (by decide),
    among_isolationIssues.filter_ne_eq_self (by decide)]

/-- Without dangling edges, tidying changes the report by the unknown parameters alone. -/
theorem validate_tidied (closed : ∀ e ∈ g.edges, e.source ∈ g.ids ∧ e.target ∈ g.ids) :
    (g.tidied m).validate m = { g.validate m with
      warnings := (g.validate m).warnings.filter (·.code != .paramUnknown) } := by
  have errors : ((g.issues m).filter (·.code != .paramUnknown)).filter (·.isError) =
      (g.issues m).filter (·.isError) := by
    rw [List.filter_filter]
    refine List.filter_congr fun i _ => ?_
    cases code : i.code <;> simp [Issue.isError, code, IssueCode.severity]
  have comesFrom : (g.tidied m).comesFrom = g.comesFrom := by
    funext goal id
    rw [comesFrom, comesFrom, arcsBack, arcsBack, edges_tidied, links_eq_edges closed]
  have blocked : (g.tidied m).blockedSinks m = g.blockedSinks m := by
    rw [blockedSinks, blockedSinks, map_placeholders_tidied marksNone fun n => n.tidy_id m, sinks,
      idsWhere_tidied marksNone, comesFrom]
    rfl
  rw [validate, issues_tidied marksNone closed, errors, blocked,
    map_placeholders_tidied marksNone (Placeholder.ofNode_tidy m), List.filter_filter]
  simp only [validate, List.filter_filter, Bool.and_comm]

/-- What the rules may still report. -/
theorem mem_issues_tidied {i : Issue} (member : i ∈ (g.tidied m).issues m) :
    i.code ∉ [.edgeFromMissing, .edgeToMissing, .paramUnknown] ∧
      (i.code = .edgeShape → ∃ n ∈ g.nodes, n.id = "") := by
  -- most rules never report one of these codes
  have never : ∀ {codes : List IssueCode} {issues : List Issue}, Among codes issues →
      (∀ c ∈ codes, c ∉ [.edgeFromMissing, .edgeToMissing, .paramUnknown] ∧ c ≠ .edgeShape) →
      i ∈ issues → i.code ∉ [.edgeFromMissing, .edgeToMissing, .paramUnknown] ∧
        (i.code = .edgeShape → ∃ n ∈ g.nodes, n.id = "") := by
    intro codes issues among apart found
    obtain ⟨others, shape⟩ := apart _ (among i found)
    exact ⟨others, fun same => absurd same shape⟩
  rcases mem_issues.mp member with found | ⟨entry, inside, found⟩ | ⟨n, inside, found⟩ |
    ⟨n, inside, found⟩ | found | found | found
  · exact never among_identityIssues (by decide) found
  · rw [edgeIssues_tidied marksNone] at found
    obtain ⟨ends, shape⟩ := of_mem_edgeIssues (List.fst_mem_of_mem_zipIdx inside) found
    have param : i.code ≠ .paramUnknown := by
      intro same
      have code := code_of_mem_edgeIssues found
      simp [same] at code
    refine ⟨?_, shape⟩
    simp only [List.mem_cons, List.not_mem_nil, or_false, not_or] at ends ⊢
    exact ⟨ends.1, ends.2, param⟩
  · exact never among_arityIssues (by decide) (List.mem_flatMap.mpr ⟨n, inside, found⟩)
  · obtain ⟨n, -, rfl⟩ := List.mem_map.mp inside
    rw [n.paramIssues_tidy marksNone] at found
    cases found
  · exact never among_cycleIssues (by decide) found
  · exact never among_connectionIssues (by decide) found
  · exact never among_isolationIssues (by decide) found

end

/-- The report before tidying and after. -/
theorem tidy_validate (g : Graph) (m : Manifest) (marksNone : m.MarksNone) :
    let t := (g.tidy m).graph
    let before := g.validate m
    let after := t.validate m
    t.order = g.order ∧ t.isAcyclic = g.isAcyclic ∧
    after.placeholders = before.placeholders ∧
    after.found [.nodeIdMissing, .nodeIdDuplicate, .graphCycle] =
      before.found [.nodeIdMissing, .nodeIdDuplicate, .graphCycle] ∧
    (after.found fitCodes).map (fun i => (i.code, i.message)) =
      (before.found fitCodes).map (fun i => (i.code, i.message)) ∧
    after.found [.edgeFromMissing, .edgeToMissing, .paramUnknown] = [] ∧
    (after.found [.edgeShape] ≠ [] → ∃ n ∈ g.nodes, n.id = "") ∧
    after.blockedSinks.Sublist before.blockedSinks ∧
    ((∀ e ∈ g.edges, e.source ∈ g.ids ∧ e.target ∈ g.ids) →
      after = { before with
        warnings := before.warnings.filter (·.code != .paramUnknown) }) := by
  intro t before after
  refine ⟨order_tidied g m, isAcyclic_tidied g m, ?_, ?_, ?_, ?_, ?_, ?_, ?_⟩
  · exact map_placeholders_tidied marksNone (Placeholder.ofNode_tidy m)
  · rw [found_validate (by decide), found_validate (by decide), ofCodes_identity_cycle,
      ofCodes_identity_cycle]
    show (g.tidied m).identityIssues ++ (g.tidied m).cycleIssues = _
    rw [identityIssues_tidied, cycleIssues_tidied]
  · rw [found_validate (by decide), found_validate (by decide)]
    exact wording_fit_tidied marksNone
  · refine List.filter_eq_nil_iff.mpr fun i member listed => ?_
    have left := (mem_issues_tidied marksNone (mem_issues_validate.mp member)).1
    exact left (List.contains_iff_mem.mp listed)
  · intro shape
    obtain ⟨i, member⟩ := List.exists_mem_of_ne_nil _ shape
    obtain ⟨inside, code⟩ := mem_ofCodes.mp member
    exact (mem_issues_tidied marksNone (mem_issues_validate.mp inside)).2
      (List.mem_singleton.mp code)
  · exact blockedSinks_tidied marksNone
  · exact validate_tidied marksNone

/-! ## An unknown parameter beside a node without edges -/

namespace Stale

def manifest : Manifest :=
  Manifest.insert {} "export" { defaults := .ofList [("format", .string "png")] }

def graph : Graph where
  nodes := [
    { id := "a", type := "export", params? := some (.ofList [("extra", .null)]) },
    { id := "b", type := "export" },
    { id := "c", type := "export" }]
  edges := [.between "a" "b"]

theorem manifest_marksNone : manifest.MarksNone := by
  intro name type held
  rw [Manifest.type?, manifest, Manifest.insert, Table.get?_insert] at held
  split at held
  · cases held
    have none : (Table.ofList [("format", Json.string "png")]).get? "placeholder" = none := rfl
    simp [none]
  · cases held

theorem tidy_validate_stale :
    manifest.MarksNone ∧
    (∀ e ∈ graph.edges, e.source ∈ graph.ids ∧ e.target ∈ graph.ids) ∧
    (graph.validate manifest).warnings.map (·.code) = [.paramUnknown, .nodeIsolated] ∧
    (graph.tidy manifest).graph.validate manifest = { graph.validate manifest with
      warnings := (graph.validate manifest).warnings.filter (·.code != .paramUnknown) } := by
  have closed : ∀ e ∈ graph.edges, e.source ∈ graph.ids ∧ e.target ∈ graph.ids := by decide
  obtain ⟨-, -, -, -, -, -, -, -, whole⟩ := tidy_validate graph manifest manifest_marksNone
  exact ⟨manifest_marksNone, closed, by decide +kernel, whole closed⟩

end Stale

end Graph

end Dataflow
