import Dataflow.Graph.Diff
import Dataflow.Proofs.Graph.Tidy
import Dataflow.Proofs.Lists
import Mathlib.Data.List.Forall2

/-!
# What tidying changes

The difference between a graph and its tidied form, and the repairs that tidying reports, are
found in two ways: the one compares two graphs as they are, the other looks at edges and
parameters while it changes them. They agree (`tidy_diff`): no node comes or goes, the edges
that go are the dangling ones, and a node has its parameters changed exactly when they are
not named as those of its type.
-/

namespace Dataflow

/-- A filter and a choice go through a list in step. -/
theorem forall₂_filter_filterMap {α β : Type} {r : α → β → Prop} {p : α → Bool}
    {f : α → Option β} {items : List α} (dropped : ∀ a ∈ items, p a = false → f a = none)
    (kept : ∀ a ∈ items, p a = true → ∃ b, f a = some b ∧ r a b) :
    List.Forall₂ r (items.filter p) (items.filterMap f) := by
  induction items with
  | nil => exact .nil
  | cons a rest ih =>
      obtain ⟨first, dropped⟩ := List.forall_mem_cons.mp dropped
      obtain ⟨first', kept⟩ := List.forall_mem_cons.mp kept
      cases held : p a with
      | false =>
          rw [List.filter_cons_of_neg (by simp [held]), List.filterMap_cons_none (first held)]
          exact ih dropped kept
      | true =>
          obtain ⟨b, found, related⟩ := first' held
          rw [List.filter_cons_of_pos held, List.filterMap_cons_some found]
          exact .cons related (ih dropped kept)

/-- The node has parameters that are not named as those of its type. Placeholders have no
type to be held to. -/
def Node.isUntidy (m : Manifest) (n : Node) : Bool :=
  !n.isMarked && (m.type? n.type).any fun type => type.defaults.keys != n.params.keys

/-- A node is untidy when it is held to a type and has other parameters than the type declares. -/
theorem Node.isUntidy_iff {m : Manifest} {n : Node} : n.isUntidy m = true ↔
    ∃ type, m.typeOf? n = some type ∧ type.defaults.keys ≠ n.params.keys := by
  unfold isUntidy Manifest.typeOf?
  cases n.isMarked with
  | true => simp
  | false => simp [Option.any_eq_true]

/-- The nodes whose parameters change in tidying. -/
theorem Node.params_tidy_bne (m : Manifest) (n : Node) :
    ((n.tidy m).params != n.params) = n.isUntidy m := by
  rw [Bool.eq_iff_iff, isUntidy_iff, bne, Bool.not_eq_true', ← Bool.not_eq_true,
    params_tidy_beq_iff]
  simp

namespace Diff

variable {g : Graph} {m : Manifest} {n : Node} {before after : Params} {key : String}

/-! ## Changes of parameters -/

theorem sameValue_self (v? : Option Json) : sameValue v? v? = true := by
  cases v? with
  | none => rfl
  | some v => exact v.equal_refl

theorem changedKeys_self (params : Params) : changedKeys params params = [] := by
  refine List.filter_eq_nil_iff.mpr fun key _ => ?_
  simp [sameValue_self]

/-- Changed keys are listed in order, each once. -/
theorem changedKeys_ascending (before after : Params) :
    (changedKeys before after).Pairwise (· < ·) :=
  (Table.sortedNames_ascending _).filter _

/-- Merging parameters with defaults changes those that only one of both has. -/
theorem mem_changedKeys_mergedParams {defaults params : Params} :
    key ∈ changedKeys params (mergedParams defaults params) ↔
      ¬ (key ∈ defaults.keys ↔ key ∈ params.keys) := by
  rw [changedKeys, List.mem_filter, Table.mem_sortedNames, List.mem_append, keys_mergedParams,
    get?_mergedParams]
  have held : ∀ t : Params, key ∈ t.keys ↔ ∃ value, t.get? key = some value := fun t => by
    rw [← Table.contains_iff_mem, Table.contains_iff]
  rw [held defaults, held params]
  cases defaults.get? key with
  | none =>
      cases params.get? key with
      | none => simp
      | some value => simp [sameValue]
  | some default =>
      cases params.get? key with
      | none => simp [sameValue]
      | some value => simp [sameValue_self]

/-- The change of a node's parameters to those of its type. -/
structure Renames (m : Manifest) (n : Node) (c : ParamChange) : Prop where
  id_eq : c.id = n.id
  ascending : c.keys.Pairwise (· < ·)
  /-- The names are those that only one of the parameters and the defaults has. -/
  mem_keys : ∀ type, m.typeOf? n = some type →
    ∀ key, key ∈ c.keys ↔ ¬ (key ∈ type.defaults.keys ↔ key ∈ n.params.keys)

/-- Where ids are distinct, every node is the last of its id. -/
theorem lastNode?_eq_some (distinct : g.ids.Nodup) (member : n ∈ g.nodes) :
    lastNode? g n.id = some n := by
  cases found : lastNode? g n.id with
  | none =>
      have other := List.find?_eq_none.mp found n (List.mem_reverse.mpr member)
      simp at other
  | some last =>
      rw [lastNode?] at found
      have inside := List.mem_reverse.mp (List.mem_of_find?_eq_some found)
      have same := List.find?_some found
      rw [List.inj_on_of_nodup_map distinct inside member (eq_of_beq same)]

/-- What tidying changes on a node is what the difference lists for it. -/
theorem paramChange?_tidied (distinct : g.ids.Nodup) (member : n ∈ g.nodes) :
    paramChange? g (g.tidied m) n.id =
      if changedKeys n.params (n.tidy m).params = [] then none
      else some ⟨n.id, changedKeys n.params (n.tidy m).params⟩ := by
  have after : lastNode? (g.tidied m) n.id = some (n.tidy m) := by
    have distinct' : (g.tidied m).ids.Nodup := by rwa [Graph.ids_tidied]
    rw [← n.tidy_id m]
    exact lastNode?_eq_some distinct' (List.mem_map_of_mem member)
  unfold paramChange?
  rw [lastNode?_eq_some distinct member, after]
  dsimp only
  cases changedKeys n.params (n.tidy m).params with
  | nil => rfl
  | cons key rest => rfl

theorem paramChanges_tidied (distinct : g.ids.Nodup) :
    (between g (g.tidied m)).paramChanges =
      g.nodes.filterMap fun n => paramChange? g (g.tidied m) n.id := by
  show (g.tidied m).distinctIds.filterMap _ = _
  rw [Graph.distinctIds_tidied, Graph.distinctIds, eraseDups_eq_self distinct, Graph.ids,
    List.filterMap_map]
  rfl

/-- The changes are those of the nodes that are not tidy, in their order. -/
theorem renames_untidy (distinct : g.ids.Nodup) :
    List.Forall₂ (Renames m) (g.nodes.filter (·.isUntidy m))
      (between g (g.tidied m)).paramChanges := by
  rw [paramChanges_tidied distinct]
  apply forall₂_filter_filterMap
  · intro n member tidy
    have same : changedKeys n.params (n.tidy m).params = [] := by
      cases typed : m.typeOf? n with
      | none =>
          rw [Node.tidy_of_none typed]
          exact changedKeys_self n.params
      | some type =>
          have names : type.defaults.keys = n.params.keys := by
            by_contra other
            rw [Node.isUntidy_iff.mpr ⟨type, typed, other⟩] at tidy
            cases tidy
          rw [Node.params_tidy typed, mergedParams_eq_self names]
          exact changedKeys_self n.params
    rw [paramChange?_tidied distinct member, if_pos same]
  · intro n member untidy
    obtain ⟨type, typed, other⟩ := Node.isUntidy_iff.mp untidy
    have names : ∀ key, key ∈ changedKeys n.params (n.tidy m).params ↔
        ¬ (key ∈ type.defaults.keys ↔ key ∈ n.params.keys) := by
      intro key
      rw [Node.params_tidy typed]
      exact mem_changedKeys_mergedParams
    -- without a changed name the names would be the same
    have changed : changedKeys n.params (n.tidy m).params ≠ [] := by
      intro none
      rw [none] at names
      refine other (Table.keys_eq_iff.mpr fun key => ?_)
      by_contra differs
      cases (names key).mpr differs
    refine ⟨_, (paramChange?_tidied distinct member).trans (if_neg changed), rfl,
      changedKeys_ascending _ _, ?_⟩
    intro type' typed' key
    rw [typed] at typed'
    cases typed'
    exact names key

theorem ids_of_renames {nodes : List Node} {changes : List ParamChange}
    (renames : List.Forall₂ (Renames m) nodes changes) :
    changes.map (·.id) = nodes.map (·.id) := by
  induction renames with
  | nil => rfl
  | cons first _ ih => rw [List.map_cons, List.map_cons, first.id_eq, ih]

/-- The ids of the changes are those that tidying reports. -/
theorem ids_paramChanges_tidied (distinct : g.ids.Nodup) :
    (between g (g.tidied m)).paramChanges.map (·.id) = g.changedParams m := by
  rw [ids_of_renames (renames_untidy distinct), Graph.changedParams]
  simp only [Node.params_tidy_bne]

/-! ## Edges that go -/

theorem hasEdge_iff {k : EdgeKey} :
    hasEdge g k = true ↔ ∃ e ∈ g.edges, EdgeKey.ofEdge e = k := by
  simp [hasEdge]

theorem mem_edgeKeys {k : EdgeKey} : k ∈ edgeKeys g ↔ ∃ e ∈ g.edges, EdgeKey.ofEdge e = k := by
  simp [edgeKeys, List.mem_eraseDups]

/-- Of an edge, its key tells whether it connects two nodes. -/
theorem connects_of_key_eq {e e' : Edge} (same : EdgeKey.ofEdge e = EdgeKey.ofEdge e') :
    g.connects e = g.connects e' := by
  rw [EdgeKey.ofEdge, EdgeKey.ofEdge, EdgeKey.mk.injEq] at same
  rw [Graph.connects, Graph.connects, same.1, same.2]

/-- An edge outlives tidying exactly when it connects two nodes. -/
theorem hasEdge_tidied {e : Edge} (member : e ∈ g.edges) :
    hasEdge (g.tidied m) (EdgeKey.ofEdge e) = g.connects e := by
  rw [Bool.eq_iff_iff, hasEdge_iff, Graph.edges_tidied]
  constructor
  · rintro ⟨e', link, same⟩
    rw [← connects_of_key_eq same]
    exact (List.mem_filter.mp link).2
  · intro connects
    exact ⟨e, List.mem_filter.mpr ⟨member, connects⟩, rfl⟩

/-- The edges that a tidied graph lacks are the dangling ones. -/
theorem removedEdges_tidied : (between g (g.tidied m)).removedEdges =
    ((g.edges.filter fun e => !g.connects e).map EdgeKey.ofEdge).eraseDups := by
  show (edgeKeys g).filter (!hasEdge (g.tidied m) ·) = _
  rw [edgeKeys, filter_eraseDups, List.filter_map]
  congr 2
  refine List.filter_congr fun e member => ?_
  rw [Function.comp_apply, hasEdge_tidied member]

theorem removedEdges_eq_nil_iff :
    (between g (g.tidied m)).removedEdges = [] ↔ g.edges.all g.connects = true := by
  rw [removedEdges_tidied, List.eq_nil_iff_forall_not_mem]
  simp only [List.mem_eraseDups, List.mem_map, List.mem_filter, Bool.not_eq_true',
    List.all_eq_true]
  constructor
  · intro none e member
    by_contra dangling
    exact none _ ⟨e, ⟨member, Bool.eq_false_iff.mpr dangling⟩, rfl⟩
  · rintro all k ⟨e, ⟨member, dangling⟩, -⟩
    rw [all e member] at dangling
    cases dangling

theorem addedEdges_tidied : (between g (g.tidied m)).addedEdges = [] := by
  refine List.filter_eq_nil_iff.mpr fun k member => ?_
  obtain ⟨e, link, same⟩ := mem_edgeKeys.mp member
  rw [hasEdge_iff.mpr ⟨e, List.mem_of_mem_filter link, same⟩]
  exact Bool.false_ne_true

/-! ## Nodes that stay -/

theorem addedNodes_tidied : (between g (g.tidied m)).addedNodes = [] := by
  refine List.filter_eq_nil_iff.mpr fun id member => ?_
  rw [Graph.distinctIds_tidied, Graph.distinctIds, List.mem_eraseDups] at member
  rw [Graph.hasNode_iff.mpr member]
  exact Bool.false_ne_true

theorem removedNodes_tidied : (between g (g.tidied m)).removedNodes = [] := by
  refine List.filter_eq_nil_iff.mpr fun id member => ?_
  rw [Graph.distinctIds, List.mem_eraseDups] at member
  rw [Graph.hasNode_tidied, Graph.hasNode_iff.mpr member]
  exact Bool.false_ne_true

end Diff

/-! ## Repairs -/

namespace Graph

variable {g : Graph} {m : Manifest} {f : Fix}

/-- The fixes are that edges dangle and that parameters change, each where it is so. -/
theorem mem_fixes : f ∈ g.fixes m ↔
    (f = .danglingEdges ∧ g.edges.all g.connects = false) ∨
      (f = .params (g.changedParams m) ∧ g.changedParams m ≠ []) := by
  unfold fixes
  rw [List.mem_append]
  refine or_congr ?_ ?_
  · cases g.edges.all g.connects <;> simp
  · cases g.changedParams m <;> simp

theorem exists_danglingEdges_iff :
    (∃ f ∈ g.fixes m, f.code = "edge/remove-dangling") ↔ g.edges.all g.connects = false := by
  constructor
  · rintro ⟨f, member, code⟩
    rcases mem_fixes.mp member with ⟨-, dangling⟩ | ⟨rfl, -⟩
    · exact dangling
    · simp [Fix.code] at code
  · intro dangling
    exact ⟨.danglingEdges, mem_fixes.mpr (Or.inl ⟨rfl, dangling⟩), rfl⟩

theorem eq_params_of_mem_fixes (member : f ∈ g.fixes m) (code : f.code = "param/normalize") :
    f = .params (g.changedParams m) ∧ g.changedParams m ≠ [] := by
  rcases mem_fixes.mp member with ⟨rfl, -⟩ | params
  · simp [Fix.code] at code
  · exact params

theorem exists_params_iff :
    (∃ f ∈ g.fixes m, f.code = "param/normalize") ↔ g.changedParams m ≠ [] := by
  constructor
  · rintro ⟨f, member, code⟩
    exact (eq_params_of_mem_fixes member code).2
  · intro changed
    exact ⟨.params (g.changedParams m), mem_fixes.mpr (Or.inr ⟨rfl, changed⟩), rfl⟩

/-- There is nothing to fix when no edge dangles and no parameters change. -/
theorem fixes_eq_nil_iff :
    g.fixes m = [] ↔ g.edges.all g.connects = true ∧ g.changedParams m = [] := by
  unfold fixes
  rw [List.append_eq_nil_iff]
  refine and_congr ?_ ?_
  · cases g.edges.all g.connects <;> simp
  · cases g.changedParams m <;> simp

/-- Tidying and comparing find the same changes. -/
theorem tidy_diff (g : Graph) (m : Manifest) :
    let r := g.tidy m
    let d := Diff.between g r.graph
    d.addedNodes = [] ∧ d.removedNodes = [] ∧ d.addedEdges = [] ∧
    d.removedEdges = ((g.edges.filter fun e => !g.connects e).map EdgeKey.ofEdge).eraseDups ∧
    ((∃ f ∈ r.fixes, f.code = "edge/remove-dangling") ↔ d.removedEdges ≠ []) ∧
    (g.ids.Nodup →
      List.Forall₂ (Diff.Renames m) (g.nodes.filter (·.isUntidy m)) d.paramChanges ∧
      ((∃ f ∈ r.fixes, f.code = "param/normalize") ↔ d.paramChanges ≠ []) ∧
      (∀ f ∈ r.fixes, f.code = "param/normalize" → f.message =
        "normalized params on " ++ String.intercalate ", " (d.paramChanges.map (·.id))) ∧
      (r.fixes = [] ↔ d.isEmpty = true)) := by
  intro r d
  have dangling : d.removedEdges = [] ↔ g.edges.all g.connects = true :=
    Diff.removedEdges_eq_nil_iff
  refine ⟨Diff.addedNodes_tidied, Diff.removedNodes_tidied, Diff.addedEdges_tidied,
    Diff.removedEdges_tidied, ?_, ?_⟩
  · show (∃ f ∈ g.fixes m, _) ↔ _
    rw [exists_danglingEdges_iff, ne_eq, dangling, Bool.not_eq_true]
  · intro distinct
    have ids : d.paramChanges.map (·.id) = g.changedParams m :=
      Diff.ids_paramChanges_tidied distinct
    have none : d.paramChanges = [] ↔ g.changedParams m = [] := by rw [← ids, List.map_eq_nil_iff]
    refine ⟨Diff.renames_untidy distinct, ?_, ?_, ?_⟩
    · show (∃ f ∈ g.fixes m, _) ↔ _
      rw [exists_params_iff, ne_eq, ne_eq, none]
    · intro f member code
      rw [(eq_params_of_mem_fixes member code).1, ids]
      rfl
    · show g.fixes m = [] ↔ _
      rw [fixes_eq_nil_iff, ← dangling, ← none]
      simp [Diff.isEmpty, d, r, tidy, Diff.addedNodes_tidied, Diff.removedNodes_tidied,
        Diff.addedEdges_tidied]

/-! ## Parallel dangling edges, absent parameters and a placeholder -/

namespace Untidy

def manifest : Manifest :=
  Manifest.insert {} "export" { defaults := .ofList [("format", .string "png"), ("size", .null)] }

def graph : Graph where
  nodes := [
    { id := "a", type := "export" },
    { id := "b", type := "export"
      params? := some (.ofList [("extra", .null), ("format", .string "gif")]) },
    { id := "p", type := "export", params? := some (.ofList [("placeholder", .bool true)]) },
    { id := "q", type := "unknown", params? := some (.ofList [("extra", .null)]) }]
  edges := [.between "b" "ghost", .between "a" "b", .between "b" "ghost", .between "x" "y"]

theorem tidy_diff_untidy :
    let d := Diff.between graph (graph.tidy manifest).graph
    graph.ids.Nodup ∧ d.removedEdges = [⟨"b", "ghost"⟩, ⟨"x", "y"⟩] ∧
    d.paramChanges = [⟨"a", ["format", "size"]⟩, ⟨"b", ["extra", "size"]⟩] ∧
    List.Forall₂ (Diff.Renames manifest) (graph.nodes.filter (·.isUntidy manifest))
      d.paramChanges ∧
    ((∃ f ∈ (graph.tidy manifest).fixes, f.code = "param/normalize") ↔ d.paramChanges ≠ []) ∧
    ((graph.tidy manifest).fixes = [] ↔ d.isEmpty = true) := by
  have distinct : graph.ids.Nodup := by decide
  obtain ⟨-, -, -, -, -, params⟩ := tidy_diff graph manifest
  obtain ⟨renames, present, -, empty⟩ := params distinct
  exact ⟨distinct, by decide +kernel, by decide +kernel, renames, present, empty⟩

end Untidy

end Graph

end Dataflow
