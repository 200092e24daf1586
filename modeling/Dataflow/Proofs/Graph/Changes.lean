import Dataflow.Proofs.Graph.Diff

/-!
# What a difference says

A difference lists what came, what went and what changed between two graphs, and lists it
exactly (`between_exact`): every list has each of its members once, in the order in which
they first occur, and has no other members. Of several nodes with one id the last counts, and
a parameter that is absent differs from one that is `null`.

A graph differs in nothing from itself, and taking the graphs the other way round swaps what
came with what went.
-/

namespace Dataflow

variable {a b g : Graph} {id : String} {n : Node}

/-! ## The last node of an id -/

/-- The node has the id, and no later one has. -/
def Graph.Last (g : Graph) (id : String) (n : Node) : Prop :=
  ∃ before after, g.nodes = before ++ n :: after ∧ n.id = id ∧ ∀ other ∈ after, other.id ≠ id

namespace Diff

theorem lastNode?_eq_some_iff : lastNode? g id = some n ↔ g.Last id n := by
  rw [lastNode?, List.find?_eq_some_iff_append, beq_iff_eq]
  constructor
  · rintro ⟨named, after, before, split, others⟩
    refine ⟨before.reverse, after.reverse, ?_, named, fun other member => ?_⟩
    · rw [← List.reverse_inj, split]
      simp
    · simpa using others other (List.mem_reverse.mp member)
  · rintro ⟨before, after, split, named, others⟩
    refine ⟨named, after.reverse, before.reverse, by simp [split], fun other member => ?_⟩
    simpa using others other (List.mem_reverse.mp member)

/-- Every id in a graph is that of a last node. -/
theorem exists_last_iff : (∃ n, g.Last id n) ↔ id ∈ g.ids := by
  simp only [← lastNode?_eq_some_iff, ← Option.isSome_iff_exists]
  simp [lastNode?, Graph.ids]

/-! ## Changed parameters -/

section

variable {before after : Params} {key : String}

theorem sameValue_eq (v? w? : Option Json) : sameValue v? w? = (v? == w?) := by
  cases v? <;> cases w? <;> rfl

/-- A key changes when its values differ or only one side has it. -/
theorem mem_changedKeys :
    key ∈ changedKeys before after ↔ (before.get? key == after.get? key) = false := by
  rw [changedKeys, List.mem_filter, Table.mem_sortedNames, List.mem_append, sameValue_eq,
    Bool.not_eq_true', and_iff_right_iff_imp]
  intro differs
  by_contra neither
  obtain ⟨absent, absent'⟩ := not_or.mp neither
  rw [Table.get?_eq_none_iff.mpr absent, Table.get?_eq_none_iff.mpr absent'] at differs
  cases differs

/-- No key changes exactly when the tables are equal as values. -/
theorem changedKeys_eq_nil_iff : changedKeys before after = [] ↔ (before == after) = true := by
  rw [List.eq_nil_iff_forall_not_mem, Table.beq_iff]
  simp only [mem_changedKeys, Bool.not_eq_false]

theorem changedKeys_ne_nil_iff : changedKeys before after ≠ [] ↔ (before == after) = false := by
  rw [← Bool.not_eq_true, ← changedKeys_eq_nil_iff]

theorem changedKeys_comm (before after : Params) :
    changedKeys before after = changedKeys after before := by
  refine Table.eq_of_ascending (changedKeys_ascending _ _) (changedKeys_ascending _ _) fun key => ?_
  rw [mem_changedKeys, mem_changedKeys, Json.beq_comm_option]

end

/-- The last nodes of the id in the two graphs have different parameters. -/
def ParamsDiffer (a b : Graph) (id : String) : Prop :=
  ∃ x y, a.Last id x ∧ b.Last id y ∧ (x.params == y.params) = false

/-- What a change says: the last nodes of its id differ in just its keys, which ascend. -/
def IsChange (a b : Graph) (c : ParamChange) : Prop :=
  ∃ x y, a.Last c.id x ∧ b.Last c.id y ∧ c.keys.Pairwise (· < ·) ∧
    ∀ key, key ∈ c.keys ↔ (x.params.get? key == y.params.get? key) = false

/-- A change is listed for the last nodes of an id when their parameters differ. -/
theorem paramChange?_eq_some_iff {c : ParamChange} : paramChange? a b id = some c ↔
    ∃ x y, a.Last id x ∧ b.Last id y ∧ (x.params == y.params) = false ∧
      c = ⟨id, changedKeys x.params y.params⟩ := by
  unfold paramChange?
  constructor
  · intro found
    split at found
    · rename_i x y last last'
      cases keys : changedKeys x.params y.params with
      | nil => simp [keys] at found
      | cons key rest =>
          have differ : changedKeys x.params y.params ≠ [] := by simp [keys]
          simp only [keys] at found
          cases found
          exact ⟨x, y, lastNode?_eq_some_iff.mp last, lastNode?_eq_some_iff.mp last',
            changedKeys_ne_nil_iff.mp differ, by rw [keys]⟩
    · cases found
  · rintro ⟨x, y, last, last', differ, rfl⟩
    rw [lastNode?_eq_some_iff.mpr last, lastNode?_eq_some_iff.mpr last']
    cases keys : changedKeys x.params y.params with
    | nil => exact absurd keys (changedKeys_ne_nil_iff.mpr differ)
    | cons key rest => simp only [keys]

theorem id_of_paramChange? {c : ParamChange} (found : paramChange? a b id = some c) :
    c.id = id := by
  obtain ⟨x, y, -, -, -, rfl⟩ := paramChange?_eq_some_iff.mp found
  rfl

theorem isChange_of_paramChange? {c : ParamChange} (found : paramChange? a b id = some c) :
    IsChange a b c := by
  obtain ⟨x, y, last, last', -, rfl⟩ := paramChange?_eq_some_iff.mp found
  exact ⟨x, y, last, last', changedKeys_ascending _ _, fun _ => mem_changedKeys⟩

theorem paramChange?_isSome_iff :
    (paramChange? a b id).isSome = true ↔ ParamsDiffer a b id := by
  rw [Option.isSome_iff_exists]
  constructor
  · rintro ⟨c, found⟩
    obtain ⟨x, y, last, last', differ, -⟩ := paramChange?_eq_some_iff.mp found
    exact ⟨x, y, last, last', differ⟩
  · rintro ⟨x, y, last, last', differ⟩
    exact ⟨_, paramChange?_eq_some_iff.mpr ⟨x, y, last, last', differ, rfl⟩⟩

theorem paramChange?_comm (a b : Graph) (id : String) :
    paramChange? a b id = paramChange? b a id := by
  unfold paramChange?
  cases lastNode? a id with
  | none => cases lastNode? b id <;> rfl
  | some x =>
      cases lastNode? b id with
      | none => rfl
      | some y => simp only [changedKeys_comm x.params]

theorem mem_paramChanges {c : ParamChange} :
    c ∈ (between a b).paramChanges ↔ paramChange? a b c.id = some c := by
  show c ∈ b.distinctIds.filterMap (paramChange? a b) ↔ _
  rw [List.mem_filterMap]
  constructor
  · rintro ⟨id, -, found⟩
    rw [id_of_paramChange? found, found]
  · intro found
    obtain ⟨x, y, -, last, -, -⟩ := paramChange?_eq_some_iff.mp found
    exact ⟨c.id, List.mem_eraseDups.mpr (exists_last_iff.mp ⟨y, last⟩), found⟩

/-- The ids of the changes are the ids that changed, in their order. -/
theorem ids_paramChanges (a b : Graph) : (between a b).paramChanges.map (·.id) =
    b.distinctIds.filter fun id => (paramChange? a b id).isSome := by
  show (b.distinctIds.filterMap (paramChange? a b)).map (·.id) = _
  induction b.distinctIds with
  | nil => rfl
  | cons id rest ih =>
      cases found : paramChange? a b id with
      | none =>
          rw [List.filterMap_cons_none found, List.filter_cons_of_neg (by simp [found]), ih]
      | some c =>
          rw [List.filterMap_cons_some found, List.filter_cons_of_pos (by simp [found]),
            List.map_cons, ih, id_of_paramChange? found]

/-! ## The whole difference -/

/-- What a difference between two graphs has to list. -/
structure IsExact (a b : Graph) (d : Diff) : Prop where
  addedNodes : Picks b.ids (· ∉ a.ids) d.addedNodes
  removedNodes : Picks a.ids (· ∉ b.ids) d.removedNodes
  addedEdges : Picks (b.edges.map EdgeKey.ofEdge) (· ∉ a.edges.map EdgeKey.ofEdge) d.addedEdges
  removedEdges : Picks (a.edges.map EdgeKey.ofEdge) (· ∉ b.edges.map EdgeKey.ofEdge) d.removedEdges
  changedIds : Picks b.ids (ParamsDiffer a b) (d.paramChanges.map (·.id))
  changes : ∀ c ∈ d.paramChanges, IsChange a b c

/-- The difference of two graphs lists what it should, each part in order. -/
theorem between_isExact (a b : Graph) : (between a b).IsExact a b where
  addedNodes := picks_filter_eraseDups (fun id => by simp [Graph.hasNode]) b.ids
  removedNodes := picks_filter_eraseDups (fun id => by simp [Graph.hasNode]) a.ids
  addedEdges := picks_filter_eraseDups (fun k => by simp [hasEdge]) (b.edges.map EdgeKey.ofEdge)
  removedEdges := picks_filter_eraseDups (fun k => by simp [hasEdge]) (a.edges.map EdgeKey.ofEdge)
  changedIds := by
    rw [ids_paramChanges]
    exact picks_filter_eraseDups (fun id => paramChange?_isSome_iff) b.ids
  changes := fun _ member => isChange_of_paramChange? (mem_paramChanges.mp member)

/-- The graphs have the same ids, edges between the same nodes, and equal parameters. -/
structure Agree (a b : Graph) : Prop where
  ids : ∀ id, id ∈ a.ids ↔ id ∈ b.ids
  edges : ∀ k, k ∈ a.edges.map EdgeKey.ofEdge ↔ k ∈ b.edges.map EdgeKey.ofEdge
  params : ∀ id x y, a.Last id x → b.Last id y → (x.params == y.params) = true

theorem agree_self (g : Graph) : Agree g g where
  ids := fun _ => .rfl
  edges := fun _ => .rfl
  params := by
    intro id x y last last'
    rw [← lastNode?_eq_some_iff] at last last'
    cases last.symm.trans last'
    exact beq_self_eq_true x.params

theorem not_paramsDiffer_iff : ¬ ParamsDiffer a b id ↔
    ∀ x y, a.Last id x → b.Last id y → (x.params == y.params) = true := by
  simp only [ParamsDiffer, not_exists, not_and, Bool.not_eq_false]

/-- A difference that lists what it has to is empty for graphs that agree, and for no others. -/
theorem IsExact.isEmpty_iff {d : Diff} (exact : d.IsExact a b) :
    d.isEmpty = true ↔ Agree a b := by
  simp only [isEmpty, Bool.and_eq_true, List.isEmpty_iff, exact.addedNodes.eq_nil_iff,
    exact.removedNodes.eq_nil_iff, exact.addedEdges.eq_nil_iff, exact.removedEdges.eq_nil_iff,
    not_not]
  rw [← List.map_eq_nil_iff, exact.changedIds.eq_nil_iff]
  constructor
  · rintro ⟨⟨⟨⟨addedNodes, removedNodes⟩, addedEdges⟩, removedEdges⟩, changes⟩
    refine ⟨fun id => ⟨removedNodes id, addedNodes id⟩,
      fun k => ⟨removedEdges k, addedEdges k⟩, fun id x y last last' => ?_⟩
    exact not_paramsDiffer_iff.mp (changes id (exists_last_iff.mp ⟨y, last'⟩)) x y last last'
  · rintro ⟨ids, edges, params⟩
    exact ⟨⟨⟨⟨fun id => (ids id).mpr, fun id => (ids id).mp⟩, fun k => (edges k).mpr⟩,
      fun k => (edges k).mp⟩, fun id _ => not_paramsDiffer_iff.mpr (params id)⟩

theorem nodup_paramChanges (a b : Graph) : (between a b).paramChanges.Nodup :=
  (between_isExact a b).changedIds.nodup.of_map

/-- The same parameters changed either way. -/
theorem paramChanges_swap (a b : Graph) :
    (between b a).paramChanges.Perm (between a b).paramChanges := by
  rw [List.perm_ext_iff_of_nodup (nodup_paramChanges b a) (nodup_paramChanges a b)]
  exact fun c => by rw [mem_paramChanges, mem_paramChanges, paramChange?_comm]

/-- A difference lists what it has to. So it is empty from a graph to itself, and altogether
just where the graphs agree; taken the other way it swaps what came with what went. -/
theorem between_exact (a b : Graph) :
    let d := between a b
    let d' := between b a
    d.IsExact a b ∧ (between a a).isEmpty = true ∧
    (d'.addedNodes = d.removedNodes ∧ d'.removedNodes = d.addedNodes ∧
      d'.addedEdges = d.removedEdges ∧ d'.removedEdges = d.addedEdges ∧
      d'.paramChanges.Perm d.paramChanges) ∧
    (d.isEmpty = true ↔ Agree a b) := by
  intro d d'
  have exact : d.IsExact a b := between_isExact a b
  have empty : (between a a).isEmpty = true :=
    (between_isExact a a).isEmpty_iff.mpr (agree_self a)
  exact ⟨exact, empty, ⟨rfl, rfl, rfl, rfl, paramChanges_swap a b⟩, exact.isEmpty_iff⟩

/-! ## Repeated ids, parallel edges and a parameter that is `null` -/

namespace Repeated

def before : Graph where
  nodes := [
    { id := "a", type := "t", params? := some (.ofList [("k", .bool true)]) },
    { id := "old", type := "t" },
    { id := "a", type := "t", params? := some (.ofList [("z", .null), ("k", .bool false)]) }]
  edges := [.between "a" "old", .between "a" "a", .between "a" "old"]

def after : Graph where
  nodes := [
    { id := "new", type := "t" },
    { id := "a", type := "t", params? := some (.ofList [("k", .bool false)]) },
    { id := "new", type := "t", params? := some (.ofList [("k", .null)]) }]
  edges := [.between "new" "a", .between "a" "a", .between "new" "a"]

/-- Only the last node of `a` counts, and that `z` was `null` there is not its absence. -/
example : between before after =
    { addedNodes := ["new"], removedNodes := ["old"], addedEdges := [⟨"new", "a"⟩]
      removedEdges := [⟨"a", "old"⟩], paramChanges := [⟨"a", ["z"]⟩] } := by
  decide +kernel

end Repeated

end Diff

end Dataflow
