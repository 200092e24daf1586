import Dataflow.Proofs.Execution.Ending
import Dataflow.Proofs.Text

/-!
# Inputs by slot

An executor gets its inputs as a list, and tells them apart by their places. The place of an
input is what the slot of its edge says, however the slot is written (`Slot.Spells`) and wherever
the edge stands in the graph, so long as the slots of the edges into a node number these from
zero (`run_inputs_at_slots`).

For that no input may be dropped. What a call sees is compared with the calls before it and what
they gave (`Run.Supplied`), so it is said of all calls of a run, and of executors that look back,
whether the run goes through or not.
-/

namespace Dataflow

/-! ## What a slot spells -/

theorem isBlank_eq_false_of_isDigit {c : Char} (digit : c.isDigit = true) : isBlank c = false := by
  have range : 48 ≤ c.toNat ∧ c.toNat ≤ 57 := by
    simpa [Char.isDigit, UInt32.le_iff_toNat_le] using digit
  simp only [isBlank]
  grind

/-- A numeral has at least one digit and nothing else. -/
theorem isDigit_of_decimal? {digits : List Char} {k : Nat} (numeral : decimal? digits = some k) :
    digits ≠ [] ∧ ∀ c ∈ digits, c.isDigit = true := by
  unfold decimal? at numeral
  split at numeral
  · cases numeral
  · next sound => simpa using sound

/-- A numeral, with or without a plus sign, is read as the number that its digits stand for. -/
theorem word?_of_decimal? {plus digits : List Char} {k : Nat} (sign : plus = [] ∨ plus = ['+'])
    (numeral : decimal? digits = some k) (small : k < UInt64.size) :
    word? (plus ++ digits) = some (.ofNat k) := by
  obtain ⟨nonempty, digit⟩ := isDigit_of_decimal? numeral
  rcases sign with rfl | rfl
  · -- a digit is no sign
    cases digits with
    | nil => exact absurd rfl nonempty
    | cons c rest =>
        have other : c ≠ '+' := by
          rintro rfl
          exact absurd (digit '+' List.mem_cons_self) (by decide)
        simp [word?, other, numeral, small]
  · simp [word?, numeral, small]

/-- A numeral has no blanks at its ends. -/
theorem trimmed_numeral {plus digits : List Char} {k : Nat} (sign : plus = [] ∨ plus = ['+'])
    (numeral : decimal? digits = some k) : Trimmed (plus ++ digits) ∧ plus ++ digits ≠ [] := by
  obtain ⟨nonempty, digit⟩ := isDigit_of_decimal? numeral
  have solid : ∀ c ∈ plus ++ digits, isBlank c = false := by
    intro c member
    rcases List.mem_append.mp member with among | among
    · rcases sign with rfl | rfl
      · cases among
      · rw [List.mem_singleton.mp among]
        decide
    · exact isBlank_eq_false_of_isDigit (digit c among)
  refine ⟨⟨fun c first => solid c (List.mem_of_head? first),
    fun c last => solid c (List.mem_of_getLast? last)⟩, by simp [nonempty]⟩

namespace Slot

/-- The ways to write a number as a slot: as a natural number, as a double without a fraction,
and as a numeral in a string, with or without a plus sign and with blanks around it. -/
inductive Spells : Json → Nat → Prop where
  | natural (value : UInt64) : Spells (.number (.natural value)) value.toNat
  | double {d : Double} {k : Nat} (sign : d.isNonnegative = true)
      (whole : d.steps = k <<< 1074) : Spells (.number (.double d)) k
  | text {before plus digits after : List Char} {k : Nat}
      (blank : ∀ c ∈ before ++ after, isBlank c = true) (sign : plus = [] ∨ plus = ['+'])
      (numeral : decimal? digits = some k) :
      Spells (.string (String.ofList (before ++ (plus ++ digits) ++ after))) k

/-- Whatever spells a number of 64 bits is read as its index. -/
theorem Spells.ofJson {written : Json} {k : Nat} (spells : Spells written k)
    (small : k < UInt64.size) : ofJson written = .index (.ofNat k) := by
  cases spells with
  | natural value => simp [Slot.ofJson]
  | @double d k sign whole =>
      have read : d.whole = k := by
        show d.steps >>> 1074 = k
        rw [whole, Nat.shiftLeft_shiftRight]
      have integral : d.isWhole = true := by rw [Double.isWhole, read, whole, beq_self_eq_true]
      have least : min k (UInt64.size - 1) = k := Nat.min_eq_left (Nat.le_sub_one_of_lt small)
      show ofDouble d = _
      rw [ofDouble, sign, integral, Bool.and_self, if_pos rfl, read, least]
  | @text before plus digits after k blank sign numeral =>
      obtain ⟨trimmed, nonempty⟩ := trimmed_numeral sign numeral
      simp only [Slot.ofJson, String.toList_ofList, trimmed.trimChars_append nonempty blank,
        word?_of_decimal? sign numeral small]

end Slot

/-! ## What a call is supplied with -/

namespace Run

variable {g : Graph} {registry : List Context → Registry} {made : List (Context × Json)}

/-- Calls that were made one after another, with what they gave: each was answered by the
executor of its type, as it answered after the calls before. -/
inductive Answered (registry : List Context → Registry) : List (Context × Json) → Prop where
  | start : Answered registry []
  | next {made : List (Context × Json)} {call : Context} {executor : Executor} {output : Json}
      (earlier : Answered registry made)
      (known : (registry (made.map (·.1))).executor? call.type = some executor)
      (answer : executor call = .ok output) : Answered registry (made ++ [(call, output)])

/-- One of the calls was of a node, and gave an output. -/
def Gave (made : List (Context × Json)) (id : String) (output : Json) : Prop :=
  ∃ call, (call, output) ∈ made ∧ call.node = id

/-- A call comes after others that went through, and has for its inputs what these gave for the
sources of its edges, in order of slot. -/
structure Supplied (g : Graph) (registry : List Context → Registry)
    (made : List (Context × Json)) (call : Context) : Prop where
  answered : Answered registry made
  inputs : List.Forall₂ (fun e input => Gave made e.source input)
    (g.orderedInputs call.node) call.inputs

/-- What an id gave stays given, whatever is called later. -/
theorem Gave.append {id : String} {output : Json} (gave : Gave made id output)
    (later : List (Context × Json)) : Gave (made ++ later) id output := by
  obtain ⟨call, member, node⟩ := gave
  exact ⟨call, List.mem_append_left _ member, node⟩

theorem forall₂_filterMap {α β : Type} {R : α → β → Prop} {f : α → Option β} {l : List α}
    (each : ∀ a ∈ l, ∃ b, f a = some b ∧ R a b) : List.Forall₂ R l (l.filterMap f) := by
  induction l with
  | nil => exact .nil
  | cons a rest ih =>
      obtain ⟨⟨b, here, related⟩, each⟩ := List.forall_mem_cons.mp each
      rw [List.filterMap_cons_some here]
      exact .cons related (ih each)

/-- The outputs of an outcome are those that the calls gave, and hold those of all sources that
are not still to be executed. -/
structure Recorded (g : Graph) (ids : List String) (made : List (Context × Json))
    (outcome : Outcome) : Prop where
  gave : ∀ id output, outcome.outputs.get? id = some output → Gave made id output
  held : ∀ id ∈ ids, ∀ u, g.Arc u id → u ∉ ids → ∃ output, outcome.outputs.get? u = some output

/-- Where a call has no source that is still to be executed, none of its inputs is dropped. -/
theorem Recorded.supplied {id : String} {rest : List String} {outcome : Outcome} {n : Node}
    (recorded : Recorded g (id :: rest) made outcome) (answered : Answered registry made)
    (found : g.node? id = some n) (first : ∀ u, g.Arc u id → u ∉ id :: rest) :
    Supplied g registry made (context g outcome.outputs n) := by
  obtain ⟨-, rfl⟩ := Graph.mem_of_node? found
  refine ⟨answered, forall₂_filterMap fun e member => ?_⟩
  obtain ⟨edge, target⟩ := Graph.mem_orderedInputs.mp member
  have arc : g.Arc e.source n.id := ⟨e, edge, rfl, target⟩
  obtain ⟨output, held⟩ := recorded.held n.id List.mem_cons_self e.source arc (first e.source arc)
  exact ⟨output, held, recorded.gave e.source output held⟩

/-- A call that goes through is recorded. -/
theorem Recorded.next {id : String} {rest : List String} {outcome : Outcome} {call : Context}
    (recorded : Recorded g (id :: rest) made outcome) (node : call.node = id) (output : Json) :
    Recorded g rest (made ++ [(call, output)])
      { order := outcome.order ++ [id], outputs := outcome.outputs.insert id output } where
  gave := by
    intro u given here
    rw [Table.get?_insert] at here
    by_cases same : u = id
    · rw [if_pos same] at here
      cases here
      exact ⟨call, List.mem_append_right _ List.mem_cons_self, node.trans same.symm⟩
    · rw [if_neg same] at here
      exact (recorded.gave u given here).append _
  held := by
    intro v later u arc outside
    rw [Table.get?_insert]
    by_cases same : u = id
    · exact ⟨output, if_pos same⟩
    · rw [if_neg same]
      exact recorded.held v (List.mem_cons_of_mem _ later) u arc
        (List.not_mem_cons_of_ne_of_not_mem same outside)

/-- In an execution that leads onward every call is supplied by the calls before it. -/
theorem executeAlong_supplied {ids : List String} {outcome : Outcome} (onward : g.Onward ids)
    (answered : Answered registry made) (recorded : Recorded g ids made outcome)
    {before after : List Context} {call : Context}
    (split : (executeAlong g registry ids (made.map (·.1)) outcome).calls =
      before ++ call :: after) :
    ∃ later : List (Context × Json), later.map (·.1) = before ∧
      Supplied g registry (made ++ later) call := by
  -- on the ids; what is recorded of the calls so far carries it from one call to the next
  induction ids generalizing made outcome before with
  | nil => simp [executeAlong] at split
  | cons id rest ih =>
      obtain ⟨first, onward⟩ := onward
      have step := executeAlong_cons g registry id rest (made.map (·.1)) outcome
      generalize executeAlong g registry (id :: rest) (made.map (·.1)) outcome = trace at step split
      cases step with
      | refused failure => simp at split
      | @failed n _ _ found known answer =>
          obtain ⟨rfl, rfl, -⟩ : before = [] ∧ context g outcome.outputs n = call ∧ after = [] := by
            cases before <;> simp_all
          exact ⟨[], rfl, by simpa using recorded.supplied answered found first⟩
      | @answered n executor output onwardTrace found known answer later =>
          -- the call in question is the first one, or a call of the rest
          cases before with
          | nil =>
              obtain ⟨rfl, -⟩ := List.cons.inj split
              exact ⟨[], rfl, by simpa using recorded.supplied answered found first⟩
          | cons head before =>
              obtain ⟨rfl, ahead⟩ := List.cons.inj split
              have recorded : Recorded g rest (made ++ [(context g outcome.outputs n, output)]) _ :=
                recorded.next (Graph.mem_of_node? found).2 output
              obtain ⟨calls, eq, supplied⟩ := ih onward (answered.next known answer) recorded
                (by rw [List.map_append, List.map_singleton, ← later]; exact ahead)
              refine ⟨(context g outcome.outputs n, output) :: calls, by rw [List.map_cons, eq], ?_⟩
              rwa [List.append_assoc, List.singleton_append] at supplied

end Run

/-! ## Inputs at their slots -/

/-- There is an input for every edge, and the one at the place that the slot of an edge says is
what its source gave. -/
structure Edge.AtSlots (edges : List Edge) (gave : String → Json → Prop) (inputs : List Json) :
    Prop where
  length : inputs.length = edges.length
  placed : ∀ e ∈ edges, ∀ k, e.slotIndex? = some k →
    ∃ output, inputs[k.toNat]? = some output ∧ gave e.source output

namespace Graph

variable {g : Graph} {m : Manifest}

/-- Where the slots number the edges into a node, inputs in order of slot are at their slots. -/
theorem atSlots_of_forall₂ {id : String} {gave : String → Json → Prop} {inputs : List Json}
    (fill : Edge.FillSlots (g.incoming id))
    (given : List.Forall₂ (fun e input => gave e.source input) (g.orderedInputs id) inputs) :
    Edge.AtSlots (g.incoming id) gave inputs where
  length := given.length_eq.symm.trans (g.orderedInputs_perm id).length_eq
  placed := by
    intro e member k slot
    obtain ⟨inside, here⟩ :=
      List.getElem?_eq_some_iff.mp (getElem?_orderedInputs fill member slot)
    have inside' := given.length_eq ▸ inside
    refine ⟨inputs[k.toNat], List.getElem?_eq_getElem inside', ?_⟩
    have gave_here := given.get inside inside'
    rwa [List.get_eq_getElem, List.get_eq_getElem, here] at gave_here

/-- A run that makes calls executes a well-formed graph in topological order. -/
theorem runAlong_calls (g : Graph) (m : Manifest) (registry : List Context → Registry) :
    (g.runAlong m registry).calls = [] ∨
      g.WellFormed m ∧ g.runAlong m registry = Run.executeAlong g registry g.order [] {} := by
  by_cases valid : (g.validate m).ok = true
  · cases missing : (registry []).missing g with
    | cons type rest => exact .inl (by rw [runAlong_of_missing valid missing])
    | nil =>
        obtain ⟨clean, none⟩ := validate_ok_iff.mp valid
        exact .inr ⟨wellFormed_of_clean clean none, runAlong_of_ready valid missing⟩
  · obtain ⟨text, refused⟩ : ∃ text, g.runAlong m registry = ⟨[], .error (.invalidGraph text)⟩ :=
      runAlong_of_invalid (Bool.eq_false_iff.mpr valid)
    exact .inl (by rw [refused])

/-- No node is called twice. -/
theorem nodup_runAlong (g : Graph) (m : Manifest) (registry : List Context → Registry) :
    ((g.runAlong m registry).calls.map (·.node)).Nodup := by
  rcases runAlong_calls g m registry with none | ⟨-, executed⟩
  · rw [none]
    exact List.nodup_nil
  · rw [executed]
    exact g.order_nodup.sublist (Run.executeAlong_inOrder g registry g.order [] {}).sublist

/-- Every call of a run is supplied by the calls before it. -/
theorem runAlong_supplied {registry : List Context → Registry} {before after : List Context}
    {call : Context} (split : (g.runAlong m registry).calls = before ++ call :: after) :
    ∃ made : List (Context × Json), made.map (·.1) = before ∧
      Run.Supplied g registry made call := by
  rcases runAlong_calls g m registry with none | ⟨wf, executed⟩
  · simp [none] at split
  · rw [executed] at split
    -- no source is outside of the order
    have recorded : Run.Recorded g g.order [] {} := by
      refine ⟨fun id output given => ?_, fun id _ u arc outside => ?_⟩
      · rw [Table.get?_empty] at given
        cases given
      · exact absurd (wf.order_perm.mem_iff.mpr (wf.arc_onward arc).1) outside
    obtain ⟨made, eq, supplied⟩ := Run.executeAlong_supplied wf.onward_order .start recorded split
    exact ⟨made, eq, by rwa [List.nil_append] at supplied⟩

/-- When a run goes through, every node was called on the final outputs of its sources. -/
theorem exists_call {registry : Registry} {outcome : Outcome}
    (done : (g.run m registry).result = .ok outcome) {n : Node} (member : n ∈ g.nodes) :
    ∃ call ∈ (g.run m registry).calls, call.node = n.id ∧
      List.Forall₂ (fun e input => outcome.outputs.get? e.source = some input)
        (g.orderedInputs n.id) call.inputs := by
  obtain ⟨wf, run⟩ := executes_of_run done
  have isRun := wf.isRun run
  obtain ⟨nodes, perm, -, calls⟩ := isRun.called
  refine ⟨g.callUnder outcome.assigned n, ?_, rfl, ?_⟩
  · rw [calls]
    exact List.mem_map_of_mem (perm.mem_iff.mpr member)
  · refine List.forall₂_map_right_iff.mpr (List.forall₂_same.mpr fun e among => ?_)
    obtain ⟨edge, target⟩ := mem_orderedInputs.mp among
    rw [isRun.outputs, if_pos (wf.arc_onward ⟨e, edge, rfl, target⟩).1]

/-- The ordered inputs of an id are all edges into it: those with an index first, in order of it
and where it is the same in order of the edges, and then the others in order of the edges. So
where the slots of the edges into a node number them from zero, in whatever order and however
they are written, a call of the node finds at each place what the source of the edge with that
slot has given before, in any run and whatever the executors do; when the run goes through, that
is the output of the source, and every node is called. -/
theorem run_inputs_at_slots (g : Graph) :
    (∀ id, (g.orderedInputs id).Perm (g.incoming id) ∧
      ∃ slotted, Edge.BySlot (g.incoming id) slotted ∧
        g.orderedInputs id = slotted ++ (g.incoming id).filter (·.slotIndex?.isNone)) ∧
    (∀ written k, Slot.Spells written k → k < UInt64.size →
      Slot.ofJson written = .index (.ofNat k)) ∧
    (∀ m registry, ((g.runAlong m registry).calls.map (·.node)).Nodup ∧
      ∀ before call after, (g.runAlong m registry).calls = before ++ call :: after →
        ∃ made : List (Context × Json), made.map (·.1) = before ∧
          Run.Supplied g registry made call ∧
          (Edge.FillSlots (g.incoming call.node) →
            Edge.AtSlots (g.incoming call.node) (Run.Gave made) call.inputs)) ∧
    ∀ m registry, g.runAlong m (fun _ => registry) = g.run m registry ∧
      ∀ outcome, (g.run m registry).result = .ok outcome → ∀ n ∈ g.nodes,
        ∃ call ∈ (g.run m registry).calls, call.node = n.id ∧
          (Edge.FillSlots (g.incoming n.id) → Edge.AtSlots (g.incoming n.id)
            (fun id output => outcome.outputs.get? id = some output) call.inputs) := by
  refine ⟨fun id => ⟨g.orderedInputs_perm id, g.exists_bySlot id⟩,
    fun written k spells small => spells.ofJson small, ?_, ?_⟩
  · intro m registry
    refine ⟨g.nodup_runAlong m registry, fun before call after split => ?_⟩
    obtain ⟨made, eq, supplied⟩ := runAlong_supplied split
    exact ⟨made, eq, supplied, fun fill => atSlots_of_forall₂ fill supplied.inputs⟩
  · intro m registry
    refine ⟨g.runAlong_const m registry, fun outcome done n member => ?_⟩
    obtain ⟨call, made, node, inputs⟩ := exists_call done member
    exact ⟨call, made, node, fun fill => atSlots_of_forall₂ fill inputs⟩

/-! ## Three spellings, in no order -/

namespace Mixing

/-- The slots are a numeral with blanks around it, a natural number and a double; another node
gets an edge without a slot before one that has one. -/
def graph : Graph where
  nodes := [{ id := "mix", type := "join" }, { id := "a", type := "name" },
    { id := "b", type := "name" }, { id := "c", type := "name" }, { id := "copy", type := "join" }]
  edges := [{ source := "a", target := "mix", slot? := some (.string " +2 ") },
    { source := "b", target := "mix", slot? := some (.number (.natural 1)) },
    .between "a" "copy",
    { source := "c", target := "mix", slot? := some (.number (.double (.zero false))) },
    { source := "b", target := "copy", slot? := some (.number (.natural 7)) }]

def manifest : Manifest :=
  (Manifest.insert {} "name" {}).insert "join" { ports := { mode := .multi } }

/-- Names answer with their id, joins with the list of their inputs. -/
def executors : Registry :=
  (Registry.register {} "name" fun call => .ok (.string call.node)).register "join"
    fun call => .ok (.array call.inputs)

def outcome : Outcome where
  order := ["a", "b", "c", "copy", "mix"]
  outputs := .ofList [("a", .string "a"), ("b", .string "b"), ("c", .string "c"),
    ("copy", .array [.string "b", .string "a"]),
    ("mix", .array [.string "c", .string "b", .string "a"])]

theorem run_inputs_at_slots_mixing :
    (graph.run manifest executors).result = .ok outcome ∧
      Edge.FillSlots (graph.incoming "mix") ∧ Slot.ofJson (.string " +2 ") = .index 2 ∧
      ∃ before call after, (graph.runAlong manifest fun _ => executors).calls =
        before ++ call :: after ∧ call.node = "mix" ∧
        Edge.AtSlots (graph.incoming "mix")
          (fun id output => outcome.outputs.get? id = some output) call.inputs ∧
        ∃ made : List (Context × Json), made.map (·.1) = before ∧
          Edge.AtSlots (graph.incoming "mix") (Run.Gave made) call.inputs := by
  obtain ⟨-, spelled, along, completed⟩ := run_inputs_at_slots graph
  have order : graph.order = ["a", "b", "c", "copy", "mix"] := by decide +kernel
  have inputs : ∀ id ∈ graph.ids, graph.orderedInputs id = _ :=
    fun id member => orderedInputs_eq_flatMap (n := 8) (by decide +kernel +revert)
  have done : (graph.run manifest executors).result = .ok outcome := by
    refine result_of_executes (by decide +kernel) rfl order
      ⟨_, .step rfl rfl rfl <| .step rfl rfl rfl <| .step rfl rfl rfl <| .step rfl rfl ?_ <|
        .step rfl rfl ?_ .done⟩
    · rw [Run.context, inputs _ (by decide)]
      rfl
    · rw [Run.context, inputs _ (by decide)]
      rfl
  have fill : Edge.FillSlots (graph.incoming "mix") := by decide +kernel
  have two : Slot.Spells (.string " +2 ") 2 :=
    @Slot.Spells.text [' '] ['+'] ['2'] [' '] 2 (by simp [isBlank]) (.inr rfl) rfl
  obtain ⟨same, through⟩ := completed manifest executors
  obtain ⟨call, made, node, atSlots⟩ :=
    through outcome done { id := "mix", type := "join" } List.mem_cons_self
  obtain ⟨before, after, split⟩ := List.append_of_mem made
  rw [← same] at split
  obtain ⟨earlier, eq, -, gave⟩ := (along manifest fun _ => executors).2 before call after split
  rw [node] at gave
  exact ⟨done, fill, spelled _ 2 two (by decide), before, call, after, split, node, atSlots fill,
    earlier, eq, gave fill⟩

end Mixing

end Graph

end Dataflow
