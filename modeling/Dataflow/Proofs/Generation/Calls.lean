import Dataflow.Generation.Generate

/-!
# What a call leaves behind

A call to a model is a step of a run: it changes the world, adds to the tally, and is
appended to the calls made. What the run gets out of it, if anything, is read off the
call itself (`Planner.read?`), so a run is known from its calls.

* `InTurn` says that calls were made one after another: each was answered in the world
  that the one before had left.
* `Progress.Advances` is what any number of calls does to the progress of a run.
* Quiet hooks leave requests and responses as they are, though they may count them.
-/

namespace Dataflow

variable {σ : Type}

namespace Hook

/-- The hook changes neither requests nor responses. -/
def Quiet (h : Hook) : Prop := (∀ q, h.before q = q) ∧ ∀ q r, h.after q r = r

theorem quiet_tally : Hook.tally.Quiet := ⟨fun _ => rfl, fun _ _ => rfl⟩

/-- Quiet hooks leave the request as it is. -/
theorem beforeAll_of_quiet {hooks : List Hook} (quiet : ∀ h ∈ hooks, h.Quiet) (q : Request) :
    beforeAll hooks q = q := by
  induction hooks with
  | nil => rfl
  | cons h rest ih =>
      obtain ⟨first, rest⟩ := List.forall_mem_cons.mp quiet
      show beforeAll _ (h.before q) = q
      rw [first.1, ih rest]

/-- Quiet hooks leave the response as it is, whatever they count. -/
theorem afterAll_of_quiet {hooks : List Hook} (quiet : ∀ h ∈ hooks, h.Quiet) (q : Request)
    (r : Response) (t : Tally) : (afterAll hooks q r t).1 = r := by
  induction hooks generalizing t with
  | nil => rfl
  | cons h rest ih =>
      obtain ⟨first, rest⟩ := List.forall_mem_cons.mp quiet
      show (afterAll _ q (h.after q r) _).1 = r
      rw [first.2, ih rest]

/-- What hooks make of a response does not depend on the tally. -/
theorem afterAll_response (hooks : List Hook) (q : Request) (r : Response) (t t' : Tally) :
    (afterAll hooks q r t).1 = (afterAll hooks q r t').1 := by
  induction hooks generalizing r t t' with
  | nil => rfl
  | cons h rest ih => exact ih _ _ _

end Hook

/-- Calls made one after another, from one world to another. -/
inductive InTurn : σ → List (Call σ) → σ → Prop where
  | none {world : σ} : InTurn world [] world
  | next {world last : σ} {c : Call σ} {rest : List (Call σ)}
      (answered : c.reply = (c.family.ask c.request world).1)
      (onward : InTurn (c.family.ask c.request world).2 rest last) :
      InTurn world (c :: rest) last

theorem InTurn.append {first middle last : σ} {calls calls' : List (Call σ)}
    (before : InTurn first calls middle) (after : InTurn middle calls' last) :
    InTurn first (calls ++ calls') last := by
  induction before with
  | none => exact after
  | next answered _ ih => exact .next answered (ih after)

/-- What no call changes is so after all calls. -/
theorem InTurn.preserves {P : σ → Prop} {first last : σ} {calls : List (Call σ)}
    (inTurn : InTurn first calls last)
    (kept : ∀ c ∈ calls, ∀ world, P world → P (c.family.ask c.request world).2)
    (start : P first) : P last := by
  induction inTurn with
  | none => exact start
  | next answered _ ih =>
      obtain ⟨now, later⟩ := List.forall_mem_cons.mp kept
      exact ih later (now _ start)

namespace Planner

variable (p : Planner)

/-- The call of a model of a family in a world. -/
def callIn (family : Family σ) (model : String) (prompt : Prompt) (world : σ) : Call σ where
  family
  model
  request := p.request family model prompt
  reply := (family.ask (p.request family model prompt) world).1

/-- The text of an answer as the hooks leave it. -/
def heard (c : Call σ) : Except Failure String :=
  (p.received c.family c.reply).map fun r => (Hook.afterAll p.hooks c.request r {}).1.text

/-- What the answer to a call adds to a tally. -/
def tallied (t : Tally) (c : Call σ) : Tally :=
  match p.received c.family c.reply with
  | .error _ => t
  | .ok r => (Hook.afterAll p.hooks c.request r t).2

/-- The raw text and the payload of the answer to a call; none when it is not usable. -/
def read? (c : Call σ) : Option (String × Payload) :=
  match p.heard c with
  | .error _ => none
  | .ok raw => (Payload.parse raw).toOption.map (raw, ·)

/-- The progress after a call in a world. -/
def after (s : Progress σ) (c : Call σ) : Progress σ where
  world := (c.family.ask c.request s.world).2
  tally := p.tallied s.tally c
  calls := s.calls ++ [c]

variable {p} {family : Family σ} {model : String} {prompt : Prompt} {s : Progress σ}

/-- Calling a model is one call, of which the planner hears what came of it in time. -/
theorem call_eq : p.call family model prompt s =
    (p.heard (p.callIn family model prompt s.world),
      p.after s (p.callIn family model prompt s.world)) := by
  unfold call heard after tallied callIn
  dsimp only
  cases p.received family (family.ask (p.request family model prompt) s.world).1 with
  | error failure => rfl
  | ok response =>
      dsimp only [Except.map]
      rw [Hook.afterAll_response p.hooks _ response s.tally {}]

theorem answer?_eq : p.answer? family model prompt s =
    (p.read? (p.callIn family model prompt s.world),
      p.after s (p.callIn family model prompt s.world)) := by
  rw [answer?, call_eq, read?]
  cases p.heard (p.callIn family model prompt s.world) with
  | error failure => rfl
  | ok raw =>
      dsimp only
      cases Payload.parse raw with
      | error failure => rfl
      | ok payload => rfl

end Planner

/-- What a list of calls does to the progress of a run. -/
structure Progress.Advances (p : Planner) (s : Progress σ) (calls : List (Call σ))
    (s' : Progress σ) : Prop where
  calls_eq : s'.calls = s.calls ++ calls
  inTurn : InTurn s.world calls s'.world
  tally_eq : s'.tally = calls.foldl p.tallied s.tally

namespace Progress.Advances

variable {p : Planner} {s s' s'' : Progress σ} {calls calls' : List (Call σ)}

theorem refl (p : Planner) (s : Progress σ) : s.Advances p [] s :=
  ⟨(List.append_nil _).symm, .none, rfl⟩

/-- A run goes on from where another ended, and its calls come after. -/
theorem trans (first : s.Advances p calls s') (second : s'.Advances p calls' s'') :
    s.Advances p (calls ++ calls') s'' where
  calls_eq := by rw [second.calls_eq, first.calls_eq, List.append_assoc]
  inTurn := first.inTurn.append second.inTurn
  tally_eq := by rw [second.tally_eq, first.tally_eq, List.foldl_append]

/-- One call is one step. -/
theorem call (p : Planner) (family : Family σ) (model : String) (prompt : Prompt)
    (s : Progress σ) :
    s.Advances p [p.callIn family model prompt s.world]
      (p.after s (p.callIn family model prompt s.world)) :=
  ⟨rfl, .next rfl .none, rfl⟩

end Progress.Advances

/-! ## Usable answers -/

/-- The answer to a call came in time, and its text holds a payload. -/
def Planner.Usable (p : Planner) (c : Call σ) (payload : Payload) : Prop :=
  c.reply.delayMs ≤ p.settings.timeoutMs ∧ ∃ response, c.reply.result = .ok response ∧
    Payload.parse response.text = .ok payload

theorem toOption_eq_some_iff {ε α : Type} {result : Except ε α} {a : α} :
    result.toOption = some a ↔ result = .ok a := by
  cases result with
  | error failure => simp [Except.toOption]
  | ok found => simp [Except.toOption]

namespace Planner

variable {p : Planner} {c : Call σ} {raw : String} {payload : Payload}

/-- The text of the answer to a call and the payload in it. There are none where the call
failed, the answer was late, or its text holds no payload. -/
def usable? (p : Planner) (c : Call σ) : Option (String × Payload) :=
  if c.reply.delayMs ≤ p.settings.timeoutMs then
    match c.reply.result with
    | .error _ => none
    | .ok response => (Payload.parse response.text).toOption.map (response.text, ·)
  else none

/-- A call is usable when it is answered in time with the text of a payload. -/
theorem usable?_eq_some_iff : p.usable? c = some (raw, payload) ↔
    c.reply.delayMs ≤ p.settings.timeoutMs ∧ ∃ response, c.reply.result = .ok response ∧
      response.text = raw ∧ Payload.parse raw = .ok payload := by
  unfold usable?
  by_cases inTime : c.reply.delayMs ≤ p.settings.timeoutMs
  · rw [if_pos inTime]
    cases c.reply.result with
    | error failure => simp
    | ok response =>
        simp only [inTime, true_and, Except.ok.injEq, exists_eq_left', Option.map_eq_some_iff,
          Prod.mk.injEq]
        constructor
        · rintro ⟨found, parsed, rfl, rfl⟩
          exact ⟨rfl, toOption_eq_some_iff.mp parsed⟩
        · rintro ⟨rfl, parsed⟩
          exact ⟨payload, toOption_eq_some_iff.mpr parsed, rfl, rfl⟩
  · simp [inTime]

/-- With quiet hooks an answer is read as it came. -/
theorem read?_of_quiet (quiet : ∀ h ∈ p.hooks, h.Quiet) (c : Call σ) :
    p.read? c = p.usable? c := by
  unfold read? heard received usable?
  by_cases inTime : c.reply.delayMs ≤ p.settings.timeoutMs
  · rw [if_pos inTime, if_pos inTime]
    cases c.reply.result with
    | error failure => rfl
    | ok response =>
        simp only [Except.map]
        rw [Hook.afterAll_of_quiet quiet]
  · rw [if_neg inTime, if_neg inTime]
    rfl

/-- With quiet hooks an answer is read exactly when it is usable. -/
theorem read?_eq_some_iff (quiet : ∀ h ∈ p.hooks, h.Quiet) :
    (∃ raw, p.read? c = some (raw, payload)) ↔ p.Usable c payload := by
  simp only [read?_of_quiet quiet, usable?_eq_some_iff]
  constructor
  · rintro ⟨_, inTime, response, answered, rfl, parsed⟩
    exact ⟨inTime, response, answered, parsed⟩
  · rintro ⟨inTime, response, answered, parsed⟩
    exact ⟨response.text, inTime, response, answered, rfl, parsed⟩

end Planner

end Dataflow
