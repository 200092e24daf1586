import Dataflow.Proofs.Generation.Families
import Dataflow.Proofs.Generation.Search
import Mathlib.Algebra.GroupWithZero.Nat

/-!
# What runs add to a tally

A planner with a hook that tallies keeps account of its calls over any number of runs. All handles
on a tally share its counters, so there is one tally, which every call hands on to the next.

Every answer that came in time is added once for each handle among the hooks (`foldl_tallied`),
whether its text was of any use or not; a call that failed or came late adds nothing. So with one
handle the counters are the number of those answers and the sums of their tokens, in 64 bits, with
two handles they are twice these numbers, and so on (`performAll_tally`). Other hooks may do as they
like to requests and responses, as long as they leave the usage alone. One that remembers earlier
calls is no exception: its memory can be counted to the world, and what it does to the answers of a
provider.

A run with services breaks off when the usage in an answer overflows. That does not happen on a
network all of whose answers can be counted (`performAll_ends`).
-/

namespace Dataflow

variable {σ : Type}

/-! ## Tallies -/

namespace Tally

variable {t : Tally} {r r' : Response}

/-- A tally sees nothing of a response but its usage. -/
theorem add_congr (same : r.usage = r'.usage) : t.add r = t.add r' := by
  rw [add, add, same]

/-- The responses added to a tally, field by field. -/
theorem foldl_add (responses : List Response) (t : Tally) :
    responses.foldl add t = {
      calls := responses.foldl (fun n _ => n + 1) t.calls
      inputTokens := responses.foldl (fun n r => n + r.usage.inputTokens) t.inputTokens
      outputTokens := responses.foldl (fun n r => n + r.usage.outputTokens) t.outputTokens } := by
  induction responses generalizing t with
  | nil => rfl
  | cons r rest ih => exact ih (t.add r)

end Tally

/-- Words that are added up one by one make the exact sum but for multiples of 2^64. -/
theorem toNat_foldl_add {α : Type} (f : α → UInt64) (items : List α) (start : UInt64) :
    (items.foldl (fun n a => n + f a) start).toNat =
      (start.toNat + (items.map fun a => (f a).toNat).sum) % UInt64.size := by
  induction items generalizing start with
  | nil => exact (Nat.mod_eq_of_lt start.toNat_lt_size).symm
  | cons a rest ih =>
      have first : (start + f a).toNat = (start.toNat + (f a).toNat) % UInt64.size :=
        UInt64.toNat_add ..
      rw [List.foldl_cons, ih, first, Nat.mod_add_mod, List.map_cons, List.sum_cons, Nat.add_assoc]

theorem sum_map_flatMap_replicate {α : Type} (f : α → Nat) (n : Nat) (items : List α) :
    ((items.flatMap (List.replicate n)).map f).sum = n * (items.map f).sum := by
  induction items with
  | nil => rfl
  | cons a rest ih =>
      rw [List.flatMap_cons, List.map_append, List.sum_append_nat, ih, List.map_replicate,
        List.sum_replicate_nat, List.map_cons, List.sum_cons, Nat.mul_add]

namespace Hook

/-- The hook is a handle on the tally. -/
def isTally : Hook → Bool
  | .tally => true
  | .change .. => false

/-- The hook leaves the usage of responses alone. -/
def KeepsUsage (h : Hook) : Prop := ∀ q r, (h.after q r).usage = r.usage

theorem keepsUsage_tally : Hook.tally.KeepsUsage := fun _ _ => rfl

/-- Each handle adds the response once, as far as its usage goes. -/
theorem afterAll_tally {hooks : List Hook} (kept : ∀ h ∈ hooks, h.KeepsUsage) (q : Request)
    {r r' : Response} (same : r'.usage = r.usage) (t : Tally) :
    (afterAll hooks q r' t).2 = (List.replicate (hooks.countP isTally) r).foldl Tally.add t := by
  induction hooks generalizing r' t with
  | nil => rfl
  | cons h rest ih =>
      obtain ⟨first, rest⟩ := List.forall_mem_cons.mp kept
      have onward := ih rest ((first q r').trans same) (h.count r' t)
      show (afterAll _ q (h.after q r') (h.count r' t)).2 = _
      cases h with
      | tally =>
          rw [onward, List.countP_cons_of_pos rfl, List.replicate_succ, List.foldl_cons]
          exact congrArg (List.foldl Tally.add · _) (Tally.add_congr same)
      | change before after =>
          rw [onward, List.countP_cons_of_neg Bool.false_ne_true]
          rfl

end Hook

namespace Planner

variable {p : Planner}

/-- The answer to a call, if there was one in time. -/
def inTime? (p : Planner) (c : Call σ) : Option Response :=
  if c.reply.delayMs ≤ p.settings.timeoutMs then c.reply.result.toOption else none

/-- A call adds its answer, if there was one in time, once for each handle. -/
theorem tallied_eq (kept : ∀ h ∈ p.hooks, h.KeepsUsage) (t : Tally) (c : Call σ) :
    p.tallied t c = ((p.inTime? c).toList.flatMap
      (List.replicate (p.hooks.countP Hook.isTally))).foldl Tally.add t := by
  unfold tallied received inTime?
  by_cases inTime : c.reply.delayMs ≤ p.settings.timeoutMs
  · rw [if_pos inTime, if_pos inTime]
    cases c.reply.result with
    | error failure => rfl
    | ok response =>
        show (Hook.afterAll p.hooks c.request response t).2 = _
        rw [Hook.afterAll_tally kept c.request rfl t]
        simp [Except.toOption]
  · rw [if_neg inTime, if_neg inTime]
    rfl

/-- Every answer in time is added once for each handle among the hooks. -/
theorem foldl_tallied (kept : ∀ h ∈ p.hooks, h.KeepsUsage) (calls : List (Call σ)) (t : Tally) :
    calls.foldl p.tallied t = ((calls.filterMap p.inTime?).flatMap
      (List.replicate (p.hooks.countP Hook.isTally))).foldl Tally.add t := by
  induction calls generalizing t with
  | nil => rfl
  | cons c rest ih =>
      rw [List.foldl_cons, ih, tallied_eq kept]
      cases answer : p.inTime? c with
      | none =>
          rw [List.filterMap_cons_none answer]
          rfl
      | some r =>
          rw [List.filterMap_cons_some answer, List.flatMap_cons, List.foldl_append]
          simp

end Planner

/-! ## Runs one after another -/

/-- A family whose answers cannot overflow, in a session. -/
def Family.within (f : Family σ) : Family (Session σ) where
  name := f.name
  models := f.models
  ask q s :=
    let (reply, world) := f.ask q s.world
    (reply, { s with world })

/-- The session goes on: no usage has overflowed. -/
def Session.Open (s : Session σ) : Prop := s.overflowed = false

/-- A run to be made, with families that are given or with those that credentials give. -/
inductive Job (σ : Type) where
  | withFamilies (task : Task) (families : List (Family σ))
  | withServices (task : Task) (credentials : Credentials) (preference : Preference)
      (transport : Transport σ)

/-- No answer on a network has a usage that overflows. -/
def Transport.Countable (transport : Transport σ) : Prop :=
  ∀ (provider : Provider) message world,
    provider.read? (transport message world).1.delivery ≠ none

/-- The network of a job, if it has one, is countable. -/
def Job.Countable : Job σ → Prop
  | .withFamilies .. => True
  | .withServices _ _ _ transport => Transport.Countable transport

namespace Planner

variable {p : Planner}

/-- The progress after a run that does not break off. -/
def perform (p : Planner) (s : Progress (Session σ)) : Job σ → Option (Progress (Session σ))
  | .withFamilies task families => some (p.generate task (families.map .within) s).2
  | .withServices task credentials preference transport =>
    (p.generateWith task credentials preference transport s).toOption.map (·.2)

/-- The progress after some runs, of which none breaks off. -/
def performAll (p : Planner) (jobs : List (Job σ)) (s : Progress (Session σ)) :
    Option (Progress (Session σ)) :=
  jobs.foldlM p.perform s

/-- A job that is done is a run of calls. -/
theorem perform_advances {s s' : Progress (Session σ)} {job : Job σ}
    (done : p.perform s job = some s') : ∃ calls, s.Advances p calls s' := by
  cases job with
  | withFamilies task families =>
      cases done
      obtain ⟨calls, advances, -⟩ := p.generate_advances task (families.map .within) s
      exact ⟨calls, advances⟩
  | withServices task credentials preference transport =>
      obtain ⟨made, found, rfl⟩ := Option.map_eq_some_iff.mp done
      replace found := toOption_eq_some_iff.mp found
      by_cases none : credentials.families preference = []
      · rw [generateWith_of_nil none] at found
        cases found
        exact ⟨[], .refl p _⟩
      · rw [generateWith_of_ne_nil none] at found
        dsimp only at found
        split at found
        · cases found
        · cases found
          obtain ⟨calls, advances, -⟩ := p.generate_advances task _ s
          exact ⟨calls, advances⟩

/-- Jobs that are done, one after another, are one run of calls. -/
theorem performAll_advances {jobs : List (Job σ)} {s s' : Progress (Session σ)}
    (done : p.performAll jobs s = some s') : ∃ calls, s.Advances p calls s' := by
  induction jobs generalizing s with
  | nil =>
      cases done
      exact ⟨[], .refl p _⟩
  | cons job rest ih =>
      obtain ⟨middle, first, onward⟩ := Option.bind_eq_some_iff.mp done
      obtain ⟨calls, before⟩ := perform_advances first
      obtain ⟨calls', behind⟩ := ih onward
      exact ⟨calls ++ calls', before.trans behind⟩

/-! ## Runs that end -/

theorem open_within (f : Family σ) (q : Request) {s : Session σ} (isOpen : s.Open) :
    (f.within.ask q s).2.Open := isOpen

/-- Where what arrives can be counted, asking a service leaves the session open. -/
theorem open_over {transport : Transport σ} (countable : Transport.Countable transport)
    (f : ServiceFamily) (timeoutMs : UInt64) (q : Request) {s : Session σ} (isOpen : s.Open) :
    ((f.over transport timeoutMs).ask q s).2.Open := by
  have answered : (f.service.ask transport q s.world).2.1 ≠ none := by
    unfold Service.ask
    dsimp only
    split
    · exact countable f.service.provider (f.service.message q) s.world
    · exact Option.some_ne_none _
  unfold ServiceFamily.over
  dsimp only
  rw [if_neg (isOpen ▸ Bool.false_ne_true)]
  generalize f.service.ask transport q s.world = outcome at answered
  obtain ⟨delayMs, result?, world⟩ := outcome
  cases result? with
  | none => exact (answered rfl).elim
  | some result => rfl

/-- A run leaves a session open when each of its families does. -/
theorem generate_open (p : Planner) (task : Task) {families : List (Family (Session σ))}
    (kept : ∀ f ∈ families, ∀ q (s : Session σ), s.Open → (f.ask q s).2.Open)
    {s : Progress (Session σ)} (isOpen : s.world.Open) :
    (p.generate task families s).2.world.Open := by
  obtain ⟨calls, advances, generation⟩ := p.generate_advances task families s
  exact advances.inTurn.preserves
    (fun c member => kept c.family (generation.family_mem c member) c.request) isOpen

/-- A run on a countable network comes to its end. -/
theorem perform_ends (p : Planner) {job : Job σ} (countable : job.Countable)
    {s : Progress (Session σ)} (isOpen : s.world.Open) :
    ∃ s', p.perform s job = some s' ∧ s'.world.Open := by
  cases job with
  | withFamilies task families =>
      have kept : ∀ f ∈ families.map Family.within, ∀ q (s : Session σ), s.Open →
          (f.ask q s).2.Open := by
        rw [List.forall_mem_map]
        exact fun f _ q _ => open_within f q
      exact ⟨_, rfl, generate_open p task kept isOpen⟩
  | withServices task credentials preference transport =>
      unfold perform
      dsimp only
      by_cases none : credentials.families preference = []
      · rw [generateWith_of_nil none]
        exact ⟨_, rfl, isOpen⟩
      · have kept : ∀ f ∈ (credentials.families preference).map
            (·.over transport p.settings.timeoutMs), ∀ q (s : Session σ), s.Open →
              (f.ask q s).2.Open := by
          rw [List.forall_mem_map]
          exact fun f _ q _ => open_over countable f p.settings.timeoutMs q
        have stillOpen := generate_open p task kept isOpen
        rw [generateWith_of_ne_nil none]
        dsimp only
        rw [if_neg (stillOpen ▸ Bool.false_ne_true)]
        exact ⟨_, rfl, stillOpen⟩

/-- Where every job can be counted, all of them end, and the session stays open. -/
theorem performAll_ends (p : Planner) {jobs : List (Job σ)}
    (countable : ∀ job ∈ jobs, job.Countable) {s : Progress (Session σ)} (isOpen : s.world.Open) :
    ∃ s', p.performAll jobs s = some s' ∧ s'.world.Open := by
  induction jobs generalizing s with
  | nil => exact ⟨s, rfl, isOpen⟩
  | cons job rest ih =>
      obtain ⟨first, others⟩ := List.forall_mem_cons.mp countable
      obtain ⟨middle, done, between⟩ := p.perform_ends first isOpen
      obtain ⟨last, onward, after⟩ := ih others between
      exact ⟨last, Option.bind_eq_some_iff.mpr ⟨middle, done, onward⟩, after⟩

/-! ## The account -/

/-- Whatever runs a planner has made and whatever the providers did, each handle among its hooks has
added up the calls that were answered in time: the tally has their number and the sums of the
tokens that these answers report, times the number of handles, in 64 bits. The calls are all that
were made: each was answered in the world that the one before left. The runs come to their end
where every answer of a network can be counted. -/
theorem performAll_tally (p : Planner) (kept : ∀ h ∈ p.hooks, h.KeepsUsage)
    (jobs : List (Job σ)) (world : σ) :
    ((∀ job ∈ jobs, job.Countable) →
      ∃ s, p.performAll jobs { world := { world } } = some s) ∧
    ∀ s, p.performAll jobs { world := { world } } = some s →
      let handles := p.hooks.countP Hook.isTally
      let answers := s.calls.filterMap p.inTime?
      InTurn { world } s.calls s.world ∧
      s.tally.calls.toNat = handles * answers.length % UInt64.size ∧
      s.tally.inputTokens.toNat =
        handles * (answers.map (·.usage.inputTokens.toNat)).sum % UInt64.size ∧
      s.tally.outputTokens.toNat =
        handles * (answers.map (·.usage.outputTokens.toNat)).sum % UInt64.size := by
  refine ⟨fun countable => ?_, fun s done => ?_⟩
  · obtain ⟨s, done, -⟩ := p.performAll_ends countable (s := { world := { world } }) rfl
    exact ⟨s, done⟩
  intro handles answers
  obtain ⟨calls, advances⟩ := performAll_advances done
  have all : s.calls = calls := advances.calls_eq
  have tally : s.tally = (answers.flatMap (List.replicate handles)).foldl Tally.add {} := by
    rw [advances.tally_eq, foldl_tallied kept, ← all]
  have sums : ∀ f : Response → UInt64,
      ((answers.flatMap (List.replicate handles)).foldl (fun n r => n + f r) 0).toNat =
        handles * (answers.map fun r => (f r).toNat).sum % UInt64.size := by
    intro f
    rw [toNat_foldl_add, sum_map_flatMap_replicate, UInt64.toNat_zero, Nat.zero_add]
  rw [tally, Tally.foldl_add]
  refine ⟨all ▸ advances.inTurn, ?_, sums (·.usage.inputTokens), sums (·.usage.outputTokens)⟩
  have ones : (answers.map fun _ => (1 : UInt64).toNat).sum = answers.length := by
    rw [List.map_const', List.sum_replicate_nat]
    exact Nat.mul_one _
  rw [← ones]
  exact sums fun _ => 1

/-! ## Runs with a failure, a late answer, an answer without a plan, and a repair -/

namespace Account

/-- Between the two handles there is a hook that changes requests and texts. -/
def planner : Planner where
  manifest := {}
  hooks := [.tally, .change (fun q => { q with model := "x" ++ q.model })
    (fun _ r => { r with text := r.text ++ " " }), .tally]

def task : Task := { intent := "draw", summary := [] }

def answer (text : String) (inputTokens outputTokens : UInt64) : Except Failure Response :=
  .ok { id := "", text, usage := { inputTokens, outputTokens }, model := "one"
        finishReason := .endTurn }

/-- A node of a type that is in no manifest, so that a repair is asked for. -/
def draft : String := "\x7b\"nodes\": [\x7b\"id\": \"m\", \"type\": \"x\"\x7d], \"edges\": []\x7d"

def empty : String := "\x7b\"nodes\": [], \"edges\": []\x7d"

/-- What comes of the calls, in order. The third answer is late, and the fourth, which is just in
time, reports as many tokens for the prompt as 64 bits hold. -/
def reply : Nat → Reply
  | 0 => ⟨0, .error (.unauthorized "alpha")⟩
  | 1 => ⟨0, answer "no plan" 5 1⟩
  | 2 => ⟨60001, answer empty 1 3⟩
  | 3 => ⟨60000, answer draft 18446744073709551615 2⟩
  | _ => ⟨0, answer empty 1 3⟩

/-- A family whose world counts the calls. -/
def families : List (Family Nat) :=
  [{ name := "alpha"
     models := ["one", "two", "three", "four"]
     ask := fun _ world => (reply world, world + 1) }]

/-- Two runs with the family, and one for which there is no key. -/
def jobs : List (Job Nat) :=
  [.withFamilies task families,
    .withServices task {} .any fun _ world => (⟨0, .refused⟩, world),
    .withFamilies task families]

theorem performAll_tally_account :
    planner.hooks.countP Hook.isTally = 2 ∧ (∀ h ∈ planner.hooks, h.KeepsUsage) ∧
    ∃ s, planner.performAll jobs { world := { world := 0 } } = some s ∧
      s.calls.map (·.model) = ["one", "two", "three", "four", "one", "one"] ∧
      InTurn { world := 0 } s.calls s.world ∧
      s.tally.calls.toNat = 8 ∧ s.tally.inputTokens.toNat = 12 ∧
      s.tally.outputTokens.toNat = 18 := by
  have kept : ∀ h ∈ planner.hooks, h.KeepsUsage := by
    rintro h (_ | ⟨_, _ | ⟨_, _ | ⟨_, ⟨⟩⟩⟩⟩)
    · exact Hook.keepsUsage_tally
    · exact fun _ _ => rfl
    · exact Hook.keepsUsage_tally
  have countable : ∀ job ∈ jobs, job.Countable := by
    rintro job (_ | ⟨_, _ | ⟨_, _ | ⟨_, ⟨⟩⟩⟩⟩)
    · trivial
    · exact fun _ _ _ => Option.some_ne_none _
    · trivial
  obtain ⟨ends, account⟩ := planner.performAll_tally kept jobs 0
  obtain ⟨s, done⟩ := ends countable
  obtain ⟨inTurn, calls, input, output⟩ := account s done
  have made : (planner.performAll jobs { world := { world := 0 } }).map (fun s =>
      let answers := s.calls.filterMap planner.inTime?
      (s.calls.map (·.model), answers.length, answers.map (·.usage.inputTokens.toNat),
        answers.map (·.usage.outputTokens.toNat))) =
      some (["one", "two", "three", "four", "one", "one"], 4,
        [5, 18446744073709551615, 1, 1], [1, 2, 3, 3]) := by
    decide +kernel
  rw [done, Option.map_some, Option.some_inj] at made
  injection made with models counts
  injection counts with answers tokens
  injection tokens with inputs outputs
  refine ⟨rfl, kept, s, done, models, inTurn, calls.trans ?_, input.trans ?_, output.trans ?_⟩
  · rw [answers]
    rfl
  · rw [inputs]
    rfl
  · rw [outputs]
    rfl

/-- A planner with two handles on its tally. -/
def twice : Planner := { manifest := {}, hooks := [.tally, .tally] }

/-- One answer came in time, and the tally has two. -/
theorem performAll_counts_twice :
    (∀ h ∈ twice.hooks, h.KeepsUsage) ∧
    (twice.performAll
        [.withFamilies task [{
          name := "alpha", models := ["one"]
          ask := fun _ world => (⟨0, answer empty 1 3⟩, world) }]]
        { world := { world := () } }).map
      (fun s => ((s.calls.filterMap twice.inTime?).length, s.tally.calls)) = some (1, 2) := by
  refine ⟨?_, by decide +kernel⟩
  rintro h (_ | ⟨_, _ | ⟨_, ⟨⟩⟩⟩) <;> exact Hook.keepsUsage_tally

end Account

end Planner

end Dataflow
