import Dataflow.Chat

/-!
# The usage that a completion reports

A count is reported where a natural number of 64 bits stands under its name (`Json.Reports`). A
number that is too large, negative or not whole, a text, or no usage at all is no report.

The prompt and the answer count as they are reported, or not at all. Where the sum of the two is
no word there is no response, even if a total is reported. Everywhere else a total that is reported
is taken over as it is, and one that is not reported is the exact sum (`ofCompletion?_total`).
-/

namespace Dataflow

/-- A completion reports a count under a name. -/
def Json.Reports (body : Json) (name : String) (count : UInt64) : Prop :=
  ∃ usage, body.get? "usage" = some usage ∧ usage.get? name = some (.number (.natural count))

/-- A count is the one reported under a name, or a substitute where none is reported. -/
def Json.Counts (body : Json) (name : String) (substitute count : UInt64) : Prop :=
  body.Reports name count ∨ (∀ reported, ¬ body.Reports name reported) ∧ count = substitute

variable {body : Json} {name : String} {count substitute : UInt64}

theorem Json.word?_eq_some_iff {v : Json} :
    v.word? = some count ↔ v = .number (.natural count) := by
  constructor
  · intro read
    unfold word? at read
    split at read
    · unfold Number.word? at read
      split at read
      · cases read
        rfl
      · cases read
    · cases read
  · rintro rfl
    rfl

namespace Response

/-- Looking a count up by its two names finds what the body reports. -/
theorem reports_iff :
    ((body.get? "usage").bind (Json.get? name)).bind Json.word? = some count ↔
      body.Reports name count := by
  simp only [Option.bind_eq_some_iff, Json.word?_eq_some_iff, Json.Reports]
  constructor
  · rintro ⟨_, ⟨usage, held, found⟩, rfl⟩
    exact ⟨usage, held, found⟩
  · rintro ⟨usage, held, found⟩
    exact ⟨_, ⟨usage, held, found⟩, rfl⟩

/-- What is read under a name, or else the substitute, is what the body counts. -/
theorem counts_getD (body : Json) (name : String) (substitute : UInt64) :
    body.Counts name substitute
      ((((body.get? "usage").bind (Json.get? name)).bind Json.word?).getD substitute) := by
  cases read : ((body.get? "usage").bind (Json.get? name)).bind Json.word? with
  | some count => exact Or.inl (reports_iff.mp read)
  | none =>
      refine Or.inr ⟨fun reported reports => ?_, rfl⟩
      rw [reports_iff.mpr reports] at read
      cases read

end Response

theorem Json.Counts.eq_of_reports (counts : body.Counts name substitute count)
    {reported : UInt64} (reports : body.Reports name reported) : count = reported := by
  rcases counts with counts | ⟨none, -⟩
  · have read := Response.reports_iff.mpr counts
    rw [Response.reports_iff.mpr reports] at read
    exact (Option.some.inj read).symm
  · exact absurd reports (none reported)

theorem Json.Counts.eq_substitute (counts : body.Counts name substitute count)
    (none : ∀ reported, ¬ body.Reports name reported) : count = substitute := by
  rcases counts with counts | ⟨-, same⟩
  · exact absurd counts (none count)
  · exact same

namespace Response

/-! ## Sums -/

section

variable {a b sum : UInt64}

/-- A sum is given exactly when it fits the word, and then it is exact. -/
theorem sumOf?_eq_some_iff : sumOf? a b = some sum ↔ sum.toNat = a.toNat + b.toNat := by
  have wrapped : (a + b).toNat = (a.toNat + b.toNat) % UInt64.size := UInt64.toNat_add ..
  unfold sumOf?
  by_cases fits : a.toNat + b.toNat < UInt64.size
  · rw [if_pos fits, Option.some_inj, ← UInt64.toNat_inj, wrapped, Nat.mod_eq_of_lt fits, eq_comm]
  · rw [if_neg fits]
    have := sum.toNat_lt_size
    constructor
    · rintro ⟨⟩
    · intro same
      omega

/-- No sum is given exactly when it would not fit. -/
theorem sumOf?_eq_none_iff : sumOf? a b = none ↔ UInt64.size ≤ a.toNat + b.toNat := by
  simp [sumOf?]

end

/-! ## Counts in responses -/

/-- The counts of a completion, whatever it holds. There is a response unless the counts of the
prompt and the answer add up to more than a word, whether a total is reported or not. A reported
total is taken over; one that is not reported is the exact sum. -/
theorem ofCompletion?_total (body : Json) :
    ∃ input output : UInt64,
      body.Counts "prompt_tokens" 0 input ∧ body.Counts "completion_tokens" 0 output ∧
      (ofCompletion? body = none ↔ UInt64.size ≤ input.toNat + output.toNat) ∧
      ∀ r, ofCompletion? body = some r →
        r.usage.inputTokens = input ∧ r.usage.outputTokens = output ∧
        (∀ total, body.Reports "total_tokens" total → r.usage.totalTokens = total) ∧
        ((∀ total, ¬ body.Reports "total_tokens" total) →
          r.usage.totalTokens.toNat = input.toNat + output.toNat) := by
  have prompt := counts_getD body "prompt_tokens" 0
  have answer := counts_getD body "completion_tokens" 0
  unfold ofCompletion? usageOfCompletion?
  dsimp only [bind, pure]
  generalize (((body.get? "usage").bind (Json.get? "prompt_tokens")).bind Json.word?).getD 0 = input
    at prompt
  generalize (((body.get? "usage").bind (Json.get? "completion_tokens")).bind Json.word?).getD 0 =
    output at answer
  refine ⟨input, output, prompt, answer, ?_, ?_⟩
  · rw [Option.map_eq_none_iff, ← sumOf?_eq_none_iff]
    cases sumOf? input output <;> simp
  · rintro r found
    cases added : sumOf? input output with
    | none =>
        rw [added] at found
        cases found
    | some sum =>
        rw [added] at found
        cases found
        have total := counts_getD body "total_tokens" sum
        refine ⟨rfl, rfl, fun _ => total.eq_of_reports, fun none => ?_⟩
        dsimp only
        rw [total.eq_substitute none, sumOf?_eq_some_iff.mp added]

/-! ## Completions with and without a total -/

/-- The completion that reports a prompt and an answer, and perhaps a total. -/
def completion (prompt answer : UInt64) (total? : Option UInt64) : Json :=
  let counted (count : UInt64) : Json := .number (.natural count)
  .object [("usage", .object (
    [("prompt_tokens", counted prompt), ("completion_tokens", counted answer)] ++
      Json.fieldOf "total_tokens" counted total?))]

theorem reports_completion (prompt answer : UInt64) (total? : Option UInt64) :
    (completion prompt answer total?).Reports "prompt_tokens" prompt ∧
      (completion prompt answer total?).Reports "completion_tokens" answer :=
  ⟨reports_iff.mp rfl, reports_iff.mp rfl⟩

theorem not_reports_completion (prompt answer : UInt64) :
    ∀ total, ¬ (completion prompt answer none).Reports "total_tokens" total := by
  intro total reports
  have read := reports_iff.mpr reports
  cases read

/-- A total that is reported need not be the sum. -/
theorem ofCompletion?_total_small :
    (∃ r, ofCompletion? (completion 12 3 (some 20)) = some r ∧ r.usage.totalTokens = 20) ∧
    ∃ r, ofCompletion? (completion 12 3 none) = some r ∧ r.usage.totalTokens.toNat = 15 := by
  have small : ∀ total?, ∃ r, ofCompletion? (completion 12 3 total?) = some r ∧
      (∀ total, (completion 12 3 total?).Reports "total_tokens" total →
        r.usage.totalTokens = total) ∧
      ((∀ total, ¬ (completion 12 3 total?).Reports "total_tokens" total) →
        r.usage.totalTokens.toNat = 15) := by
    intro total?
    obtain ⟨input, output, prompt, answer, overflow, counts⟩ :=
      ofCompletion?_total (completion 12 3 total?)
    obtain ⟨reported, reported'⟩ := reports_completion 12 3 total?
    obtain rfl := prompt.eq_of_reports reported
    obtain rfl := answer.eq_of_reports reported'
    have fits : ofCompletion? (completion 12 3 total?) ≠ none := by
      rw [ne_eq, overflow]
      decide
    obtain ⟨r, found⟩ := Option.ne_none_iff_exists'.mp fits
    exact ⟨r, found, (counts r found).2.2⟩
  obtain ⟨r, found, given, -⟩ := small (some 20)
  obtain ⟨r', found', -, sum⟩ := small none
  exact ⟨⟨r, found, given 20 (reports_iff.mp rfl)⟩, r', found', sum (not_reports_completion 12 3)⟩

/-- The prompt and the answer take one token more than a word can count: there is no response, with
no total or with one that is small. -/
theorem ofCompletion?_overflow :
    ofCompletion? (completion 18446744073709551615 1 none) = none ∧
    ofCompletion? (completion 18446744073709551615 1 (some 5)) = none ∧
    (completion 18446744073709551615 1 (some 5)).Reports "total_tokens" 5 :=
  ⟨by decide +kernel, by decide +kernel, reports_iff.mp rfl⟩

end Response

end Dataflow
