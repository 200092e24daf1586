import Dataflow.Proofs.Planning.Embedded

/-!
# Spans of an answer

An answer is searched for an object in three places, in this order: as a whole, from its first
opening brace to the brace that closes it, and from its first opening brace to its last closing
one. Both spans are said here by cutting the text, without a scan (`ClosedSpan`, `OuterSpan`),
and what is found is the first object in these places (`embeddedObject?_eq_some_iff`).

That the scan for balanced braces ends nowhere else is shown state by state: `BraceScan.Awaits`
says what still has to come for the open braces to be closed, and a step of the scan takes off
its first character.
-/

namespace Dataflow

variable {text span : List Char} {v : Json}

/-! ## Where the scan ends -/

/-- A text that closes so many braces, one after another, and then ends. -/
inductive Closes : Nat → List Char → Prop where
  | done : Closes 0 []
  | close {depth : Nat} {inner rest : List Char} (balanced : Balanced inner)
      (onward : Closes depth rest) : Closes (depth + 1) (inner ++ '}' :: rest)

/-- A balanced text may stand before what closes a brace. -/
theorem Closes.append {depth : Nat} {piece rest : List Char} (balanced : Balanced piece)
    (closes : Closes (depth + 1) rest) : Closes (depth + 1) (piece ++ rest) := by
  cases closes with
  | close first onward =>
      rw [← List.append_assoc]
      exact .close (balanced.append first) onward

/-- A brace that is opened is closed before the others. -/
theorem Closes.opened {depth : Nat} {rest : List Char} (closes : Closes (depth + 2) rest) :
    Closes (depth + 1) ('{' :: rest) := by
  cases closes with
  | close inner onward => simpa using Closes.append (.braced inner .nil) onward

namespace BraceScan

/-- What still has to come in a state for all open braces to be closed. An open string ends
first, and before that an escape takes its character. -/
def Awaits : BraceScan → List Char → Prop
  | ⟨depth, false, _⟩, span => Closes depth span
  | ⟨depth, true, false⟩, span => ∃ string rest, span = string ++ '"' :: rest ∧
      StringText string ∧ Closes depth rest
  | ⟨depth, true, true⟩, span => ∃ c string rest, span = c :: (string ++ '"' :: rest) ∧
      StringText string ∧ Closes depth rest

/-- Only in a string is a character escaped. -/
def Sound (s : BraceScan) : Prop := s.escaped = true → s.inString = true

theorem sound_opened (depth : Nat) : (opened depth).Sound := fun escaped => escaped

theorem Sound.step {s : BraceScan} (sound : s.Sound) (c : Char) : (s.step c).Sound := by
  obtain ⟨depth, inString, escaped⟩ := s
  cases inString <;> cases escaped <;>
    simp_all [Sound, BraceScan.step, stepInside, stepOutside] <;> grind

/-- Outside strings a step takes off the first character of what has to come. -/
theorem Awaits.stepOutside {depth : Nat} {c : Char}
    (onward : (BraceScan.stepOutside ⟨depth + 1, false, false⟩ c).Awaits span) :
    Awaits ⟨depth + 1, false, false⟩ (c :: span) := by
  by_cases quote : c = '"'
  · subst quote
    -- the string and its quotes are one balanced piece
    obtain ⟨string, rest, rfl, inside, closes⟩ := onward
    show Closes (depth + 1) _
    simpa using Closes.append (.quoted inside .nil) closes
  by_cases opens : c = '{'
  · subst opens
    exact Closes.opened onward
  by_cases closes : c = '}'
  · subst closes
    exact .close .nil onward
  · -- a plain character leaves the state as it is
    rw [BraceScan.stepOutside, if_neg quote, if_neg opens, if_neg closes] at onward
    exact Closes.append (.plain ⟨quote, opens, closes⟩ .nil) onward

/-- So it does in a string. -/
theorem Awaits.stepInside {depth : Nat} {escaped : Bool} {c : Char}
    (onward : (BraceScan.stepInside ⟨depth, true, escaped⟩ c).Awaits span) :
    Awaits ⟨depth, true, escaped⟩ (c :: span) := by
  cases escaped with
  | true =>
      obtain ⟨string, rest, rfl, inside, closes⟩ := onward
      exact ⟨c, string, rest, rfl, inside, closes⟩
  | false =>
      by_cases escape : c = '\\'
      · subst escape
        obtain ⟨c, string, rest, rfl, inside, closes⟩ := onward
        exact ⟨'\\' :: c :: string, rest, rfl, .escape c inside, closes⟩
      by_cases quote : c = '"'
      · subst quote
        exact ⟨[], span, rfl, .nil, onward⟩
      · rw [BraceScan.stepInside, if_neg Bool.false_ne_true, if_neg escape, if_neg quote] at onward
        obtain ⟨string, rest, rfl, inside, closes⟩ := onward
        exact ⟨c :: string, rest, rfl, .plain quote escape inside, closes⟩

theorem Awaits.step {s : BraceScan} {c : Char} (sound : s.Sound) (busy : s.depth ≠ 0)
    (onward : (s.step c).Awaits span) : s.Awaits (c :: span) := by
  obtain ⟨depth, inString, escaped⟩ := s
  cases inString with
  | true => exact .stepInside onward
  | false =>
      cases escaped with
      | true => cases sound rfl
      | false =>
          obtain ⟨depth, rfl⟩ := Nat.exists_eq_succ_of_ne_zero busy
          exact .stepOutside onward

/-- The last brace is closed outside of strings, by a closing brace. -/
theorem brace_of_closed {s : BraceScan} {c : Char} (busy : s.depth ≠ 0)
    (closed : (s.step c).depth = 0) : s.inString = false ∧ c = '}' := by
  revert closed
  simp only [BraceScan.step, stepInside, stepOutside]
  grind

theorem awaits_nil {s : BraceScan} {c : Char} (busy : s.depth ≠ 0)
    (closed : (s.step c).depth = 0) : (s.step c).Awaits [] := by
  obtain ⟨depth, inString, escaped⟩ := s
  obtain ⟨rfl, rfl⟩ : inString = false ∧ c = '}' := brace_of_closed busy closed
  have none : depth - 1 = 0 := closed
  show Closes (depth - 1) []
  rw [none]
  exact .done

/-- With braces open, the scan ends where they are closed. -/
theorem awaits_of_untilClosed {s : BraceScan} (sound : s.Sound) (busy : s.depth ≠ 0)
    (found : s.untilClosed text = some span) : s.Awaits span := by
  -- on the text, from its end: the span is put together again by the steps that took it apart
  induction text generalizing s span with
  | nil => cases found
  | cons c rest ih =>
      unfold untilClosed at found
      split at found
      · next closed =>
          cases found
          exact .step sound busy (awaits_nil busy closed)
      · next still =>
          obtain ⟨span, onward, rfl⟩ := Option.map_eq_some_iff.mp found
          exact .step sound busy (ih (sound.step c) still onward)

end BraceScan

/-! ## The two spans -/

/-- The span from the first opening brace of a text to the brace that closes it. -/
def ClosedSpan (text span : List Char) : Prop :=
  ∃ before inner after, text = before ++ '{' :: (inner ++ '}' :: after) ∧ '{' ∉ before ∧
    Balanced inner ∧ span = '{' :: (inner ++ ['}'])

/-- The span from the first opening brace of a text to the last closing one. -/
def OuterSpan (text span : List Char) : Prop :=
  ∃ before inner after, text = before ++ '{' :: (inner ++ '}' :: after) ∧ '{' ∉ before ∧
    '}' ∉ after ∧ span = '{' :: (inner ++ ['}'])

theorem fromBrace_cases (text : List Char) :
    fromBrace text = [] ∨ ∃ tail, fromBrace text = '{' :: tail := by
  obtain ⟨-, -, -, first⟩ := fromBrace_split text
  cases here : fromBrace text with
  | nil => exact .inl rfl
  | cons c tail =>
      obtain rfl := first c tail here
      exact .inr ⟨tail, rfl⟩

/-- From the first opening brace on, the scan looks for the end with one brace open. -/
theorem balancedSpan?_of_fromBrace {tail : List Char} (here : fromBrace text = '{' :: tail) :
    balancedSpan? text = ((BraceScan.opened 1).untilClosed tail).map ('{' :: ·) := by
  have enter : BraceScan.step {} '{' = BraceScan.opened 1 := rfl
  rw [balancedSpan?, here, BraceScan.untilClosed_cons enter Nat.one_ne_zero]

/-- The balanced span is the one that closes the first brace. -/
theorem balancedSpan?_eq_some_iff : balancedSpan? text = some span ↔ ClosedSpan text span := by
  constructor
  · intro found
    obtain ⟨start, ne⟩ := BraceScan.untilClosed_prefix found
    obtain ⟨before, after, split, noBrace, starts⟩ := isSpan_of_prefix start ne
    obtain ⟨tail, rfl⟩ := List.head?_eq_some_iff.mp starts
    have here : fromBrace text = '{' :: (tail ++ after) := by
      rw [split, List.append_assoc]
      exact fromBrace_append noBrace
    rw [balancedSpan?_of_fromBrace here] at found
    obtain ⟨span, onward, same⟩ := Option.map_eq_some_iff.mp found
    obtain rfl := (List.cons.inj same).2
    have closes : Closes 1 span :=
      BraceScan.awaits_of_untilClosed (BraceScan.sound_opened 1) Nat.one_ne_zero onward
    cases closes with
    | @close _ inner _ balanced last =>
        cases last
        exact ⟨before, inner, after, by simpa using split, noBrace, balanced, rfl⟩
  · rintro ⟨before, inner, after, rfl, noBrace, balanced, rfl⟩
    rw [balancedSpan?, fromBrace_append noBrace]
    exact BraceScan.untilClosed_braced balanced after

/-- The last closing brace of a text, with what stands before and after it. -/
theorem dropWhile_reverse_iff (text inner : List Char) :
    text.reverse.dropWhile (· != '}') = '}' :: inner.reverse ↔
      ∃ after, text = inner ++ '}' :: after ∧ '}' ∉ after := by
  constructor
  · intro last
    refine ⟨(text.reverse.takeWhile (· != '}')).reverse, ?_, ?_⟩
    · rw [← List.reverse_inj]
      simp only [List.reverse_append, List.reverse_cons, List.reverse_reverse]
      rw [List.append_assoc, List.singleton_append, ← last, List.takeWhile_append_dropWhile]
    · intro member
      exact absurd (List.mem_takeWhile_imp (List.mem_reverse.mp member)) (by decide)
  · rintro ⟨after, rfl, noBrace⟩
    have before : ∀ c ∈ after.reverse, (c != '}') = true := fun c member =>
      bne_iff_ne.mpr fun brace => noBrace (brace ▸ List.mem_reverse.mp member)
    rw [List.reverse_append, List.reverse_cons, List.append_assoc, List.singleton_append,
      List.dropWhile_append_of_pos before]
    rfl

theorem outerSpan?_eq_some_iff : outerSpan? text = some span ↔ OuterSpan text span := by
  constructor
  · intro found
    unfold outerSpan? at found
    split at found
    · cases found
    · next ne =>
        cases found
        obtain ⟨c, more, here⟩ := List.exists_cons_of_ne_nil ne
        have brace : c = '}' := by
          have stops := List.head?_dropWhile_not (· != '}') (fromBrace text).reverse
          rw [here] at stops
          simpa using stops
        rw [brace] at here
        obtain ⟨after, cut, last⟩ :=
          (dropWhile_reverse_iff (fromBrace text) more.reverse).mp (by rwa [List.reverse_reverse])
        obtain ⟨before, split, noBrace, first⟩ := fromBrace_split text
        rw [cut] at split first
        rw [here, List.reverse_cons]
        -- the span starts with an opening brace, so it is not the closing one alone
        cases inner : more.reverse with
        | nil =>
            rw [inner] at first
            exact absurd (first '}' after rfl) (by decide)
        | cons c inner' =>
            rw [inner] at split first
            obtain rfl := first c (inner' ++ '}' :: after) rfl
            exact ⟨before, inner', after, split, noBrace, last, rfl⟩
  · rintro ⟨before, inner, after, rfl, noBrace, last, rfl⟩
    have here := (dropWhile_reverse_iff _ ('{' :: inner)).mpr ⟨after, rfl, last⟩
    rw [outerSpan?, fromBrace_append noBrace, ← List.cons_append, here]
    simp

/-! ## The first object -/

/-- The first object in the places where an answer is searched. -/
inductive FirstObject (text : List Char) (v : Json) : Prop where
  | whole (object : Json.objectOfChars? text = some v)
  | closed {span : List Char} (notWhole : Json.objectOfChars? text = none)
      (cut : ClosedSpan text span) (object : Json.objectOfChars? span = some v)
  | outer {span : List Char} (notWhole : Json.objectOfChars? text = none)
      (notClosed : ∀ span, ClosedSpan text span → Json.objectOfChars? span = none)
      (cut : OuterSpan text span) (object : Json.objectOfChars? span = some v)

/-- The search goes from one place to the next. -/
theorem embeddedObject?_eq (text : List Char) : embeddedObject? text =
    (Json.objectOfChars? text).or (((balancedSpan? text).bind Json.objectOfChars?).or
      ((outerSpan? text).bind Json.objectOfChars?)) := by
  unfold embeddedObject?
  cases balancedSpan? text <;> cases outerSpan? text <;>
    simp [List.findSome?_cons] <;> grind

/-- The embedded object is the first that the whole, the closed span or the outer span is. -/
theorem embeddedObject?_eq_some_iff : embeddedObject? text = some v ↔ FirstObject text v := by
  have closed_none : (balancedSpan? text).bind Json.objectOfChars? = none ↔
      ∀ span, ClosedSpan text span → Json.objectOfChars? span = none := by
    simp only [Option.bind_eq_none_iff, balancedSpan?_eq_some_iff]
  rw [embeddedObject?_eq, Option.or_eq_some_iff, Option.or_eq_some_iff, closed_none]
  simp only [Option.bind_eq_some_iff, balancedSpan?_eq_some_iff, outerSpan?_eq_some_iff]
  constructor
  · rintro (object | ⟨notWhole, ⟨span, cut, object⟩ | ⟨notClosed, span, cut, object⟩⟩)
    · exact .whole object
    · exact .closed notWhole cut object
    · exact .outer notWhole notClosed cut object
  · rintro (object | ⟨notWhole, cut, object⟩ | ⟨notWhole, notClosed, cut, object⟩)
    · exact .inl object
    · exact .inr ⟨notWhole, .inl ⟨_, cut, object⟩⟩
    · exact .inr ⟨notWhole, .inr ⟨notClosed, _, cut, object⟩⟩

theorem brace_mem_of_object (object : Json.objectOfChars? text = some v) : '{' ∈ text := by
  obtain ⟨valid, isObject⟩ := objectOfChars?_eq_some_iff.mp object
  obtain ⟨rest, read, -⟩ := Json.ofChars?_eq_some_iff.mp valid
  obtain ⟨tail, starts⟩ := Json.Reader.exists_brace_of_isObject read isObject
  exact (List.dropWhile_sublist _).subset (starts ▸ List.mem_cons_self)

/-- Wherever it is found, an object starts with a brace. -/
theorem FirstObject.brace_mem (first : FirstObject text v) : '{' ∈ text := by
  rcases first with object | ⟨-, ⟨_, _, _, rfl, -⟩, -⟩ | ⟨-, -, ⟨_, _, _, rfl, -⟩, -⟩
  · exact brace_mem_of_object object
  · simp
  · simp

theorem embeddedObject?_eq_none_iff : embeddedObject? text = none ↔
    Json.objectOfChars? text = none ∧
      (∀ span, ClosedSpan text span → Json.objectOfChars? span = none) ∧
      ∀ span, OuterSpan text span → Json.objectOfChars? span = none := by
  simp only [embeddedObject?_eq, Option.or_eq_none_iff, Option.bind_eq_none_iff,
    balancedSpan?_eq_some_iff, outerSpan?_eq_some_iff]

end Dataflow
