import Dataflow.Proofs.Planning.Spans

/-!
# Braces outside strings

The span at whose end the scan for balanced braces stops is said here by counting. What stands
outside double-quoted strings is read off a text without a scan for braces (`outsideStrings`), and
braces are even in a text when it holds as many of either kind there. The scan stops at the end of
the shortest span from the first opening brace on in which braces are even, and nowhere if there
is none (`balancedSpan?_shortest`).

A scan over UTF-8 that counts in unsigned words could fail in two ways (`ScanFault`): by taking
one from zero, and by cutting inside a character. `closedPart?` is the scan with both of them
looked after; it never fails, and comes to the same span (`closedPart?_eq`).
-/

namespace Dataflow

variable {text span : List Char} {c : Char}

/-! ## Outside strings -/

mutual

/-- The characters of a text that stand outside double-quoted strings. A string may be open at
the end. -/
def outsideStrings : List Char → List Char
  | [] => []
  | '"' :: rest => behindQuote rest
  | c :: rest => c :: outsideStrings rest

/-- The same for a text that starts in a string: a backslash takes the character after it
along. -/
def behindQuote : List Char → List Char
  | [] => []
  | '"' :: rest => outsideStrings rest
  | '\\' :: _ :: rest => behindQuote rest
  | _ :: rest => behindQuote rest

end

theorem outsideStrings_cons (noQuote : c ≠ '"') (rest : List Char) :
    outsideStrings (c :: rest) = c :: outsideStrings rest :=
  outsideStrings.eq_3 c rest noQuote

theorem behindQuote_escape (rest : List Char) :
    behindQuote ('\\' :: rest) = behindQuote (rest.drop 1) := by
  cases rest <;> simp [behindQuote]

theorem behindQuote_cons (noQuote : c ≠ '"') (noEscape : c ≠ '\\') (rest : List Char) :
    behindQuote (c :: rest) = behindQuote rest := by
  rw [behindQuote]
  · exact noQuote
  · intro _ _ escape
    exact absurd escape noEscape

/-- Outside strings, as many braces are opened as are closed. -/
def EvenBraces (text : List Char) : Prop :=
  (outsideStrings text).count '{' = (outsideStrings text).count '}'

instance : Decidable (EvenBraces text) := inferInstanceAs (Decidable (_ = _))

namespace BraceScan

variable {s : BraceScan}

/-- What stands outside strings in a text from a state on. -/
def outside : BraceScan → List Char → List Char
  | ⟨_, false, _⟩, text => outsideStrings text
  | ⟨_, true, false⟩, text => behindQuote text
  | ⟨_, true, true⟩, text => behindQuote (text.drop 1)

/-- Outside strings, a text closes the braces that it opens and those open in a state. -/
def Evens (s : BraceScan) (text : List Char) : Prop :=
  s.depth + (s.outside text).count '{' = (s.outside text).count '}'

theorem evens_nil : s.Evens [] ↔ s.depth = 0 := by
  obtain ⟨depth, inString, escaped⟩ := s
  cases inString <;> cases escaped <;> simp [Evens, outside, outsideStrings, behindQuote]

/-- Inside a string a step changes neither the depth nor what stands outside. -/
theorem step_inside (c : Char) (place : s.inString = true) (text : List Char) :
    (s.step c).depth = s.depth ∧ (s.step c).outside text = s.outside (c :: text) := by
  obtain ⟨depth, inString, escaped⟩ := s
  obtain rfl := place
  cases escaped with
  | true => exact ⟨rfl, rfl⟩
  | false =>
      by_cases quote : c = '"'
      · subst quote
        exact ⟨rfl, by simp [outside, BraceScan.step, stepInside, behindQuote]⟩
      by_cases escape : c = '\\'
      · subst escape
        exact ⟨rfl, (behindQuote_escape text).symm⟩
      · simp [outside, BraceScan.step, stepInside, quote, escape, behindQuote_cons]

/-- Outside strings a step counts the braces. It takes none from zero, for there is one open. -/
theorem evens_outside {depth : Nat} (busy : depth ≠ 0) (c : Char) (text : List Char) :
    Evens ⟨depth, false, false⟩ (c :: text) ↔ (stepOutside ⟨depth, false, false⟩ c).Evens text := by
  by_cases quote : c = '"'
  · subst quote
    simp [Evens, outside, stepOutside, outsideStrings]
  have here : outside ⟨depth, false, false⟩ (c :: text) = c :: outsideStrings text :=
    outsideStrings_cons quote text
  rw [Evens, here, stepOutside, if_neg quote]
  split_ifs with opens closes
  · subst opens
    simp only [Evens, outside, List.count_cons_self, List.count_cons_of_ne, ne_eq, Char.reduceEq,
      not_false_eq_true]
    omega
  · subst closes
    simp only [Evens, outside, List.count_cons_self, List.count_cons_of_ne, ne_eq, Char.reduceEq,
      not_false_eq_true]
    omega
  · rw [List.count_cons_of_ne opens, List.count_cons_of_ne closes]
    rfl

/-- With braces open, a step takes its character off what has to come for them to be even. -/
theorem evens_cons (sound : s.Sound) (busy : s.depth ≠ 0) (c : Char) (text : List Char) :
    s.Evens (c :: text) ↔ (s.step c).Evens text := by
  cases place : s.inString with
  | true =>
      obtain ⟨depth, outside⟩ := step_inside c place text
      rw [Evens, Evens, depth, outside]
  | false =>
      obtain ⟨depth, inString, escaped⟩ := s
      obtain rfl := place
      cases escaped with
      | true => cases sound rfl
      | false => exact evens_outside busy c text

/-- With braces open, a start of a text that makes them even takes the first step of the scan. -/
theorem exists_of_evens (sound : s.Sound) (busy : s.depth ≠ 0) {seen : List Char}
    (start : seen <+: c :: text) (even : s.Evens seen) :
    ∃ more, seen = c :: more ∧ more <+: text ∧ (s.step c).Evens more := by
  rcases List.prefix_cons_iff.mp start with rfl | ⟨more, rfl, within⟩
  · exact absurd (evens_nil.mp even) busy
  · exact ⟨more, rfl, within, (evens_cons sound busy c more).mp even⟩

/-- With braces open, the scan ends with the shortest start of a text that makes them even. -/
theorem evens_of_untilClosed (sound : s.Sound) (busy : s.depth ≠ 0)
    (found : s.untilClosed text = some span) :
    s.Evens span ∧ ∀ seen, seen <+: text → s.Evens seen → span.length ≤ seen.length := by
  -- an even start takes the same first step as the scan, so the two are compared behind it
  induction text generalizing s span with
  | nil => cases found
  | cons c rest ih =>
      unfold untilClosed at found
      split at found
      · next closed =>
          cases found
          refine ⟨(evens_cons sound busy c []).mpr (evens_nil.mpr closed), ?_⟩
          intro seen start even
          obtain ⟨more, rfl, -⟩ := exists_of_evens sound busy start even
          exact Nat.succ_le_succ (Nat.zero_le _)
      · next still =>
          obtain ⟨span, onward, rfl⟩ := Option.map_eq_some_iff.mp found
          obtain ⟨even, least⟩ := ih (sound.step c) still onward
          refine ⟨(evens_cons sound busy c span).mpr even, ?_⟩
          intro seen start even
          obtain ⟨more, rfl, within, even⟩ := exists_of_evens sound busy start even
          exact Nat.succ_le_succ (least more within even)

/-- Where the scan does not end, no start of the text makes the braces even. -/
theorem not_evens_of_untilClosed (sound : s.Sound) (busy : s.depth ≠ 0)
    (never : s.untilClosed text = none) : ∀ seen, seen <+: text → ¬ s.Evens seen := by
  induction text generalizing s with
  | nil =>
      intro seen start even
      rw [List.prefix_nil.mp start] at even
      exact busy (evens_nil.mp even)
  | cons c rest ih =>
      intro seen start even
      obtain ⟨more, rfl, within, even⟩ := exists_of_evens sound busy start even
      unfold untilClosed at never
      split at never
      · cases never
      · next still =>
          exact ih (sound.step c) still (Option.map_eq_none_iff.mp never) more within even

end BraceScan

/-! ## The shortest span -/

/-- The spans of a text are the starts of what stands from its first opening brace on. -/
theorem isSpan_iff : IsSpan text span ↔ span <+: fromBrace text ∧ span ≠ [] := by
  constructor
  · rintro ⟨before, after, rfl, noBrace, starts⟩
    obtain ⟨tail, rfl⟩ := List.head?_eq_some_iff.mp starts
    rw [List.append_assoc, List.cons_append, fromBrace_append noBrace]
    exact ⟨⟨after, rfl⟩, List.cons_ne_nil _ _⟩
  · rintro ⟨start, ne⟩
    exact isSpan_of_prefix start ne

/-- So every span has the first opening brace, and goes on from it. -/
theorem exists_of_isSpan (starts : IsSpan text span) :
    ∃ tail more, fromBrace text = '{' :: tail ∧ span = '{' :: more ∧ more <+: tail := by
  obtain ⟨start, ne⟩ := isSpan_iff.mp starts
  rcases fromBrace_cases text with here | ⟨tail, here⟩
  · rw [here] at start
    exact absurd (List.prefix_nil.mp start) ne
  · rw [here] at start
    rcases List.prefix_cons_iff.mp start with rfl | ⟨more, rfl, within⟩
    · exact absurd rfl ne
    · exact ⟨tail, more, here, rfl, within⟩

/-- A span is even once what follows its first brace closes it. -/
theorem evenBraces_iff (tail : List Char) :
    EvenBraces ('{' :: tail) ↔ (BraceScan.opened 1).Evens tail := by
  have here : outsideStrings ('{' :: tail) = '{' :: outsideStrings tail :=
    outsideStrings_cons (by decide) tail
  rw [EvenBraces, here, BraceScan.Evens, List.count_cons_self, Nat.add_comm,
    List.count_cons_of_ne (by decide)]
  rfl

/-- In what is found the braces are even, and in no shorter span. -/
theorem evenBraces_of_balancedSpan? (found : balancedSpan? text = some span) :
    EvenBraces span ∧ ∀ seen, IsSpan text seen → EvenBraces seen → span.length ≤ seen.length := by
  obtain ⟨tail, _, here, -, -⟩ := exists_of_isSpan (isSpan_of_balancedSpan? found)
  rw [balancedSpan?_of_fromBrace here] at found
  obtain ⟨inner, onward, rfl⟩ := Option.map_eq_some_iff.mp found
  obtain ⟨even, least⟩ :=
    BraceScan.evens_of_untilClosed (BraceScan.sound_opened 1) Nat.one_ne_zero onward
  refine ⟨(evenBraces_iff inner).mpr even, ?_⟩
  intro seen starts even
  -- another span goes on from the same brace
  obtain ⟨tail', more, here', rfl, within⟩ := exists_of_isSpan starts
  obtain rfl : tail = tail' := (List.cons.inj (here.symm.trans here')).2
  exact Nat.succ_le_succ (least more within ((evenBraces_iff more).mp even))

/-- Where nothing is found, the braces are even in no span. -/
theorem not_evenBraces_of_balancedSpan? (never : balancedSpan? text = none) :
    ∀ seen, IsSpan text seen → ¬ EvenBraces seen := by
  intro seen starts even
  obtain ⟨tail, more, here, rfl, within⟩ := exists_of_isSpan starts
  rw [balancedSpan?_of_fromBrace here, Option.map_eq_none_iff] at never
  exact BraceScan.not_evens_of_untilClosed (BraceScan.sound_opened 1) Nat.one_ne_zero never more
    within ((evenBraces_iff more).mp even)

/-! ## The scan in bytes -/

/-- What a scan over bytes must not do. -/
inductive ScanFault where
  /-- One is taken from a counter at zero. -/
  | belowZero
  /-- A text is cut inside a character, or behind its end. -/
  | insideCharacter

/-- The part of a text between two offsets in bytes. -/
def partBetween (text : String) (start stop : Nat) : Except ScanFault String :=
  let slice? := do
    let first ← text.pos? ⟨start⟩
    let last ← text.pos? ⟨stop⟩
    text.slice? first last
  match slice? with
  | some slice => .ok slice.copy
  | none => .error .insideCharacter

/-- The offset in bytes behind the brace that closes the first one open. -/
def BraceScan.closing? (s : BraceScan) (offset : Nat) : List Char → Except ScanFault (Option Nat)
  | [] => .ok none
  | c :: rest =>
    if s.inString = false ∧ c = '}' ∧ s.depth = 0 then .error .belowZero
    else if s.inString = false ∧ c = '}' ∧ (s.step c).depth = 0 then .ok (some (offset + 1))
    else (s.step c).closing? (offset + c.utf8Size) rest

/-- The part of a text from its first opening brace to the brace that closes it. -/
def closedPart? (text : String) : Except ScanFault (Option String) := do
  let start := (String.ofList (text.toList.takeWhile (· != '{'))).utf8ByteSize
  let tail ← partBetween text start text.utf8ByteSize
  match ← BraceScan.closing? {} 0 tail.toList with
  | none => return none
  | some size => return some (← partBetween text start (start + size))

theorem pos?_offset {text : String} (p : text.Pos) : text.pos? p.offset = some p := by
  have valid : String.Pos.Raw.isValidForSlice text.toSlice p.offset = true :=
    String.Pos.Raw.isValidForSlice_eq_true_iff.mpr
      (String.Pos.Raw.isValidForSlice_toSlice_iff.mpr p.isValid)
  rw [String.pos?, String.Slice.pos?, dif_pos valid]
  rfl

/-- Where the first of two texts ends, there is a position between characters. -/
theorem exists_pos {text a b : String} (split : text = a ++ b) :
    ∃ p : text.Pos, p.Splits a b ∧ text.pos? ⟨a.utf8ByteSize⟩ = some p := by
  have valid : String.Pos.Raw.IsValid text a.rawEndPos :=
    String.Pos.Raw.isValid_iff_exists_append.mpr ⟨a, b, split, rfl⟩
  exact ⟨⟨a.rawEndPos, valid⟩, ⟨split, rfl⟩, pos?_offset ⟨a.rawEndPos, valid⟩⟩

theorem partBetween_append (a b c : String) :
    partBetween (a ++ b ++ c) a.utf8ByteSize (a.utf8ByteSize + b.utf8ByteSize) = .ok b := by
  obtain ⟨p, splitsP, first⟩ := exists_pos (String.append_assoc : a ++ b ++ c = a ++ (b ++ c))
  obtain ⟨q, splitsQ, last⟩ := exists_pos (rfl : a ++ b ++ c = (a ++ b) ++ c)
  obtain ⟨ordered, copied⟩ := String.copy_slice_eq_iff_splits.mpr ⟨a, c, splitsP, splitsQ⟩
  have cut : (a ++ b ++ c).slice? p q = some ((a ++ b ++ c).slice p q ordered) := dif_pos ordered
  rw [String.utf8ByteSize_append] at last
  rw [partBetween, first, last]
  simp only [Option.bind_eq_bind, Option.bind_some, cut, copied]

theorem utf8ByteSize_ofList_cons (c : Char) (rest : List Char) :
    (String.ofList (c :: rest)).utf8ByteSize = c.utf8Size + (String.ofList rest).utf8ByteSize := by
  rw [String.ofList_cons, String.utf8ByteSize_append, String.utf8ByteSize_singleton]

/-- With braces open, the scan in bytes takes nothing from zero and ends behind the same
character. -/
theorem BraceScan.closing?_eq {s : BraceScan} (sound : s.Sound) (busy : s.depth ≠ 0)
    (offset : Nat) (text : List Char) : s.closing? offset text =
      .ok ((s.untilClosed text).map fun span => offset + (String.ofList span).utf8ByteSize) := by
  induction text generalizing s offset with
  | nil => rfl
  | cons c rest ih =>
      unfold BraceScan.closing? BraceScan.untilClosed
      rw [if_neg fun empty => busy empty.2.2]
      by_cases closed : (s.step c).depth = 0
      · -- the brace that closes the last one open takes one byte
        obtain ⟨place, brace⟩ := brace_of_closed busy closed
        rw [if_pos ⟨place, brace, closed⟩, if_pos closed, Option.map_some,
          utf8ByteSize_ofList_cons, brace]
        rfl
      · rw [if_neg fun ends => closed ends.2.2, if_neg closed, ih (sound.step c) closed,
          Option.map_map]
        simp only [Function.comp_def, utf8ByteSize_ofList_cons, Nat.add_assoc]

/-- The scan in bytes never fails, and finds the same span. -/
theorem closedPart?_eq (text : String) :
    closedPart? text = .ok ((balancedSpan? text.toList).map .ofList) := by
  have whole : .ofList (text.toList.takeWhile (· != '{')) ++ .ofList (fromBrace text.toList) =
      text := by
    rw [← String.ofList_append, fromBrace, List.takeWhile_append_dropWhile, String.ofList_toList]
  rw [closedPart?]
  generalize String.ofList (text.toList.takeWhile (· != '{')) = before at whole
  have tail : partBetween text before.utf8ByteSize text.utf8ByteSize =
      .ok (.ofList (fromBrace text.toList)) := by
    have cut := partBetween_append before (.ofList (fromBrace text.toList)) ""
    rwa [String.append_empty, ← String.utf8ByteSize_append, whole] at cut
  simp only [tail, bind, Except.bind, String.toList_ofList]
  rcases fromBrace_cases text.toList with here | ⟨rest, here⟩
  · rw [balancedSpan?, here]
    rfl
  · have enter : BraceScan.closing? {} 0 ('{' :: rest) = (BraceScan.opened 1).closing? 1 rest := rfl
    rw [balancedSpan?_of_fromBrace here, here, enter,
      BraceScan.closing?_eq (BraceScan.sound_opened 1) Nat.one_ne_zero]
    cases found : (BraceScan.opened 1).untilClosed rest with
    | none => rfl
    | some span =>
        obtain ⟨after, rfl⟩ := (BraceScan.untilClosed_prefix found).1
        have split : before ++ .ofList ('{' :: span) ++ .ofList after = text := by
          rw [String.append_assoc, ← String.ofList_append, List.cons_append, ← here, whole]
        have size : 1 + (String.ofList span).utf8ByteSize =
            (String.ofList ('{' :: span)).utf8ByteSize := (utf8ByteSize_ofList_cons '{' span).symm
        have cut := partBetween_append before (.ofList ('{' :: span)) (.ofList after)
        rw [split, ← size] at cut
        simp only [Option.map_some, cut]
        rfl

/-! ## Where the scan ends -/

/-- On no text does the scan take a brace from zero or cut inside a character. It finds nothing
exactly when there is no opening brace or the braces outside strings are even at no place behind
the first one; otherwise it finds the shortest span from the first opening brace on at whose end
they are, which ends with a closing brace. -/
theorem balancedSpan?_shortest (text : String) :
    closedPart? text = .ok ((balancedSpan? text.toList).map .ofList) ∧
    (balancedSpan? text.toList = none ↔
      '{' ∉ text.toList ∨ ∀ span, IsSpan text.toList span → ¬ EvenBraces span) ∧
    (∀ span, balancedSpan? text.toList = some span ↔
      IsSpan text.toList span ∧ EvenBraces span ∧
      ∀ other, IsSpan text.toList other → EvenBraces other → span.length ≤ other.length) ∧
    ∀ span ∈ balancedSpan? text.toList, span.head? = some '{' ∧ span.getLast? = some '}' := by
  refine ⟨closedPart?_eq text, ⟨?_, ?_⟩, fun span => ⟨?_, ?_⟩, ?_⟩
  · intro never
    exact .inr (not_evenBraces_of_balancedSpan? never)
  · intro nowhere
    refine Option.eq_none_iff_forall_ne_some.mpr fun span found => ?_
    have starts := isSpan_of_balancedSpan? found
    rcases nowhere with noBrace | noneEven
    · -- a span brings an opening brace with it
      obtain ⟨before, after, split, -, first⟩ := starts
      refine noBrace ?_
      rw [split]
      exact List.mem_append_left _ (List.mem_append_right _ (List.mem_of_mem_head? first))
    · exact noneEven span starts (evenBraces_of_balancedSpan? found).1
  · intro found
    exact ⟨isSpan_of_balancedSpan? found, evenBraces_of_balancedSpan? found⟩
  · rintro ⟨starts, even, least⟩
    cases found : balancedSpan? text.toList with
    | none => exact absurd even (not_evenBraces_of_balancedSpan? found span starts)
    | some span' =>
        -- both are the shortest, and start at the same place
        have starts' := isSpan_of_balancedSpan? found
        obtain ⟨even', least'⟩ := evenBraces_of_balancedSpan? found
        have within : span' <+: span := List.prefix_of_prefix_length_le (isSpan_iff.mp starts').1
          (isSpan_iff.mp starts).1 (least' span starts even)
        rw [within.eq_of_length_le (least span' starts' even')]
  · intro span found
    obtain ⟨_, inner, _, -, -, -, rfl⟩ := balancedSpan?_eq_some_iff.mp found
    refine ⟨rfl, ?_⟩
    rw [← List.cons_append, List.getLast?_concat]

/-- An escaped quote and a brace in a string, a brace too many on either side, and characters of
two bytes before the span and within it. -/
theorem balancedSpan?_shortest_accented :
    let text := "n\u00e9 \x7d \x7b\"\u00e9\\\"\x7d\": \x7b\x7d\x7d \x7d"
    let part := "\x7b\"\u00e9\\\"\x7d\": \x7b\x7d\x7d"
    closedPart? text = .ok (some part) ∧ IsSpan text.toList part.toList ∧
      EvenBraces part.toList ∧ ∀ other, IsSpan text.toList other → EvenBraces other →
        part.toList.length ≤ other.length := by
  intro text part
  have found : balancedSpan? text.toList = some part.toList := by decide +kernel
  obtain ⟨inBytes, -, shortest, -⟩ := balancedSpan?_shortest text
  refine ⟨?_, (shortest part.toList).mp found⟩
  rw [inBytes, found, Option.map_some, String.ofList_toList]

end Dataflow
