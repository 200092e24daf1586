import Dataflow.Planning.Payload
import Dataflow.Proofs.Json.Reader

/-!
# Objects embedded in text

The scan for balanced braces is no reader of JSON, but where an object starts it ends where
the reader ends: with braces open it runs over a balanced text and is then where it was
before (`untilClosed_balanced`), and what a reader takes is balanced.

So an object in an answer is found, with whatever prose before it that has no opening brace
and whatever at all behind it, and what is found is an object that starts at the first
opening brace, or the answer as a whole (`object_finds_embedded`).
-/

namespace Dataflow

namespace BraceScan

/-- The state outside strings with some braces open. -/
def opened (depth : Nat) : BraceScan := { depth }

/-- The state inside a string with some braces open. -/
def inside (depth : Nat) : BraceScan := { depth, inString := true }

theorem untilClosed_cons {s s' : BraceScan} {c : Char} (step : s.step c = s')
    (still : s'.depth ≠ 0) (rest : List Char) :
    s.untilClosed (c :: rest) = (s'.untilClosed rest).map (c :: ·) := by
  rw [untilClosed, step, if_neg still]

/-- Inside a string the scan runs over the text of the string. -/
theorem untilClosed_stringText {text : List Char} (string : StringText text) (depth : Nat)
    (rest : List Char) : (inside (depth + 1)).untilClosed (text ++ rest) =
      ((inside (depth + 1)).untilClosed rest).map (text ++ ·) := by
  induction string with
  | nil => simp
  | @escape c tail _ ih =>
      have first : (inside (depth + 1)).step '\\' =
          { inside (depth + 1) with escaped := true } := rfl
      have second : BraceScan.step { inside (depth + 1) with escaped := true } c =
          inside (depth + 1) := rfl
      rw [List.cons_append, List.cons_append, untilClosed_cons first (Nat.succ_ne_zero _),
        untilClosed_cons second (Nat.succ_ne_zero _), ih, Option.map_map, Option.map_map]
      rfl
  | @plain c tail noQuote noEscape _ ih =>
      have step : (inside (depth + 1)).step c = inside (depth + 1) := by
        simp [BraceScan.step, stepInside, inside, noQuote, noEscape]
      rw [List.cons_append, untilClosed_cons step (Nat.succ_ne_zero _), ih, Option.map_map]
      rfl

/-- With braces open the scan runs over a balanced text and is then where it was. -/
theorem untilClosed_balanced {text : List Char} (balanced : Balanced text) (depth : Nat)
    (rest : List Char) : (opened (depth + 1)).untilClosed (text ++ rest) =
      ((opened (depth + 1)).untilClosed rest).map (text ++ ·) := by
  induction balanced generalizing depth rest with
  | nil => simp
  | @plain c tail single _ ih =>
      have step : (opened (depth + 1)).step c = opened (depth + 1) := by
        simp [BraceScan.step, stepOutside, opened, single.1, single.2.1, single.2.2]
      rw [List.cons_append, untilClosed_cons step (Nat.succ_ne_zero _), ih, Option.map_map]
      rfl
  | @quoted text tail string _ ih =>
      have enter : (opened (depth + 1)).step '"' = inside (depth + 1) := rfl
      have leave : (inside (depth + 1)).step '"' = opened (depth + 1) := rfl
      rw [List.cons_append, List.append_assoc, List.cons_append,
        untilClosed_cons enter (Nat.succ_ne_zero _), untilClosed_stringText string,
        untilClosed_cons leave (Nat.succ_ne_zero _), ih]
      simp [Option.map_map, Function.comp_def]
  | @braced inner tail _ _ ihInner ih =>
      have enter : (opened (depth + 1)).step '{' = opened (depth + 2) := rfl
      have leave : (opened (depth + 2)).step '}' = opened (depth + 1) := rfl
      rw [List.cons_append, List.append_assoc, List.cons_append,
        untilClosed_cons enter (Nat.succ_ne_zero _), ihInner (depth + 1),
        untilClosed_cons leave (Nat.succ_ne_zero _), ih]
      simp [Option.map_map, Function.comp_def]

/-- From an opening brace on, the scan ends at the brace that closes it. -/
theorem untilClosed_braced {inner : List Char} (balanced : Balanced inner)
    (rest : List Char) : untilClosed {} ('{' :: (inner ++ '}' :: rest)) =
      some ('{' :: (inner ++ ['}'])) := by
  have enter : BraceScan.step {} '{' = opened 1 := rfl
  have closes : (opened 1).untilClosed ('}' :: rest) = some ['}'] := rfl
  rw [untilClosed_cons enter Nat.one_ne_zero, untilClosed_balanced balanced, closes]
  rfl

end BraceScan


/-- A span that the scan ends is the start of the text scanned. -/
theorem BraceScan.untilClosed_prefix {s : BraceScan} {text span : List Char}
    (found : s.untilClosed text = some span) : span <+: text ∧ span ≠ [] := by
  induction text generalizing s span with
  | nil => cases found
  | cons c rest ih =>
      unfold untilClosed at found
      split at found
      · cases found
        exact ⟨⟨rest, rfl⟩, List.cons_ne_nil _ _⟩
      · obtain ⟨span, onward, rfl⟩ := Option.map_eq_some_iff.mp found
        exact ⟨(List.prefix_cons_inj c).mpr (ih onward).1, List.cons_ne_nil _ _⟩

/-! ## Spans of a text -/

/-- What stands before the first brace is dropped. -/
theorem fromBrace_append {before text : List Char} (noBrace : '{' ∉ before) :
    fromBrace (before ++ '{' :: text) = '{' :: text := by
  rw [fromBrace, List.dropWhile_append_of_pos]
  · rfl
  · intro c member
    exact bne_iff_ne.mpr fun brace => noBrace (brace ▸ member)

/-- What stands before the first brace, and what stands from it on. -/
theorem fromBrace_split (text : List Char) :
    ∃ before, text = before ++ fromBrace text ∧ '{' ∉ before ∧
      ∀ c tail, fromBrace text = c :: tail → c = '{' := by
  refine ⟨text.takeWhile (· != '{'), List.takeWhile_append_dropWhile.symm, ?_, ?_⟩
  · intro member
    exact absurd (List.mem_takeWhile_imp member) (by decide)
  · intro c tail starts
    have stops := List.head?_dropWhile_not (· != '{') text
    rw [← fromBrace, starts] at stops
    simpa using stops

/-- A span starts at the first opening brace of a text. -/
def IsSpan (text span : List Char) : Prop :=
  ∃ before after, text = before ++ span ++ after ∧ '{' ∉ before ∧ span.head? = some '{'

theorem isSpan_of_prefix {text span : List Char} (start : span <+: fromBrace text)
    (ne : span ≠ []) : IsSpan text span := by
  obtain ⟨before, split, noBrace, first⟩ := fromBrace_split text
  obtain ⟨after, same⟩ := start
  cases span with
  | nil => exact absurd rfl ne
  | cons c tail =>
      have brace : c = '{' := first c (tail ++ after) same.symm
      refine ⟨before, after, ?_, noBrace, by rw [brace]; rfl⟩
      rw [List.append_assoc, same]
      exact split

theorem isSpan_of_balancedSpan? {text span : List Char} (found : balancedSpan? text = some span) :
    IsSpan text span := by
  obtain ⟨start, ne⟩ := BraceScan.untilClosed_prefix found
  exact isSpan_of_prefix start ne

theorem isSpan_of_outerSpan? {text span : List Char} (found : outerSpan? text = some span) :
    IsSpan text span := by
  unfold outerSpan? at found
  split at found
  · cases found
  · rename_i ne
    cases found
    refine isSpan_of_prefix ?_ (by simpa using ne)
    rw [← List.reverse_suffix, List.reverse_reverse]
    exact List.dropWhile_suffix _

/-! ## Objects -/

/-- The object of a text is its value, if that is an object. -/
theorem objectOfChars?_eq_some_iff {text : List Char} {v : Json} :
    Json.objectOfChars? text = some v ↔ Json.ofChars? text = some v ∧ v.isObject = true := by
  rw [Json.objectOfChars?, Option.filter_eq_some_iff]

/-- A text that is an object from its first character to its last is read to its end. -/
theorem value?_of_ofChars? {tail : List Char} {v : Json}
    (valid : Json.ofChars? ('{' :: tail) = some v)
    (ends : ('{' :: tail).getLast? = some '}') :
    Json.Reader.value? Json.Reader.nestingLimit ('{' :: tail) = some (v, []) := by
  obtain ⟨rest, read, dry⟩ := Json.ofChars?_eq_some_iff.mp valid
  have starts : Json.Reader.skipSpace ('{' :: tail) = '{' :: tail := rfl
  rw [starts] at read
  obtain ⟨used, split, -⟩ := (Json.Reader.takes_value _).split read
  -- the rest is space only, and the last character is none
  cases last : rest.getLast? with
  | none =>
      rw [List.getLast?_eq_none_iff] at last
      rwa [last] at read
  | some c =>
      rw [split, List.getLast?_append, last, Option.some_or] at ends
      cases ends
      have space := List.dropWhile_eq_nil_iff.mp dry '}' (List.mem_of_getLast? last)
      cases space

/-- Where a text as a whole is an object and starts with another, it is that one. -/
theorem ofChars?_append {before tail after : List Char} {v v' : Json} (noBrace : '{' ∉ before)
    (read : Json.Reader.value? Json.Reader.nestingLimit ('{' :: tail) = some (v, []))
    (whole : Json.ofChars? (before ++ '{' :: (tail ++ after)) = some v')
    (object : v'.isObject = true) : v' = v := by
  obtain ⟨rest, read', -⟩ := Json.ofChars?_eq_some_iff.mp whole
  obtain ⟨tail', starts⟩ := Json.Reader.exists_brace_of_isObject read' object
  have onlySpace : (before.dropWhile Json.Reader.isSpace).isEmpty = true := by
    cases spaces : before.dropWhile Json.Reader.isSpace with
    | nil => rfl
    | cons c more =>
        have inside : c ∈ before := (List.dropWhile_sublist _).subset (spaces ▸ List.mem_cons_self)
        rw [Json.Reader.skipSpace, List.dropWhile_append, spaces] at starts
        cases starts
        exact absurd inside noBrace
  have skipped : Json.Reader.skipSpace (before ++ '{' :: (tail ++ after)) =
      '{' :: (tail ++ after) := by
    rw [Json.Reader.skipSpace, List.dropWhile_append, if_pos onlySpace]
    rfl
  have again := Json.Reader.value?_object_append read after
  rw [skipped, again] at read'
  cases read'
  rfl

theorem embeddedObject?_of_whole {text : List Char} {v : Json}
    (whole : Json.objectOfChars? text = some v) : embeddedObject? text = some v := by
  simp [embeddedObject?, whole]

theorem embeddedObject?_of_balanced {text span : List Char} {v : Json}
    (whole : Json.objectOfChars? text = none) (balanced : balancedSpan? text = some span)
    (object : Json.objectOfChars? span = some v) : embeddedObject? text = some v := by
  simp [embeddedObject?, whole, balanced, object]

/-- An embedded object is the whole text or stands in a span of it. -/
theorem exists_of_embeddedObject? {text : List Char} {v : Json}
    (found : embeddedObject? text = some v) : ∃ span, (span = text ∨ IsSpan text span) ∧
      Json.objectOfChars? span = some v := by
  obtain ⟨span, member, object⟩ := List.exists_of_findSome?_eq_some found
  refine ⟨span, ?_, object⟩
  simp only [List.mem_filterMap, id_eq, List.mem_cons, List.not_mem_nil, or_false,
    exists_eq_right] at member
  rcases member with same | balanced | outer
  · exact Or.inl (Option.some.inj same)
  · exact Or.inr (isSpan_of_balancedSpan? balanced.symm)
  · exact Or.inr (isSpan_of_outerSpan? outer.symm)

/-- An object that starts at the first opening brace is found, whatever comes behind it. -/
theorem embeddedObject?_append {before object after : List Char} {v : Json}
    (noBrace : '{' ∉ before) (starts : object.head? = some '{')
    (ends : object.getLast? = some '}') (valid : Json.ofChars? object = some v) :
    embeddedObject? (before ++ object ++ after) = some v := by
  obtain ⟨tail, rfl⟩ := List.head?_eq_some_iff.mp starts
  have read := value?_of_ofChars? valid ends
  obtain ⟨_, fields, -, -, rfl⟩ := Json.Reader.value?_object_iff.mp read
  obtain ⟨inner, rfl, balanced⟩ := Json.Reader.value?_object_split read
  rw [List.append_assoc, List.cons_append]
  cases whole : Json.objectOfChars? (before ++ '{' :: (inner ++ ['}'] ++ after)) with
  | some v' =>
      obtain ⟨parsed, object⟩ := objectOfChars?_eq_some_iff.mp whole
      rw [embeddedObject?_of_whole whole, ofChars?_append noBrace read parsed object]
  | none =>
      -- the text as a whole is no object: the scan for balanced braces stops where the reader does
      have closed : balancedSpan? (before ++ '{' :: (inner ++ ['}'] ++ after)) =
          some ('{' :: (inner ++ ['}'])) := by
        rw [balancedSpan?, fromBrace_append noBrace, List.append_assoc]
        exact BraceScan.untilClosed_braced balanced after
      exact embeddedObject?_of_balanced whole closed (objectOfChars?_eq_some_iff.mpr ⟨valid, rfl⟩)

theorem isBlankText_eq_false {text : String} (brace : '{' ∈ text.toList) :
    isBlankText text = false := by
  rw [isBlankText, List.all_eq_false]
  exact ⟨'{', brace, by decide⟩

namespace Payload

/-- An object is found in a text that is not blank and has one embedded. -/
theorem object_eq_ok_iff {text : String} {v : Json} :
    object text = .ok v ↔ isBlankText text = false ∧ embeddedObject? text.toList = some v := by
  unfold object
  split
  · simp [*]
  · split <;> simp_all

/-- Behind a text without an opening brace, an object is found in an answer with its value,
whatever comes after it. What is found in an answer is an object, and is the value of the
whole answer or of a part that starts at the first opening brace. -/
theorem object_finds_embedded :
    (∀ (before object after : String) (v : Json), '{' ∉ before.toList →
      object.toList.head? = some '{' → object.toList.getLast? = some '}' →
      Json.parse? object = some v → Payload.object (before ++ object ++ after) = .ok v) ∧
    ∀ (text : String) (v : Json), Payload.object text = .ok v → v.isObject = true ∧
      (Json.parse? text = some v ∨ ∃ before span after : String, text = before ++ span ++ after ∧
        '{' ∉ before.toList ∧ span.toList.head? = some '{' ∧ Json.parse? span = some v) := by
  constructor
  · intro before object after v noBrace starts ends valid
    have found : embeddedObject? (before ++ object ++ after).toList = some v := by
      rw [String.toList_append, String.toList_append]
      exact embeddedObject?_append noBrace starts ends valid
    refine object_eq_ok_iff.mpr ⟨isBlankText_eq_false ?_, found⟩
    have inside := List.mem_of_mem_head? starts
    simp [inside]
  · intro text v found
    obtain ⟨span, place, object⟩ := exists_of_embeddedObject? (object_eq_ok_iff.mp found).2
    obtain ⟨parsed, isObject⟩ := objectOfChars?_eq_some_iff.mp object
    refine ⟨isObject, ?_⟩
    rcases place with rfl | ⟨before, after, split, noBrace, starts⟩
    · exact Or.inl parsed
    · right
      refine ⟨.ofList before, .ofList span, .ofList after, ?_, ?_, ?_, ?_⟩
      · apply String.toList_inj.mp
        simpa using split
      · simpa using noBrace
      · simpa using starts
      · simpa [Json.parse?] using parsed

/-- Braces and quotes before the object, in its strings and behind it do not matter. -/
theorem object_found_between_braces :
    let object := "\x7b\"a\": [\"\x7d \\\" \x7b\\\\\"]\x7d"
    ∃ v, Json.parse? object = some v ∧
      Payload.object ("Sure, \"so\" \x7d: " ++ object ++ " \\ \x7d \"\x7b") = .ok v := by
  obtain ⟨v, valid⟩ := Option.isSome_iff_exists.mp
    (by decide +kernel : (Json.parse? "\x7b\"a\": [\"\x7d \\\" \x7b\\\\\"]\x7d").isSome = true)
  exact ⟨v, valid, object_finds_embedded.1 _ _ _ v (by decide) (by decide) (by decide) valid⟩

end Payload

end Dataflow
