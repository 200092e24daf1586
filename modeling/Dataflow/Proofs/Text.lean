import Dataflow.Text.Basic
import Mathlib.Data.List.Basic

/-!
# Trimmed texts

A text is trimmed when it neither starts nor ends with a blank. Trimming makes it so and leaves
a trimmed text alone (`trim_trim`); and texts that are trimmed, and not empty, make a trimmed
text when they are put together, whatever stands between them (`trim_intercalate`).
-/

namespace Dataflow

variable {s t between : List Char}

/-- Neither end of a text is blank. -/
structure Trimmed (s : List Char) : Prop where
  head : ∀ c, s.head? = some c → isBlank c = false
  last : ∀ c, s.getLast? = some c → isBlank c = false

/-- What is left when blanks are dropped in front starts with no blank. -/
theorem isBlank_of_dropWhile {c : Char} (first : (s.dropWhile isBlank).head? = some c) :
    isBlank c = false := by
  have stop := List.head?_dropWhile_not isBlank s
  rw [first] at stop
  exact stop

/-- A trimmed text has no blank at either end. -/
theorem trimmed_trimChars (s : List Char) : Trimmed (trimChars s) where
  head := by
    intro c first
    -- what is left in the second step starts as it did after the first
    obtain ⟨cut, split⟩ := List.dropWhile_suffix isBlank (l := (s.dropWhile isBlank).reverse)
    have start : s.dropWhile isBlank = trimChars s ++ cut.reverse := by
      rw [trimChars, ← List.reverse_append, split, List.reverse_reverse]
    refine isBlank_of_dropWhile (s := s) ?_
    rw [start, List.head?_append, first]
    rfl
  last := by
    intro c last
    rw [trimChars, List.getLast?_reverse] at last
    exact isBlank_of_dropWhile last

theorem dropWhile_of_head (head : ∀ c, s.head? = some c → isBlank c = false) :
    s.dropWhile isBlank = s := by
  cases s with
  | nil => rfl
  | cons c rest => rw [List.dropWhile_cons_of_neg (by simp [head c rfl])]

theorem Trimmed.trimChars_eq (trimmed : Trimmed s) : trimChars s = s := by
  have reversed : s.reverse.dropWhile isBlank = s.reverse :=
    dropWhile_of_head fun c first => trimmed.last c (by rwa [List.head?_reverse] at first)
  rw [trimChars, dropWhile_of_head trimmed.head, reversed, List.reverse_reverse]

/-- Blanks around a trimmed text go. -/
theorem Trimmed.trimChars_append (trimmed : Trimmed s) (nonempty : s ≠ [])
    {before after : List Char} (blank : ∀ c ∈ before ++ after, isBlank c = true) :
    trimChars (before ++ s ++ after) = s := by
  obtain ⟨blankBefore, blankAfter⟩ := List.forall_mem_append.mp blank
  have front : (before ++ s ++ after).dropWhile isBlank = s ++ after := by
    rw [List.append_assoc, List.dropWhile_append_of_pos blankBefore]
    refine dropWhile_of_head fun c first => trimmed.head c ?_
    rwa [List.head?_append_of_ne_nil _ nonempty] at first
  have back : (after.reverse ++ s.reverse).dropWhile isBlank = s.reverse := by
    rw [List.dropWhile_append_of_pos fun c member => blankAfter c (List.mem_reverse.mp member)]
    refine dropWhile_of_head fun c first => trimmed.last c ?_
    rwa [List.head?_reverse] at first
  rw [trimChars, front, List.reverse_append, back, List.reverse_reverse]

/-- Two texts that are trimmed and not empty leave both ends trimmed, whatever is between them. -/
theorem Trimmed.append (trimmed : Trimmed s) (trimmed' : Trimmed t) (nonempty : s ≠ [])
    (nonempty' : t ≠ []) (between : List Char) : Trimmed (s ++ between ++ t) where
  head := by
    intro c first
    rw [List.append_assoc, List.head?_append_of_ne_nil _ nonempty] at first
    exact trimmed.head c first
  last := by
    intro c last
    rw [List.getLast?_append_of_ne_nil _ nonempty'] at last
    exact trimmed'.last c last

theorem trimmed_intercalate {parts : List (List Char)} (between : List Char)
    (each : ∀ part ∈ parts, Trimmed part ∧ part ≠ []) (nonempty : parts ≠ []) :
    Trimmed (between.intercalate parts) ∧ between.intercalate parts ≠ [] := by
  induction parts with
  | nil => exact absurd rfl nonempty
  | cons part rest ih =>
      obtain ⟨first, each⟩ := List.forall_mem_cons.mp each
      cases rest with
      | nil => simpa [List.intercalate] using first
      | cons next rest =>
          obtain ⟨trimmed, rest_nonempty⟩ := ih each (List.cons_ne_nil _ _)
          rw [List.intercalate_cons_cons]
          exact ⟨first.1.append trimmed first.2 rest_nonempty between, by simp [rest_nonempty]⟩

/-- Strings that are trimmed and not empty make a trimmed string. -/
theorem trim_intercalate {parts : List String} (between : String)
    (each : ∀ part ∈ parts, trim part = part ∧ part ≠ "") :
    trim (between.intercalate parts) = between.intercalate parts := by
  by_cases none : parts = []
  · rw [none]
    rfl
  · have trimmed : ∀ part ∈ parts.map String.toList, Trimmed part ∧ part ≠ [] := by
      refine List.forall_mem_map.mpr fun part member => ?_
      obtain ⟨same, nonempty⟩ := each part member
      constructor
      · rw [← same, trim, String.toList_ofList]
        exact trimmed_trimChars _
      · simpa using nonempty
    have whole := (trimmed_intercalate between.toList trimmed (by simpa using none)).1
    rw [trim, String.toList_intercalate, whole.trimChars_eq, ← String.toList_intercalate,
      String.ofList_toList]

theorem trim_trim (s : String) : trim (trim s) = trim s := by
  show String.ofList (trimChars (trim s).toList) = trim s
  rw [trim, String.toList_ofList, (trimmed_trimChars s.toList).trimChars_eq]

/-!
## Balanced text

A text is balanced (`Balanced`) when its braces pair up and its quotes enclose texts of
strings, whatever braces and escaped quotes those hold. This is a grammar, said without
any scan over the text.
-/

/-- The text of a string between its quotes: a backslash takes the character after it
along, and no other quote occurs. -/
inductive StringText : List Char → Prop where
  | nil : StringText []
  | escape (c : Char) {rest : List Char} (onward : StringText rest) :
      StringText ('\\' :: c :: rest)
  | plain {c : Char} {rest : List Char} (noQuote : c ≠ '"') (noEscape : c ≠ '\\')
      (onward : StringText rest) : StringText (c :: rest)

/-- A character that neither opens nor closes anything. -/
def IsPlain (c : Char) : Prop := c ≠ '"' ∧ c ≠ '{' ∧ c ≠ '}'

instance (c : Char) : Decidable (IsPlain c) := inferInstanceAs (Decidable (_ ∧ _ ∧ _))

/-- A text with braces in pairs, those in strings left aside. -/
inductive Balanced : List Char → Prop where
  | nil : Balanced []
  | plain {c : Char} {rest : List Char} (single : IsPlain c) (onward : Balanced rest) :
      Balanced (c :: rest)
  | quoted {text rest : List Char} (inside : StringText text) (onward : Balanced rest) :
      Balanced ('"' :: (text ++ '"' :: rest))
  | braced {inner rest : List Char} (inside : Balanced inner) (onward : Balanced rest) :
      Balanced ('{' :: (inner ++ '}' :: rest))

theorem StringText.append {a b : List Char} (first : StringText a) (second : StringText b) :
    StringText (a ++ b) := by
  induction first with
  | nil => exact second
  | escape c _ ih => exact .escape c ih
  | plain noQuote noEscape _ ih => exact .plain noQuote noEscape ih

namespace Balanced

theorem append {a b : List Char} (first : Balanced a) (second : Balanced b) :
    Balanced (a ++ b) := by
  induction first with
  | nil => exact second
  | plain single _ ih => exact .plain single ih
  | quoted inside _ ih => simpa using Balanced.quoted inside ih
  | braced inside _ _ ih => simpa using Balanced.braced inside ih

theorem of_plain {text : List Char} (all : ∀ c ∈ text, IsPlain c) : Balanced text := by
  induction text with
  | nil => exact .nil
  | cons c rest ih =>
      obtain ⟨first, rest⟩ := List.forall_mem_cons.mp all
      exact .plain first (ih rest)

end Balanced

end Dataflow
