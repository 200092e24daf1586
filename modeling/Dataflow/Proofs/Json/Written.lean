import Dataflow.Json.Writer
import Dataflow.Proofs.Json.Numerals
import Dataflow.Proofs.Json.Sorted
import Mathlib.Data.List.Forall2

/-!
# Reading what was written

A text spells something out for a reader where it is read as that, to its end, before all that
does not go on with a number (`Spells`). Strings are read back character by character
(`quoted?_quote`), lists whatever the spaces between their entries are (`enclosed_spelled`). So
what either writer writes spells out its value with the fields in order
(`Legible.spells_compact`, `Legible.spells_indented`) and a text is read as that
(`Legible.parse?_compact`, `Legible.parse?_pretty`), as long as the value is `Legible`: it nests
within the limit of the reader and its numbers read back.
-/

namespace Dataflow.Json

namespace Reader

variable {α : Type} {each? : List Char → Option (α × List Char)}

/-- Where each entry is written by one character or more, there are no more entries than
characters. -/
theorem length_le_length_flatMap {write : α → List Char} {entries : List α}
    (each : ∀ a ∈ entries, write a ≠ []) : entries.length ≤ (entries.flatMap write).length := by
  induction entries with
  | nil => exact Nat.le_refl 0
  | cons a entries ih =>
      rw [List.forall_mem_cons] at each
      have first := List.length_pos_iff.mpr each.1
      have others := ih each.2
      rw [List.flatMap_cons, List.length_append, List.length_cons]
      omega

/-! ## Strings -/

theorem hexValue?_hexDigit {n : Nat} (small : n < 16) : hexValue? (hexDigit n) = some n := by
  have each : ∀ n < 16, hexValue? (hexDigit n) = some n := by decide
  exact each n small

/-- The four digits of a control character are read as the character. -/
theorem codePoint?_control {c : Char} (control : c.toNat < 0x20) (rest : List Char) :
    codePoint? ('0' :: '0' :: hexDigit (c.toNat / 16) :: hexDigit (c.toNat % 16) :: rest) =
      some (c, rest) := by
  have zero : hexValue? '0' = some 0 := by decide
  have high := hexValue?_hexDigit (n := c.toNat / 16) (by omega)
  have low := hexValue?_hexDigit (n := c.toNat % 16) (by omega)
  have unit : unit? ('0' :: '0' :: hexDigit (c.toNat / 16) :: hexDigit (c.toNat % 16) :: rest) =
      some (c.toNat, rest) := by
    simp only [unit?, zero, high, low, Option.bind_eq_bind, Option.bind_some, Option.pure_def]
    congr 2
    omega
  have single : ¬(0xD800 ≤ c.toNat ∧ c.toNat < 0xDC00) := by omega
  have known : ¬(0xDC00 ≤ c.toNat ∧ c.toNat < 0xE000) := by omega
  simp [codePoint?, unit, single, known]

/-- Every character is read back from its escaped form. -/
theorem character?_escape (c : Char) (rest : List Char) :
    character? ((escape c).toList ++ rest) = some (c, rest) := by
  unfold escape
  split
  · subst c
    rfl
  split
  · subst c
    rfl
  split
  · subst c
    rfl
  split
  · subst c
    rfl
  split
  · subst c
    rfl
  split
  · subst c
    rfl
  split
  · subst c
    rfl
  split
  · rename_i control
    simpa [character?] using codePoint?_control control rest
  · rename_i _ noEscape _ _ _ _ _ visible
    simp [character?, noEscape, visible]

/-- No character is written so that it would close the string. -/
theorem escape_inside (c : Char) (rest : List Char) :
    ∀ tail, (escape c).toList ++ rest = '"' :: tail → False := by
  intro tail same
  have itself : character? ('"' :: tail) = some ('"', tail) := rfl
  have read := character?_escape c rest
  rw [same, itself] at read
  -- a quote is read as itself, but it is not written as itself
  obtain ⟨rfl, -⟩ := Prod.mk.inj (Option.some.inj read)
  cases same

/-- The characters of a string are read back up to the closing mark. -/
theorem characters_escaped (text rest : List Char) :
    Characters (text.flatMap (fun c => (escape c).toList) ++ '"' :: rest) text rest := by
  induction text with
  | nil => exact .closed
  | cons c text ih =>
      rw [List.flatMap_cons, List.append_assoc]
      exact .next (escape_inside c _) (character?_escape c _) ih

theorem quote_toList (s : String) :
    (quote s).toList = '"' :: (s.toList.flatMap (fun c => (escape c).toList) ++ ['"']) := by
  have grown : ∀ (text : List Char) (start : String),
      (text.foldl (fun text c => text ++ escape c) start).toList =
        start.toList ++ text.flatMap fun c => (escape c).toList := by
    intro text
    induction text with
    | nil => simp
    | cons c text ih => simp [ih]
  simp [quote, grown]

/-- A string in quotes is read as the string, before any text at all. -/
theorem quoted?_quote (s : String) (rest : List Char) :
    quoted? ((quote s).toList ++ rest) = some (s, rest) := by
  have closed : (quote s).toList ++ rest =
      '"' :: (s.toList.flatMap (fun c => (escape c).toList) ++ '"' :: rest) := by
    rw [quote_toList, List.cons_append, List.append_assoc, List.singleton_append]
  have characters := characters_escaped s.toList rest
  refine quoted?_eq_some_iff.mpr ⟨_, s.toList, closed, characters, ?_, String.ofList_toList.symm⟩
  have each : ∀ c ∈ s.toList, (escape c).toList ≠ [] := by
    intro c _ none
    have read := character?_escape c []
    rw [none] at read
    cases read
  have enough := length_le_length_flatMap each
  rw [List.length_append]
  omega

/-! ## Spelling -/

/-- All characters are spaces. -/
def Spaces (s : List Char) : Prop := ∀ c ∈ s, isSpace c = true

/-- No space goes on with a number. -/
theorem stops_append {gap : List Char} (spaces : Spaces gap) {s : List Char} (stop : Stops s) :
    Stops (gap ++ s) := by
  cases gap with
  | nil => exact stop
  | cons c gap =>
      have space := spaces c List.mem_cons_self
      refine stops_cons ?_
      simp only [isSpace, Bool.or_eq_true, beq_iff_eq] at space
      rcases space with ((rfl | rfl) | rfl) | rfl <;> decide

theorem skipSpace_spaces {gap : List Char} (spaces : Spaces gap) (s : List Char) :
    skipSpace (gap ++ s) = skipSpace s := List.dropWhile_append_of_pos spaces

/-- The text is read as one thing, up to its end, before all that does not go on with a
number. It starts with a character that is neither space nor closes a list. -/
structure Spells (each? : List Char → Option (α × List Char)) (text : List Char) (a : α) :
    Prop where
  starts : ∃ c tail, text = c :: tail ∧ isSpace c = false ∧ c ≠ ']' ∧ c ≠ '}'
  read : ∀ {rest}, Stops rest → each? (text ++ rest) = some (a, rest)

theorem Spells.skipSpace {text : List Char} {a : α} (spells : Spells each? text a)
    (rest : List Char) : skipSpace (text ++ rest) = text ++ rest := by
  obtain ⟨c, tail, rfl, noSpace, -, -⟩ := spells.starts
  exact List.dropWhile_cons_of_neg (by simp [noSpace])

theorem Spells.length_pos {text : List Char} {a : α} (spells : Spells each? text a) :
    0 < text.length := by
  obtain ⟨c, tail, rfl, -⟩ := spells.starts
  exact Nat.zero_lt_succ _

/-! ## Lists -/

theorem intercalate_cons (between first : List Char) (texts : List (List Char)) :
    List.intercalate between (first :: texts) = first ++ texts.flatMap (between ++ ·) := by
  induction texts generalizing first with
  | nil => simp
  | cons next texts ih => simp [List.intercalate_cons_cons, ih]

/-- What is written of a list behind an entry. -/
theorem stops_more {more : List Char} (stop : Stops more) (gap : List Char)
    (texts : List (List Char)) :
    Stops (texts.flatMap ((',' :: gap) ++ ·) ++ more) := by
  cases texts with
  | nil => exact stop
  | cons text texts => exact stops_cons (by decide)

section

variable {close : Char} {gap gap' rest : List Char} {texts : List (List Char)} {entries : List α}

theorem entries_spelled (spaces : Spaces gap) {more : List Char} (stop : Stops more)
    (closes : skipSpace more = close :: rest) (each : List.Forall₂ (Spells each?) texts entries) :
    Entries close each? (texts.flatMap ((',' :: gap) ++ ·) ++ more) entries rest := by
  induction each with
  | nil => exact .closed closes
  | @cons text a texts entries spells _ ih =>
      rw [List.flatMap_cons, List.append_assoc, List.append_assoc]
      have entry := spells.read (stops_more stop gap texts)
      rw [← spells.skipSpace, ← skipSpace_spaces spaces] at entry
      exact .next rfl entry ih

/-- Entries with commas and spaces between them are read as they are, whichever the spaces
are. -/
theorem enclosed_spelled (spaces : Spaces gap) (spaces' : Spaces gap')
    (closing : close = ']' ∨ close = '}') (each : List.Forall₂ (Spells each?) texts entries)
    (rest : List Char) :
    Enclosed close each?
      (gap ++ List.intercalate (',' :: gap) texts ++ gap' ++ close :: rest) entries rest := by
  have solid : isSpace close = false ∧ continuesNumber close = false := by
    rcases closing with rfl | rfl <;> decide
  have closes : skipSpace (gap' ++ close :: rest) = close :: rest := by
    rw [skipSpace_spaces spaces']
    exact List.dropWhile_cons_of_neg (by simp [solid.1])
  have stop : Stops (gap' ++ close :: rest) := stops_append spaces' (stops_cons solid.2)
  cases each with
  | nil =>
      refine .empty ?_
      rw [List.intercalate_nil, List.append_nil, List.append_assoc, skipSpace_spaces spaces, closes]
  | @cons text a texts entries spells others =>
      have entry := spells.read (stops_more stop gap texts)
      have here := (skipSpace_spaces spaces _).trans
        (spells.skipSpace (texts.flatMap ((',' :: gap) ++ ·) ++ (gap' ++ close :: rest)))
      rw [intercalate_cons, List.append_assoc, List.append_assoc, List.append_assoc]
      refine .entries ?_ (by rw [here]; exact entry) (entries_spelled spaces stop closes others) ?_
      · intro tail same
        obtain ⟨c, _, rfl, -, noBracket, noBrace⟩ := spells.starts
        rw [here] at same
        obtain ⟨rfl, -⟩ := List.cons.inj same
        rcases closing with rfl | rfl
        · exact noBracket rfl
        · exact noBrace rfl
      · -- every entry has a comma of its own
        have commas : texts.length ≤ (texts.flatMap ((',' :: gap) ++ ·)).length :=
          length_le_length_flatMap (by simp)
        have lengths := List.Forall₂.length_eq others
        have first := spells.length_pos
        rw [here, List.length_append, List.length_append]
        omega

end

/-! ## Values -/

variable {depth : Nat}

theorem spells_array {gap gap' : List Char} {texts : List (List Char)} {items : List Json}
    (spaces : Spaces gap) (spaces' : Spaces gap')
    (each : List.Forall₂ (Spells (value? depth)) texts items) :
    Spells (value? (depth + 1))
      ('[' :: (gap ++ List.intercalate (',' :: gap) texts ++ gap' ++ [']'])) (.array items) where
  starts := ⟨'[', _, rfl, by decide⟩
  read := by
    intro rest _
    have list := enclosed_spelled spaces spaces' (Or.inl rfl) each rest
    rw [List.cons_append, List.append_assoc _ [']'], List.singleton_append]
    exact value?_array_iff.mpr ⟨depth, items, rfl, list, rfl⟩

theorem spells_object {gap gap' : List Char} {texts : List (List Char)}
    {fields : List (String × Json)} (spaces : Spaces gap) (spaces' : Spaces gap')
    (each : List.Forall₂ (Spells (field? (value? depth))) texts fields) :
    Spells (value? (depth + 1))
      ('{' :: (gap ++ List.intercalate (',' :: gap) texts ++ gap' ++ ['}']))
      (.object (Table.ofList fields).entries) where
  starts := ⟨'{', _, rfl, by decide⟩
  read := by
    intro rest _
    have list := enclosed_spelled spaces spaces' (Or.inr rfl) each rest
    rw [List.cons_append, List.append_assoc _ ['}'], List.singleton_append]
    exact value?_object_iff.mpr ⟨depth, fields, rfl, list, rfl⟩

theorem spells_field {gap text : List Char} {v : Json} (spaces : Spaces gap) (name : String)
    (spells : Spells (value? depth) text v) :
    Spells (field? (value? depth)) ((quote name).toList ++ ':' :: (gap ++ text)) (name, v) where
  starts := by
    rw [quote_toList]
    exact ⟨'"', _, rfl, by decide⟩
  read := by
    intro rest stop
    have value := spells.read stop
    rw [← spells.skipSpace, ← skipSpace_spaces spaces, ← List.append_assoc] at value
    rw [List.append_assoc]
    exact field?_eq_some_iff.mpr ⟨_, _, quoted?_quote name _, rfl, value⟩

/-- A value that is neither array nor object is spelled out where nothing is made of what comes
behind it. -/
theorem spells_scalar {c : Char} {tail : List Char} {v : Json} (noArray : c ≠ '[' ∧ c ≠ ']')
    (noObject : c ≠ '{' ∧ c ≠ '}') (noSpace : isSpace c = false)
    (read : ∀ {rest}, Stops rest → scalar? (c :: tail ++ rest) = some (v, rest)) :
    Spells (value? depth) (c :: tail) v where
  starts := ⟨c, tail, rfl, noSpace, noArray.2, noObject.2⟩
  read := by
    intro rest stop
    have notArray : ∀ s, c :: tail ++ rest = '[' :: s → False :=
      fun s same => noArray.1 (List.cons.inj same).1
    have notObject : ∀ s, c :: tail ++ rest = '{' :: s → False :=
      fun s same => noObject.1 (List.cons.inj same).1
    rw [value?_scalar notArray notObject]
    exact read stop

theorem spells_string (s : String) :
    Spells (value? depth) (quote s).toList (.string s) := by
  have closed := quote_toList s
  rw [closed]
  refine spells_scalar (by decide) (by decide) (by decide) fun {rest} _ => ?_
  show (quoted? ('"' :: _ ++ rest)).map _ = _
  rw [← closed, quoted?_quote]
  rfl

/-- A number that reads back is spelled by its text. -/
theorem spells_number {n : Number} (back : n.ReadsBack) :
    Spells (value? depth) n.text.toList (.number n) := by
  obtain ⟨c, tail, text, first⟩ := number?_head back
  have apart : (c ≠ '[' ∧ c ≠ ']') ∧ (c ≠ '{' ∧ c ≠ '}') ∧ isSpace c = false := by
    refine ⟨⟨?_, ?_⟩, ⟨?_, ?_⟩, ?_⟩
    case refine_5 =>
      by_contra space
      simp only [isSpace, Bool.not_eq_false, Bool.or_eq_true, beq_iff_eq] at space
      rcases space with ((rfl | rfl) | rfl) | rfl <;> exact absurd first (by decide)
    all_goals
      rintro rfl
      exact absurd first (by decide)
  rw [text]
  refine spells_scalar apart.1 apart.2.1 apart.2.2 fun {rest} stop => ?_
  have read := stopsAlike_number.append back stop
  rw [text] at read
  rw [List.cons_append] at read ⊢
  rw [scalar?_number first, read]
  rfl

end Reader

open Reader

/-! ## What the writers write -/

/-- The value nests at most so deep, and its numbers read back. Whole numbers always do. -/
inductive Legible : Nat → Json → Prop where
  | null {depth : Nat} : Legible depth .null
  | bool {depth : Nat} (value : Bool) : Legible depth (.bool value)
  | number {depth : Nat} {value : Number} (back : value.ReadsBack) : Legible depth (.number value)
  | string {depth : Nat} (value : String) : Legible depth (.string value)
  | array {depth : Nat} {items : List Json} (each : ∀ v ∈ items, Legible depth v) :
      Legible (depth + 1) (.array items)
  | object {depth : Nat} {fields : List (String × Json)} (each : ∀ f ∈ fields, Legible depth f.2) :
      Legible (depth + 1) (.object fields)

theorem legible_array_iff {depth : Nat} {items : List Json} :
    Legible (depth + 1) (.array items) ↔ ∀ v ∈ items, Legible depth v := by
  constructor
  · intro legible
    cases legible with
    | array each => exact each
  · exact .array

theorem legible_object_iff {depth : Nat} {fields : List (String × Json)} :
    Legible (depth + 1) (.object fields) ↔ ∀ f ∈ fields, Legible depth f.2 := by
  constructor
  · intro legible
    cases legible with
    | object each => exact each
  · exact .object

/-- What may nest so deep may nest deeper. -/
theorem Legible.mono {depth depth' : Nat} {v : Json} (legible : Legible depth v)
    (deeper : depth ≤ depth') : Legible depth' v := by
  induction legible generalizing depth' with
  | null => exact .null
  | bool value => exact .bool value
  | number back => exact .number back
  | string value => exact .string value
  | array _ ih =>
      obtain ⟨inner, rfl⟩ := Nat.exists_eq_add_of_lt deeper
      exact .array fun v member => ih v member (by omega)
  | object _ ih =>
      obtain ⟨inner, rfl⟩ := Nat.exists_eq_add_of_lt deeper
      exact .object fun f member => ih f member (by omega)

/-- Lists of values and lists of their texts. -/
theorem forall₂_map {α β γ : Type} {R : β → γ → Prop} {f : α → β} {g : α → γ} {l : List α}
    (each : ∀ a ∈ l, R (f a) (g a)) : List.Forall₂ R (l.map f) (l.map g) := by
  rw [List.forall₂_map_left_iff, List.forall₂_map_right_iff]
  exact List.forall₂_same.mpr each

/-- The texts of the items are those of the values one by one. -/
theorem compactItems_eq_map (items : List Json) : compactItems items = items.map compact := by
  induction items with
  | nil => rfl
  | cons item rest ih => rw [compactItems, ih, List.map_cons]

theorem compactFields_eq_map (fields : List (String × Json)) :
    compactFields fields = fields.map fun f => quote f.1 ++ ":" ++ f.2.compact := by
  induction fields with
  | nil => rfl
  | cons field rest ih => rw [compactFields, ih, List.map_cons]

theorem indentedItems_eq_map (level : Nat) (items : List Json) :
    indentedItems level items = items.map (indented level) := by
  induction items with
  | nil => rfl
  | cons item rest ih => rw [indentedItems, ih, List.map_cons]

theorem indentedFields_eq_map (level : Nat) (fields : List (String × Json)) :
    indentedFields level fields = fields.map fun f => quote f.1 ++ ": " ++ f.2.indented level := by
  induction fields with
  | nil => rfl
  | cons field rest ih => rw [indentedFields, ih, List.map_cons]

theorem spaces_newline (level : Nat) : Spaces (newline level).toList := by
  intro c member
  simp only [newline, String.toList_append, String.toList_ofList, List.mem_append] at member
  rcases member with break' | indent
  · obtain rfl := List.mem_singleton.mp break'
    rfl
  · obtain rfl := List.eq_of_mem_replicate indent
    rfl

/-- A block is a list with line breaks for spaces, or with none where it is empty. -/
theorem block_toList (level : Nat) (opening closing : Char) (texts : List String) :
    ∃ gap gap', Spaces gap ∧ Spaces gap' ∧
      (block level opening.toString closing.toString texts).toList =
        opening :: (gap ++ List.intercalate (',' :: gap) (texts.map String.toList) ++ gap'
          ++ [closing]) := by
  cases texts with
  | nil => exact ⟨[], [], nofun, nofun, by simp [block]⟩
  | cons text texts =>
      refine ⟨_, _, spaces_newline (level + 1), spaces_newline level, ?_⟩
      simp [block, String.toList_intercalate]

/-- A value written without spaces spells the value out. -/
theorem Legible.spells_compact {depth : Nat} {v : Json} (legible : Legible depth v) :
    Spells (value? depth) v.compact.toList v.sorted := by
  have none : Spaces [] := nofun
  induction legible with
  | null => exact spells_scalar (by decide) (by decide) (by decide) fun _ => rfl
  | bool value =>
      cases value
      · exact spells_scalar (by decide) (by decide) (by decide) fun _ => rfl
      · exact spells_scalar (by decide) (by decide) (by decide) fun _ => rfl
  | number back => exact spells_number back
  | string value => exact spells_string value
  | @array depth items _ ih =>
      have written := spells_array none none (forall₂_map ih)
      rw [sorted_array]
      simpa [compact, compactItems_eq_map, String.toList_intercalate, Function.comp_def]
        using written
  | @object depth fields _ ih =>
      have each := fun f member => spells_field none f.1 (ih f member)
      have written := spells_object none none (forall₂_map each)
      rw [sorted_object]
      simpa [compact, compactFields_eq_map, String.toList_intercalate, Function.comp_def]
        using written

/-- A value written with one item or field a line spells the value out. -/
theorem Legible.spells_indented {depth : Nat} {v : Json} (legible : Legible depth v)
    (level : Nat) : Spells (value? depth) (v.indented level).toList v.sorted := by
  induction legible generalizing level with
  | null => exact Legible.null.spells_compact
  | bool value =>
      cases value
      · exact (Legible.bool false).spells_compact
      · exact (Legible.bool true).spells_compact
  | number back => exact spells_number back
  | string value => exact spells_string value
  | @array depth items _ ih =>
      obtain ⟨gap, gap', spaces, spaces', text⟩ :=
        block_toList level '[' ']' (indentedItems (level + 1) items)
      have each := forall₂_map fun v member => ih v member (level + 1)
      have written := spells_array spaces spaces' each
      rw [sorted_array]
      show Spells _ (block level '['.toString ']'.toString _).toList _
      rw [text]
      simpa [indentedItems_eq_map, Function.comp_def] using written
  | @object depth fields _ ih =>
      obtain ⟨gap, gap', spaces, spaces', text⟩ :=
        block_toList level '{' '}' (indentedFields (level + 1) fields)
      have one : Spaces [' '] := by simp [Spaces, isSpace]
      have each := fun f member => spells_field one f.1 (ih f member (level + 1))
      have written := spells_object spaces spaces' (forall₂_map each)
      rw [sorted_object]
      show Spells _ (block level '{'.toString '}'.toString _).toList _
      rw [text]
      simpa [indentedFields_eq_map, Function.comp_def] using written

/-- What is spelled out is read from its text, whatever space stands behind it. -/
theorem parse?_append {text space : String} {v : Json}
    (spells : Spells (value? nestingLimit) text.toList v) (spaces : Spaces space.toList) :
    parse? (text ++ space) = some v := by
  have stop := List.append_nil space.toList ▸ stops_append spaces stops_nil
  refine ofChars?_eq_some_iff.mpr ⟨space.toList, ?_, ?_⟩
  · rw [String.toList_append, spells.skipSpace]
    exact spells.read stop
  · exact List.dropWhile_eq_nil_iff.mpr spaces

/-- A legible value is read back from its compact text, sorted. -/
theorem Legible.parse?_compact {v : Json} (legible : Legible nestingLimit v) :
    parse? v.compact = some v.sorted :=
  String.append_empty (s := v.compact) ▸ parse?_append legible.spells_compact nofun

theorem Legible.parse?_pretty {v : Json} (legible : Legible nestingLimit v) :
    parse? v.pretty = some v.sorted :=
  String.append_empty (s := v.pretty) ▸ parse?_append (legible.spells_indented 0) nofun

/-- Files end in a line break. -/
theorem Legible.parse?_line {v : Json} (legible : Legible nestingLimit v) :
    parse? (v.pretty ++ "\n") = some v.sorted := by
  refine parse?_append (legible.spells_indented 0) ?_
  simp [Spaces, isSpace]

end Dataflow.Json
