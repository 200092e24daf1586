import Dataflow.Proofs.Json.Tokens

/-!
# What readers of values take

Arrays and objects are lists of entries between two characters (`Enclosed`), which is what
their readers go through step by step. What a reader of values takes is balanced
(`takes_value`), so an object is read up to the brace that closes it
(`value?_object_split`), and it is read alike whatever comes behind
(`value?_object_append`).
-/

namespace Dataflow.Json

/-- Whether the value is neither array nor object. -/
def isScalar : Json → Bool
  | .array _ | .object _ => false
  | _ => true

namespace Reader

variable {α : Type}

/-! ## Lists of entries -/

/-- What follows an entry in brackets or braces: more entries, each behind a comma, and the
closing character. -/
inductive Entries (close : Char) (each? : List Char → Option (α × List Char)) :
    List Char → List α → List Char → Prop where
  | closed {s rest : List Char} (here : skipSpace s = close :: rest) :
      Entries close each? s [] rest
  | next {s r r' rest : List Char} {a : α} {entries : List α} (comma : skipSpace s = ',' :: r)
      (entry : each? (skipSpace r) = some (a, r')) (onward : Entries close each? r' entries rest) :
      Entries close each? s (a :: entries) rest

/-- What follows an opening bracket or brace: the closing character, or an entry and more. -/
inductive Enclosed (close : Char) (each? : List Char → Option (α × List Char)) (s : List Char) :
    List α → List Char → Prop where
  | empty {rest : List Char} (here : skipSpace s = close :: rest) : Enclosed close each? s [] rest
  | entries {r rest : List Char} {a : α} {entries : List α}
      (opened : ∀ tail, skipSpace s = close :: tail → False)
      (entry : each? (skipSpace s) = some (a, r)) (onward : Entries close each? r entries rest)
      (enough : entries.length < (skipSpace s).length) : Enclosed close each? s (a :: entries) rest

section

variable {close : Char} {each? : List Char → Option (α × List Char)} {s rest : List Char}
  {entries : List α}

theorem skipSpace_split_cons {c : Char} (here : skipSpace s = c :: rest) :
    ∃ used, s = used ++ c :: rest ∧ Balanced used := here ▸ skipSpace_split s

/-- What a list takes is balanced, up to the bracket that closes it. -/
theorem Entries.split (takes : Takes Balanced each?) (list : Entries close each? s entries rest) :
    ∃ inner, s = inner ++ close :: rest ∧ Balanced inner := by
  induction list with
  | closed here => exact skipSpace_split_cons here
  | @next s r r' rest a entries comma entry _ ih =>
      have tail := split_trans (skipSpace_split r) (split_trans (takes.split entry) ih)
      exact split_trans (skipSpace_split_cons comma) (split_cons (by decide) tail)

/-- A list that is read up to its bracket is read the same with more text after it. -/
theorem Entries.append (takes : Takes Balanced each?) (list : Entries close each? s entries rest)
    (more : List Char) : Entries close each? (s ++ more) entries (rest ++ more) := by
  induction list with
  | @closed s rest here =>
      refine .closed ?_
      rw [skipSpace_append (by simp [here]), here, List.cons_append]
  | @next s r r' rest a entries comma entry onward ih =>
      obtain ⟨used, same, -⟩ := onward.split takes
      have left : r' ≠ [] := by simp [same]
      have entry' := takes.append entry left more
      rw [← skipSpace_append (takes.ne_nil entry left)] at entry'
      refine .next ?_ entry' ih
      rw [skipSpace_append (by simp [comma]), comma, List.cons_append]

theorem Enclosed.split (takes : Takes Balanced each?)
    (list : Enclosed close each? s entries rest) :
    ∃ inner, s = inner ++ close :: rest ∧ Balanced inner := by
  cases list with
  | empty here => exact skipSpace_split_cons here
  | entries _ entry onward _ =>
      exact split_trans (skipSpace_split s) (split_trans (takes.split entry) (onward.split takes))

theorem Enclosed.append (takes : Takes Balanced each?)
    (list : Enclosed close each? s entries rest) (more : List Char) :
    Enclosed close each? (s ++ more) entries (rest ++ more) := by
  cases list with
  | empty here =>
      refine .empty ?_
      rw [skipSpace_append (by simp [here]), here, List.cons_append]
  | @entries r rest a entries opened entry onward enough =>
      obtain ⟨used, same, -⟩ := onward.split takes
      have left : r ≠ [] := by simp [same]
      have ne := takes.ne_nil entry left
      have spaces := skipSpace_append ne more
      have entry' := takes.append entry left more
      rw [← spaces] at entry'
      refine .entries ?_ entry' (onward.append takes more) ?_
      · rw [spaces]
        exact append_ne_cons ne opened more
      · rw [spaces, List.length_append]
        omega

end

/-! ## Arrays and objects -/

/-- One step through a list of entries, from behind one of them: the closing character, or a
comma, an entry and what is read behind that. -/
def next? (close : Char) (each? : List Char → Option (α × List Char))
    (more? : List Char → Option (List α × List Char)) (s : List Char) :
    Option (List α × List Char) :=
  match skipSpace s with
  | [] => none
  | c :: r =>
    if c = close then some ([], r)
    else if c = ',' then do
      let (entry, r) ← each? (skipSpace r)
      let (entries, r) ← more? r
      return (entry :: entries, r)
    else none

/-- The step into a list of entries. -/
def first? (close : Char) (each? : List Char → Option (α × List Char))
    (more? : List Char → List Char → Option (List α × List Char)) (s : List Char) :
    Option (List α × List Char) :=
  if (skipSpace s).head? = some close then some ([], (skipSpace s).tail)
  else do
    let (entry, r) ← each? (skipSpace s)
    let (entries, r) ← more? (skipSpace s) r
    return (entry :: entries, r)

section

variable {close : Char} {each? : List Char → Option (α × List Char)}
  {more? : List Char → List Char → Option (List α × List Char)} {bound s rest : List Char}
  {entries : List α}

/-- A reader that goes through a list step by step, at most as many as its bound has
characters, finds the entries of the list. -/
theorem entries_iff (apart : close ≠ ',') (dry : ∀ s, more? [] s = none)
    (step : ∀ b bound s, more? (b :: bound) s = next? close each? (more? bound) s) :
    more? bound s = some (entries, rest) ↔
      Entries close each? s entries rest ∧ entries.length < bound.length := by
  constructor
  · intro read
    induction bound generalizing s entries with
    | nil =>
        rw [dry] at read
        cases read
    | cons b bound ih =>
        rw [step] at read
        unfold next? at read
        split at read
        · cases read
        · rename_i c r here
          split at read
          · rename_i closes
            cases read
            exact ⟨.closed (closes ▸ here), Nat.zero_lt_succ _⟩
          · split at read
            · rename_i comma
              simp only [Option.bind_eq_bind, Option.bind_eq_some_iff, Prod.exists,
                Option.pure_def, Option.some.injEq, Prod.mk.injEq] at read
              obtain ⟨entry, r', first, entries, _, onward, rfl, rfl⟩ := read
              obtain ⟨list, enough⟩ := ih onward
              exact ⟨.next (comma ▸ here) first list, Nat.succ_lt_succ enough⟩
            · cases read
  · rintro ⟨list, enough⟩
    induction list generalizing bound with
    | @closed s rest here =>
        cases bound with
        | nil => cases enough
        | cons b bound => simp [step, next?, here]
    | @next s r r' rest entry entries comma first _ ih =>
        cases bound with
        | nil => cases enough
        | cons b bound =>
            have onward := ih (Nat.lt_of_succ_lt_succ enough)
            simp [step, next?, comma, apart.symm, first, onward]

theorem enclosed_iff (more : ∀ {bound s entries rest}, more? bound s = some (entries, rest) ↔
      Entries close each? s entries rest ∧ entries.length < bound.length) :
    first? close each? more? s = some (entries, rest) ↔
      Enclosed close each? s entries rest := by
  unfold first?
  constructor
  · intro read
    split at read
    · rename_i closes
      obtain ⟨tail, here⟩ := List.head?_eq_some_iff.mp closes
      rw [here] at read
      cases read
      exact .empty here
    · rename_i opened
      simp only [Option.bind_eq_bind, Option.bind_eq_some_iff, Prod.exists, Option.pure_def,
        Option.some.injEq, Prod.mk.injEq] at read
      obtain ⟨entry, r, first, entries, _, onward, rfl, rfl⟩ := read
      obtain ⟨list, enough⟩ := more.mp onward
      exact .entries (fun tail here => opened (by rw [here]; rfl)) first list enough
  · intro list
    cases list with
    | empty here => simp [here]
    | entries opened first onward enough =>
        have found := more.mpr ⟨onward, enough⟩
        have other : (skipSpace s).head? ≠ some close := by
          intro closes
          obtain ⟨tail, here⟩ := List.head?_eq_some_iff.mp closes
          exact opened tail here
        simp [other, first, found]

end

section

variable {value? : List Char → Option (Json × List Char)} {s rest : List Char}

/-- Reading the items of an array is reading an enclosed list of values. -/
theorem items?_eq_some_iff {items : List Json} :
    items? value? s = some (items, rest) ↔ Enclosed ']' value? s items rest := by
  have step : ∀ b bound s, moreItems? value? (b :: bound) s =
      next? ']' value? (moreItems? value? bound) s := by
    intro b bound s
    unfold moreItems? next?
    cases skipSpace s with
    | nil => rfl
    | cons c r => split <;> simp_all
  have first : items? value? s = first? ']' value? (moreItems? value?) s := by
    unfold items? first?
    cases skipSpace s with
    | nil => rfl
    | cons c r => split <;> simp_all
  rw [first]
  exact enclosed_iff (entries_iff (by decide) (fun _ => rfl) step)

/-- Reading the fields of an object is reading an enclosed list of fields. -/
theorem fields?_eq_some_iff {fields : List (String × Json)} :
    fields? value? s = some (fields, rest) ↔ Enclosed '}' (field? value?) s fields rest := by
  have step : ∀ b bound s, moreFields? value? (b :: bound) s =
      next? '}' (field? value?) (moreFields? value? bound) s := by
    intro b bound s
    unfold moreFields? next?
    cases skipSpace s with
    | nil => rfl
    | cons c r => split <;> simp_all
  have first : fields? value? s = first? '}' (field? value?) (moreFields? value?) s := by
    unfold fields? first?
    cases skipSpace s with
    | nil => rfl
    | cons c r => split <;> simp_all
  rw [first]
  exact enclosed_iff (entries_iff (by decide) (fun _ => rfl) step)

theorem field?_eq_some_iff {name : String} {v : Json} :
    field? value? s = some ((name, v), rest) ↔ ∃ r r', quoted? s = some (name, r) ∧
      skipSpace r = ':' :: r' ∧ value? (skipSpace r') = some (v, rest) := by
  constructor
  · intro read
    unfold field? at read
    obtain ⟨⟨name', r⟩, first, read⟩ := Option.bind_eq_some_iff.mp read
    dsimp only at read
    split at read
    · rename_i colon
      simp only [Option.bind_eq_bind, Option.bind_eq_some_iff, Prod.exists, Option.pure_def,
        Option.some.injEq, Prod.mk.injEq] at read
      obtain ⟨_, _, value, ⟨rfl, rfl⟩, rfl⟩ := read
      exact ⟨r, _, first, colon, value⟩
    · cases read
  · rintro ⟨r, r', first, colon, value⟩
    simp [field?, first, colon, value]

theorem takes_field (takes : Takes Balanced value?) : Takes Balanced (field? value?) where
  split := by
    rintro s ⟨name, v⟩ rest read
    obtain ⟨r, r', first, colon, value⟩ := field?_eq_some_iff.mp read
    have tail := split_trans (skipSpace_split r') (takes.split value)
    exact split_trans (quoted?_split first)
      (split_trans (skipSpace_split_cons colon) (split_cons (by decide) tail))
  append := by
    rintro s ⟨name, v⟩ rest read left more
    obtain ⟨r, r', first, colon, value⟩ := field?_eq_some_iff.mp read
    have value' := takes.append value left more
    rw [← skipSpace_append (takes.ne_nil value left)] at value'
    refine field?_eq_some_iff.mpr ⟨r ++ more, r' ++ more, quoted?_append first more, ?_, value'⟩
    rw [skipSpace_append (by simp [colon]), colon, List.cons_append]

end

/-! ## Values -/

theorem value?_array_iff {depth : Nat} {s rest : List Char} {v : Json} :
    value? depth ('[' :: s) = some (v, rest) ↔ ∃ d items, depth = d + 1 ∧
      Enclosed ']' (value? d) s items rest ∧ v = .array items := by
  cases depth with
  | zero => simp [value?]
  | succ d =>
      simp only [value?, Option.map_eq_some_iff, Prod.exists, Prod.mk.injEq,
        items?_eq_some_iff, Nat.add_right_cancel_iff]
      constructor
      · rintro ⟨items, _, list, rfl, rfl⟩
        exact ⟨d, items, rfl, list, rfl⟩
      · rintro ⟨_, items, rfl, list, rfl⟩
        exact ⟨items, rest, list, rfl, rfl⟩

/-- A value that starts with a brace is an object of the fields enclosed; of one name the last
counts. -/
theorem value?_object_iff {depth : Nat} {s rest : List Char} {v : Json} :
    value? depth ('{' :: s) = some (v, rest) ↔ ∃ d fields, depth = d + 1 ∧
      Enclosed '}' (field? (value? d)) s fields rest ∧
      v = .object (Table.ofList fields).entries := by
  cases depth with
  | zero => simp [value?]
  | succ d =>
      simp only [value?, Option.map_eq_some_iff, Prod.exists, Prod.mk.injEq,
        fields?_eq_some_iff, Nat.add_right_cancel_iff]
      constructor
      · rintro ⟨fields, _, list, rfl, rfl⟩
        exact ⟨d, fields, rfl, list, rfl⟩
      · rintro ⟨_, fields, rfl, list, rfl⟩
        exact ⟨fields, rest, list, rfl, rfl⟩

theorem value?_scalar {s : List Char} (noArray : ∀ tail, s = '[' :: tail → False)
    (noObject : ∀ tail, s = '{' :: tail → False) (depth : Nat) :
    value? depth s = scalar? s := by
  unfold value?
  split
  · exact absurd rfl (noArray _)
  · exact absurd rfl (noObject _)
  · rfl

/-- A text starts with a bracket, with a brace, or with neither. -/
theorem bracket_or_brace (s : List Char) :
    (∃ tail, s = '[' :: tail) ∨ (∃ tail, s = '{' :: tail) ∨
      (∀ tail, s = '[' :: tail → False) ∧ ∀ tail, s = '{' :: tail → False := by
  by_cases array : ∃ tail, s = '[' :: tail
  · exact Or.inl array
  · by_cases object : ∃ tail, s = '{' :: tail
    · exact Or.inr (Or.inl object)
    · exact Or.inr (Or.inr ⟨not_exists.mp array, not_exists.mp object⟩)

/-- The induction is on how deep values may nest: what is inside an array or object nests
one level less. -/
theorem takes_value (depth : Nat) : Takes Balanced (value? depth) := by
  induction depth using Nat.strongRecOn with
  | ind depth ih =>
      constructor
      · intro s v rest read
        rcases bracket_or_brace s with ⟨tail, rfl⟩ | ⟨tail, rfl⟩ | ⟨noArray, noObject⟩
        · obtain ⟨d, items, rfl, list, -⟩ := value?_array_iff.mp read
          obtain ⟨inner, rfl, balanced⟩ := list.split (ih d (Nat.lt_succ_self d))
          refine split_cons (by decide) ⟨inner ++ [']'], by simp, balanced.append ?_⟩
          exact .plain (by decide) .nil
        · obtain ⟨d, fields, rfl, list, -⟩ := value?_object_iff.mp read
          obtain ⟨inner, rfl, balanced⟩ := list.split (takes_field (ih d (Nat.lt_succ_self d)))
          exact ⟨'{' :: (inner ++ ['}']), by simp, .braced balanced .nil⟩
        · rw [value?_scalar noArray noObject] at read
          exact takes_scalar.split read
      · intro s v rest read left more
        rcases bracket_or_brace s with ⟨tail, rfl⟩ | ⟨tail, rfl⟩ | ⟨noArray, noObject⟩
        · obtain ⟨d, items, rfl, list, rfl⟩ := value?_array_iff.mp read
          have longer := list.append (ih d (Nat.lt_succ_self d)) more
          exact value?_array_iff.mpr ⟨d, items, rfl, longer, rfl⟩
        · obtain ⟨d, fields, rfl, list, rfl⟩ := value?_object_iff.mp read
          have longer := list.append (takes_field (ih d (Nat.lt_succ_self d))) more
          exact value?_object_iff.mpr ⟨d, fields, rfl, longer, rfl⟩
        · rw [value?_scalar noArray noObject] at read
          have ne := takes_scalar.ne_nil read left
          rw [value?_scalar (append_ne_cons ne noArray more) (append_ne_cons ne noObject more)]
          exact takes_scalar.append read left more

/-- An object is read up to the brace that closes it. -/
theorem value?_object_split {depth : Nat} {s rest : List Char} {v : Json}
    (read : value? depth ('{' :: s) = some (v, rest)) :
    ∃ inner, s = inner ++ '}' :: rest ∧ Balanced inner := by
  obtain ⟨d, fields, rfl, list, -⟩ := value?_object_iff.mp read
  exact list.split (takes_field (takes_value d))

/-- An object is read alike whatever comes behind it. -/
theorem value?_object_append {depth : Nat} {s rest : List Char} {v : Json}
    (read : value? depth ('{' :: s) = some (v, rest)) (more : List Char) :
    value? depth ('{' :: (s ++ more)) = some (v, rest ++ more) := by
  obtain ⟨d, fields, rfl, list, rfl⟩ := value?_object_iff.mp read
  have longer := list.append (takes_field (takes_value d)) more
  exact value?_object_iff.mpr ⟨d, fields, rfl, longer, rfl⟩

theorem isScalar_of_scalar? {s rest : List Char} {v : Json}
    (read : scalar? s = some (v, rest)) : v.isScalar = true := by
  unfold scalar? at read
  split at read
  · cases read
    rfl
  · cases read
    rfl
  · cases read
    rfl
  · obtain ⟨_, -, same⟩ := Option.map_eq_some_iff.mp read
    cases same
    rfl
  · obtain ⟨_, -, same⟩ := Option.map_eq_some_iff.mp read
    cases same
    rfl

/-- Only what starts with a brace is read as an object. -/
theorem exists_brace_of_isObject {depth : Nat} {s rest : List Char} {v : Json}
    (read : value? depth s = some (v, rest)) (object : v.isObject = true) :
    ∃ tail, s = '{' :: tail := by
  rcases bracket_or_brace s with ⟨tail, rfl⟩ | brace | ⟨noArray, noObject⟩
  · obtain ⟨_, _, -, -, rfl⟩ := value?_array_iff.mp read
    cases object
  · exact brace
  · rw [value?_scalar noArray noObject] at read
    have scalar := isScalar_of_scalar? read
    cases v with
    | object => cases scalar
    | _ => cases object

end Reader

/-- A text is a value where a value is read from it and only space is left. -/
theorem ofChars?_eq_some_iff {text : List Char} {v : Json} :
    ofChars? text = some v ↔ ∃ rest,
      Reader.value? Reader.nestingLimit (Reader.skipSpace text) = some (v, rest) ∧
        Reader.skipSpace rest = [] := by
  simp only [ofChars?, Option.bind_eq_bind, Option.bind_eq_some_iff, Prod.exists,
    Option.pure_def]
  constructor
  · rintro ⟨value, rest, read, stop⟩
    split at stop
    · rename_i dry
      cases stop
      exact ⟨rest, read, List.isEmpty_iff.mp dry⟩
    · cases stop
  · rintro ⟨rest, read, dry⟩
    exact ⟨v, rest, read, by simp [dry]⟩

end Dataflow.Json
