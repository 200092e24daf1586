import Dataflow.Json.Reader
import Dataflow.Proofs.Text
import Mathlib.Data.List.TakeWhile

/-!
# What readers of tokens take

A reader takes a text from the front of its input and leaves the rest. What it takes is
balanced, and a reader that stops before a character does so whatever comes behind that
character (`Takes`). This holds of numbers, literals and strings; a string ends at a
character of its own, so it is read alike before any text at all (`quoted?_append`).
-/

namespace Dataflow.Json.Reader

variable {α β : Type}

/-- A reader takes a text of some kind from the front of its input. Where it stops before a
character, more text at the end makes no difference. -/
structure Takes (kind : List Char → Prop) (read : List Char → Option (α × List Char)) :
    Prop where
  split : ∀ {s a rest}, read s = some (a, rest) → ∃ used, s = used ++ rest ∧ kind used
  append : ∀ {s a rest}, read s = some (a, rest) → rest ≠ [] →
    ∀ more, read (s ++ more) = some (a, rest ++ more)

namespace Takes

variable {kind : List Char → Prop} {read : List Char → Option (α × List Char)}

theorem ne_nil (takes : Takes kind read) {s rest : List Char} {a : α}
    (found : read s = some (a, rest)) (left : rest ≠ []) : s ≠ [] := by
  obtain ⟨used, rfl, -⟩ := takes.split found
  simp [left]

/-- A reader that gives what another reads under another form. -/
theorem map (takes : Takes kind read) (f : α → β) :
    Takes kind fun s => (read s).map fun (a, rest) => (f a, rest) where
  split := by
    intro s b rest found
    obtain ⟨⟨a, _⟩, first, same⟩ := Option.map_eq_some_iff.mp found
    cases same
    exact takes.split first
  append := by
    intro s b rest found left more
    obtain ⟨⟨a, _⟩, first, same⟩ := Option.map_eq_some_iff.mp found
    cases same
    dsimp only
    rw [takes.append first left more]
    rfl

end Takes

/-- What two readers take one after the other. -/
theorem split_trans {s r rest : List Char} (first : ∃ used, s = used ++ r ∧ Balanced used)
    (second : ∃ used, r = used ++ rest ∧ Balanced used) :
    ∃ used, s = used ++ rest ∧ Balanced used := by
  obtain ⟨a, rfl, balanced⟩ := first
  obtain ⟨b, rfl, balanced'⟩ := second
  exact ⟨a ++ b, (List.append_assoc a b rest).symm, balanced.append balanced'⟩

/-- What a reader takes together with a character before it. -/
theorem split_cons {c : Char} {s rest : List Char} (plain : IsPlain c)
    (onward : ∃ used, s = used ++ rest ∧ Balanced used) :
    ∃ used, c :: s = used ++ rest ∧ Balanced used := by
  obtain ⟨used, rfl, balanced⟩ := onward
  exact ⟨c :: used, rfl, .plain plain balanced⟩

/-- What a text that is not empty does not start with, it does not start with when text is
added at the end. -/
theorem append_ne_cons {s : List Char} {c : Char} (ne : s ≠ [])
    (starts : ∀ rest, s = c :: rest → False) (more : List Char) :
    ∀ rest, s ++ more = c :: rest → False := by
  intro rest same
  cases s with
  | nil => exact ne rfl
  | cons d tail =>
      cases same
      exact starts tail rfl

theorem takeWhile_append_of_stop {p : Char → Bool} {s : List Char} (stop : s.dropWhile p ≠ [])
    (more : List Char) : (s ++ more).takeWhile p = s.takeWhile p := by
  rw [List.takeWhile_append, if_neg]
  intro all
  have lengths := congrArg List.length (List.takeWhile_append_dropWhile (p := p) (l := s))
  rw [List.length_append, all] at lengths
  exact stop (List.length_eq_zero_iff.mp (by omega))

theorem dropWhile_append_of_stop {p : Char → Bool} {s : List Char} (stop : s.dropWhile p ≠ [])
    (more : List Char) : (s ++ more).dropWhile p = s.dropWhile p ++ more := by
  rw [List.dropWhile_append, if_neg]
  rwa [List.isEmpty_iff]

/-! ## Space -/

/-- What is skipped before a token is balanced, since it is blank. -/
theorem skipSpace_split (s : List Char) : ∃ used, s = used ++ skipSpace s ∧ Balanced used := by
  refine ⟨s.takeWhile isSpace, List.takeWhile_append_dropWhile.symm, .of_plain ?_⟩
  intro c member
  have space := List.mem_takeWhile_imp member
  simp only [isSpace, Bool.or_eq_true, beq_iff_eq] at space
  rcases space with ((rfl | rfl) | rfl) | rfl <;> decide

theorem skipSpace_append {s : List Char} (ne : skipSpace s ≠ []) (more : List Char) :
    skipSpace (s ++ more) = skipSpace s ++ more := dropWhile_append_of_stop ne more

/-! ## Numbers -/

theorem isPlain_of_isDigit {c : Char} (digit : c.isDigit = true) : IsPlain c := by
  refine ⟨?_, ?_, ?_⟩ <;>
  · rintro rfl
    exact absurd digit (by decide)

theorem digits?_eq_some {s found rest : List Char} (read : digits? s = some (found, rest)) :
    found = s.takeWhile Char.isDigit ∧ rest = s.dropWhile Char.isDigit ∧ found ≠ [] := by
  unfold digits? at read
  split at read
  · cases read
  · rename_i ne
    cases read
    exact ⟨rfl, rfl, ne⟩

theorem takes_digits : Takes Balanced digits? where
  split := by
    intro s found rest read
    obtain ⟨rfl, rfl, -⟩ := digits?_eq_some read
    refine ⟨_, List.takeWhile_append_dropWhile.symm, .of_plain fun c member => ?_⟩
    exact isPlain_of_isDigit (List.mem_takeWhile_imp member)
  append := by
    intro s found rest read left more
    obtain ⟨rfl, rfl, ne⟩ := digits?_eq_some read
    unfold digits?
    rw [takeWhile_append_of_stop left, dropWhile_append_of_stop left]
    split
    · contradiction
    · rfl

/-- Whole digits are digits without a zero in front of others. -/
theorem wholeDigits?_eq_some_iff {s found rest : List Char} :
    wholeDigits? s = some (found, rest) ↔
      digits? s = some (found, rest) ∧ ∀ c tail, found ≠ '0' :: c :: tail := by
  unfold wholeDigits?
  split
  · rename_i read
    rw [read]
    constructor
    · intro none
      cases none
    · rintro ⟨same, form⟩
      cases same
      exact absurd rfl (form _ _)
  · rename_i other
    constructor
    · intro read
      refine ⟨read, ?_⟩
      rintro c tail rfl
      exact other _ _ _ read
    · exact And.left

theorem takes_wholeDigits : Takes Balanced wholeDigits? where
  split read := takes_digits.split (wholeDigits?_eq_some_iff.mp read).1
  append read left more := by
    obtain ⟨read, form⟩ := wholeDigits?_eq_some_iff.mp read
    exact wholeDigits?_eq_some_iff.mpr ⟨takes_digits.append read left more, form⟩

theorem takes_fraction : Takes Balanced fraction? where
  split := by
    intro s fraction rest read
    unfold fraction? at read
    split at read
    · exact split_cons (by decide) ((takes_digits.map some).split read)
    · cases read
      exact ⟨[], rfl, .nil⟩
  append := by
    intro s fraction rest read left more
    unfold fraction? at read
    split at read
    · exact (takes_digits.map some).append read left more
    · rename_i other
      cases read
      unfold fraction?
      split
      · rename_i same
        exact absurd same (append_ne_cons left other more _)
      · rfl

theorem takes_power : Takes Balanced power? where
  split := by
    intro s power rest read
    have positive := takes_digits.map fun found => (digitsValue found : Int)
    have negative := takes_digits.map fun found => -(digitsValue found : Int)
    unfold power? at read
    split at read
    · exact split_cons (by decide) (negative.split read)
    · exact split_cons (by decide) (positive.split read)
    · exact positive.split read
  append := by
    intro s power rest read left more
    have positive := takes_digits.map fun found => (digitsValue found : Int)
    have negative := takes_digits.map fun found => -(digitsValue found : Int)
    unfold power? at read
    split at read
    · exact negative.append read left more
    · exact positive.append read left more
    · rename_i noMinus noPlus
      have ne := positive.ne_nil read left
      unfold power?
      split
      · rename_i same
        exact absurd same (append_ne_cons ne noMinus more _)
      · rename_i same
        exact absurd same (append_ne_cons ne noPlus more _)
      · exact positive.append read left more

theorem takes_exponent : Takes Balanced exponent? where
  split := by
    intro s exponent rest read
    unfold exponent? at read
    split at read
    · exact split_cons (by decide) ((takes_power.map some).split read)
    · exact split_cons (by decide) ((takes_power.map some).split read)
    · cases read
      exact ⟨[], rfl, .nil⟩
  append := by
    intro s exponent rest read left more
    unfold exponent? at read
    split at read
    · exact (takes_power.map some).append read left more
    · exact (takes_power.map some).append read left more
    · rename_i noSmall noCapital
      cases read
      unfold exponent?
      split
      · rename_i same
        exact absurd same (append_ne_cons left noSmall more _)
      · rename_i same
        exact absurd same (append_ne_cons left noCapital more _)
      · rfl

theorem unsigned?_eq_some_iff {negative : Bool} {s rest : List Char} {value : Number} :
    unsigned? negative s = some (value, rest) ↔ ∃ whole s' fraction s'' exponent,
      wholeDigits? s = some (whole, s') ∧ fraction? s' = some (fraction, s'') ∧
      exponent? s'' = some (exponent, rest) ∧
      Numeral.number? { negative, whole, fraction, exponent } = some value := by
  simp only [unsigned?, Option.bind_eq_bind, Option.bind_eq_some_iff, Prod.exists,
    Option.pure_def, Option.some.injEq, Prod.mk.injEq]
  constructor
  · rintro ⟨whole, s', first, fraction, s'', second, exponent, _, third, _, number, rfl, rfl⟩
    exact ⟨whole, s', fraction, s'', exponent, first, second, third, number⟩
  · rintro ⟨whole, s', fraction, s'', exponent, first, second, third, number⟩
    exact ⟨whole, s', first, fraction, s'', second, exponent, _, third, _, number, rfl, rfl⟩

theorem takes_unsigned (negative : Bool) : Takes Balanced (unsigned? negative) where
  split := by
    intro s value rest read
    obtain ⟨_, _, _, _, _, whole, fraction, exponent, -⟩ := unsigned?_eq_some_iff.mp read
    exact split_trans (takes_wholeDigits.split whole)
      (split_trans (takes_fraction.split fraction) (takes_exponent.split exponent))
  append := by
    intro s value rest read left more
    obtain ⟨_, _, _, _, _, whole, fraction, exponent, number⟩ := unsigned?_eq_some_iff.mp read
    have left'' := takes_exponent.ne_nil exponent left
    have left' := takes_fraction.ne_nil fraction left''
    exact unsigned?_eq_some_iff.mpr ⟨_, _, _, _, _, takes_wholeDigits.append whole left' more,
      takes_fraction.append fraction left'' more, takes_exponent.append exponent left more, number⟩

theorem takes_number : Takes Balanced number? where
  split := by
    intro s value rest read
    unfold number? at read
    split at read
    · exact split_cons (by decide) ((takes_unsigned true).split read)
    · exact (takes_unsigned false).split read
  append := by
    intro s value rest read left more
    unfold number? at read
    split at read
    · exact (takes_unsigned true).append read left more
    · rename_i noMinus
      have ne := (takes_unsigned false).ne_nil read left
      unfold number?
      split
      · rename_i same
        exact absurd same (append_ne_cons ne noMinus more _)
      · exact (takes_unsigned false).append read left more

/-- A number starts with a digit or a minus. -/
theorem number?_head {s rest : List Char} {value : Number} (read : number? s = some (value, rest)) :
    ∃ c tail, s = c :: tail ∧ (c = '-' ∨ c.isDigit = true) := by
  unfold number? at read
  split at read
  · exact ⟨_, _, rfl, Or.inl rfl⟩
  · obtain ⟨found, _, _, _, _, whole, -⟩ := unsigned?_eq_some_iff.mp read
    obtain ⟨rfl, -, ne⟩ := digits?_eq_some (wholeDigits?_eq_some_iff.mp whole).1
    cases s with
    | nil => exact absurd rfl ne
    | cons c tail =>
        refine ⟨c, tail, rfl, Or.inr ?_⟩
        by_contra other
        exact ne (List.takeWhile_cons_of_neg other)

/-! ## Strings -/

/-- A hexadecimal digit is neither quote nor backslash. -/
theorem hexValue?_plain {c : Char} {n : Nat} (read : hexValue? c = some n) :
    c ≠ '"' ∧ c ≠ '\\' := by
  have quote : hexValue? '"' = none := by decide
  have backslash : hexValue? '\\' = none := by decide
  constructor
  · rintro rfl
    rw [quote] at read
    cases read
  · rintro rfl
    rw [backslash] at read
    cases read

/-- A reader takes the text of a string from the front of an input, and takes it alike
before any text at all. -/
structure TakesText (read : List Char → Option (α × List Char)) (s : List Char) (a : α)
    (rest : List Char) : Prop where
  split : ∃ used, s = used ++ rest ∧ StringText used
  append : ∀ more, read (s ++ more) = some (a, rest ++ more)

theorem takesText_unit? {s rest : List Char} {n : Nat} (read : unit? s = some (n, rest)) :
    TakesText unit? s n rest := by
  unfold unit? at read
  split at read
  · rename_i a b c d tail
    simp only [Option.bind_eq_bind, Option.bind_eq_some_iff, Option.pure_def, Option.some.injEq,
      Prod.mk.injEq] at read
    obtain ⟨_, ha, _, hb, _, hc, _, hd, rfl, rfl⟩ := read
    refine ⟨⟨[a, b, c, d], rfl, ?_⟩, fun more => ?_⟩
    · obtain ⟨quoteA, escapeA⟩ := hexValue?_plain ha
      obtain ⟨quoteB, escapeB⟩ := hexValue?_plain hb
      obtain ⟨quoteC, escapeC⟩ := hexValue?_plain hc
      obtain ⟨quoteD, escapeD⟩ := hexValue?_plain hd
      exact .plain quoteA escapeA (.plain quoteB escapeB
        (.plain quoteC escapeC (.plain quoteD escapeD .nil)))
    · simp [unit?, ha, hb, hc, hd]
  · cases read

theorem takesText_codePoint? {s rest : List Char} {c : Char}
    (read : codePoint? s = some (c, rest)) : TakesText codePoint? s c rest := by
  unfold codePoint? at read
  obtain ⟨⟨high, s'⟩, first, onward⟩ := Option.bind_eq_some_iff.mp read
  obtain ⟨⟨used, rfl, text⟩, again⟩ := takesText_unit? first
  dsimp only at onward
  split at onward
  · rename_i surrogate
    split at onward
    · obtain ⟨⟨low, s''⟩, second, last⟩ := Option.bind_eq_some_iff.mp onward
      obtain ⟨⟨used', rfl, text'⟩, again'⟩ := takesText_unit? second
      dsimp only at last
      split at last
      · rename_i partner
        simp only [Option.pure_def, Option.some.injEq, Prod.mk.injEq] at last
        obtain ⟨rfl, rfl⟩ := last
        refine ⟨⟨used ++ '\\' :: 'u' :: used', by simp, text.append (.escape 'u' text')⟩, ?_⟩
        intro more
        unfold codePoint?
        rw [again more]
        have second' := again' more
        rw [List.append_assoc] at second'
        simp [surrogate, second', partner]
      · cases last
    · cases onward
  · rename_i single
    split at onward
    · cases onward
    · rename_i known
      cases onward
      refine ⟨⟨used, rfl, text⟩, fun more => ?_⟩
      unfold codePoint?
      rw [again more]
      simp [single, known]

theorem takesText_character? {s rest : List Char} {c : Char}
    (read : character? s = some (c, rest)) (inside : ∀ tail, s = '"' :: tail → False) :
    TakesText character? s c rest := by
  unfold character? at read
  split at read
  · obtain ⟨⟨used, rfl, text⟩, again⟩ := takesText_codePoint? read
    exact ⟨⟨'\\' :: 'u' :: used, rfl, .escape 'u' text⟩, again⟩
  · rename_i letter tail noUnit
    obtain ⟨_, found, same⟩ := Option.map_eq_some_iff.mp read
    cases same
    refine ⟨⟨['\\', letter], rfl, .escape letter .nil⟩, fun more => ?_⟩
    simp [character?, found]
  · rename_i letter tail noUnit noEscape
    split at read
    · cases read
    · rename_i allowed
      cases read
      rw [not_or] at allowed
      have noQuote : c ≠ '"' := by
        rintro rfl
        exact inside rest rfl
      refine ⟨⟨[c], rfl, .plain noQuote allowed.1 .nil⟩, fun more => ?_⟩
      simp [character?, allowed]
  · cases read

/-- The text of a string, character by character, up to and with its closing quote. -/
inductive Characters : List Char → List Char → List Char → Prop where
  | closed {rest : List Char} : Characters ('"' :: rest) [] rest
  | next {s s' rest text : List Char} {c : Char} (inside : ∀ tail, s = '"' :: tail → False)
      (read : character? s = some (c, s')) (onward : Characters s' text rest) :
      Characters s (c :: text) rest

theorem text?_eq_some_iff {bound s text rest : List Char} :
    text? bound s = some (text, rest) ↔
      Characters s text rest ∧ text.length ≤ bound.length := by
  constructor
  · intro read
    induction bound generalizing s text with
    | nil =>
        unfold text? at read
        split at read
        · cases read
          exact ⟨.closed, Nat.le_refl _⟩
        · cases read
        · contradiction
    | cons b bound ih =>
        unfold text? at read
        split at read
        · cases read
          exact ⟨.closed, Nat.zero_le _⟩
        · contradiction
        · rename_i same inside
          cases same
          simp only [Option.bind_eq_bind, Option.bind_eq_some_iff, Prod.exists, Option.pure_def,
            Option.some.injEq, Prod.mk.injEq] at read
          obtain ⟨c, s', first, text', _, onward, rfl, rfl⟩ := read
          obtain ⟨characters, enough⟩ := ih onward
          exact ⟨.next inside first characters, Nat.succ_le_succ enough⟩
  · rintro ⟨characters, enough⟩
    induction characters generalizing bound with
    | closed => cases bound <;> rfl
    | @next s s' rest text c inside read _ ih =>
        cases bound with
        | nil => cases enough
        | cons b bound =>
            have onward := ih (Nat.le_of_succ_le_succ enough)
            unfold text?
            split
            · exact absurd rfl (inside _)
            · contradiction
            · rename_i same _
              cases same
              simp [read, onward]

namespace Characters

variable {s text rest : List Char}

theorem split (characters : Characters s text rest) :
    ∃ used, s = used ++ '"' :: rest ∧ StringText used := by
  induction characters with
  | closed => exact ⟨[], rfl, .nil⟩
  | next inside read _ ih =>
      obtain ⟨⟨first, rfl, string⟩, -⟩ := takesText_character? read inside
      obtain ⟨used, rfl, strings⟩ := ih
      exact ⟨first ++ used, (List.append_assoc ..).symm, string.append strings⟩

theorem append (characters : Characters s text rest) (more : List Char) :
    Characters (s ++ more) text (rest ++ more) := by
  induction characters with
  | closed => exact .closed
  | @next s s' rest text c inside read _ ih =>
      obtain ⟨⟨first, same, -⟩, again⟩ := takesText_character? read inside
      have ne : s ≠ [] := by
        rintro rfl
        cases read
      exact .next (append_ne_cons ne inside more) (again more) ih

end Characters

/-- A string that is read is a quotation mark and characters up to the next that is not escaped.
-/
theorem quoted?_eq_some_iff {s rest : List Char} {name : String} :
    quoted? s = some (name, rest) ↔ ∃ tail text, s = '"' :: tail ∧ Characters tail text rest ∧
      text.length ≤ tail.length ∧ name = String.ofList text := by
  constructor
  · intro read
    unfold quoted? at read
    split at read
    · obtain ⟨⟨text, _⟩, found, same⟩ := Option.map_eq_some_iff.mp read
      cases same
      obtain ⟨characters, enough⟩ := text?_eq_some_iff.mp found
      exact ⟨_, text, rfl, characters, enough, rfl⟩
    · cases read
  · rintro ⟨tail, text, rfl, characters, enough, rfl⟩
    rw [quoted?, text?_eq_some_iff.mpr ⟨characters, enough⟩]
    rfl

theorem quoted?_split {s rest : List Char} {name : String} (read : quoted? s = some (name, rest)) :
    ∃ used, s = used ++ rest ∧ Balanced used := by
  obtain ⟨tail, text, rfl, characters, -, -⟩ := quoted?_eq_some_iff.mp read
  obtain ⟨used, rfl, string⟩ := characters.split
  exact ⟨'"' :: (used ++ ['"']), by simp, .quoted string .nil⟩

theorem quoted?_append {s rest : List Char} {name : String} (read : quoted? s = some (name, rest))
    (more : List Char) : quoted? (s ++ more) = some (name, rest ++ more) := by
  obtain ⟨tail, text, rfl, characters, enough, same⟩ := quoted?_eq_some_iff.mp read
  refine quoted?_eq_some_iff.mpr ⟨tail ++ more, text, rfl, characters.append more, ?_, same⟩
  rw [List.length_append]
  omega

/-! ## Values without parts -/

/-- A number starts with a character that starts no other value. -/
theorem scalar?_number {c : Char} {tail : List Char} (first : c = '-' ∨ c.isDigit = true) :
    scalar? (c :: tail) =
      (number? (c :: tail)).map fun (value, rest) => (.number value, rest) := by
  unfold scalar?
  split
  case h_5 => rfl
  all_goals
    rename_i same
    obtain ⟨rfl, -⟩ := List.cons.inj same
    exact absurd first (by decide)

theorem takes_scalar : Takes Balanced scalar? where
  split := by
    intro s v rest read
    unfold scalar? at read
    split at read
    · cases read
      exact ⟨['n', 'u', 'l', 'l'], rfl, .of_plain (by simp [IsPlain])⟩
    · cases read
      exact ⟨['t', 'r', 'u', 'e'], rfl, .of_plain (by simp [IsPlain])⟩
    · cases read
      exact ⟨['f', 'a', 'l', 's', 'e'], rfl, .of_plain (by simp [IsPlain])⟩
    · obtain ⟨⟨name, _⟩, found, same⟩ := Option.map_eq_some_iff.mp read
      cases same
      exact quoted?_split found
    · exact (takes_number.map Json.number).split read
  append := by
    intro s v rest read left more
    unfold scalar? at read
    split at read
    · cases read
      rfl
    · cases read
      rfl
    · cases read
      rfl
    · obtain ⟨⟨name, _⟩, found, same⟩ := Option.map_eq_some_iff.mp read
      cases same
      show (quoted? ('"' :: _ ++ more)).map _ = _
      rw [quoted?_append found more]
      rfl
    · obtain ⟨⟨value, _⟩, found, same⟩ := Option.map_eq_some_iff.mp read
      cases same
      obtain ⟨c, tail, rfl, first⟩ := number?_head found
      have again := takes_number.append found left more
      rw [List.cons_append] at again ⊢
      rw [scalar?_number first, again]
      rfl

end Dataflow.Json.Reader
