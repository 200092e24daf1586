import Dataflow.Proofs.Json.Tokens

/-!
# Numbers that read back

A number ends where no digit, point or exponent mark follows (`Stops`). Up to there the text of
a number is read alike whatever comes behind it (`stopsAlike_number`). Whole numbers are
always read as what they were written for; a double may not be, since it is rounded more than
once on the way back, so that it reads back (`Number.ReadsBack`) is said of it where it is
needed.
-/

namespace Dataflow

namespace Json.Reader

/-! ## Where a number ends -/

/-- Whether a character may go on with a number. -/
def continuesNumber (c : Char) : Bool := c.isDigit || c == '.' || c == 'e' || c == 'E'

/-- No character that may go on with a number comes next. -/
def Stops (s : List Char) : Prop := ∀ c tail, s = c :: tail → continuesNumber c = false

theorem stops_nil : Stops [] := nofun

theorem stops_cons {c : Char} {tail : List Char} (stop : continuesNumber c = false) :
    Stops (c :: tail) := by
  intro c' tail' same
  cases same
  exact stop

theorem Stops.head {c : Char} {tail : List Char} (stop : Stops (c :: tail)) :
    c.isDigit = false ∧ c ≠ '.' ∧ c ≠ 'e' ∧ c ≠ 'E' := by
  have none := stop c tail rfl
  simpa [continuesNumber, and_assoc] using none

variable {α β : Type}

/-- A reader that stops somewhere in a text stops there, too, when what comes behind the text
does not go on with a number. -/
structure StopsAlike (read : List Char → Option (α × List Char)) : Prop where
  append : ∀ {s a rest}, read s = some (a, rest) → ∀ {more}, Stops more →
    read (s ++ more) = some (a, rest ++ more)

theorem StopsAlike.map {read : List Char → Option (α × List Char)} (alike : StopsAlike read)
    (f : α → β) : StopsAlike fun s => (read s).map fun (a, rest) => (f a, rest) where
  append := by
    intro s b rest found more stop
    obtain ⟨⟨a, _⟩, first, same⟩ := Option.map_eq_some_iff.mp found
    cases same
    dsimp only
    rw [alike.append first stop]
    rfl

/-- Text after a number does not change which digits are read. -/
theorem span_append_of_stops (s : List Char) {more : List Char} (stop : Stops more) :
    (s ++ more).takeWhile Char.isDigit = s.takeWhile Char.isDigit ∧
      (s ++ more).dropWhile Char.isDigit = s.dropWhile Char.isDigit ++ more := by
  induction s with
  | nil =>
      cases more with
      | nil => exact ⟨rfl, rfl⟩
      | cons c tail => simp [stop.head.1]
  | cons c s ih => cases digit : c.isDigit <;> simp [digit, ih]

theorem stopsAlike_digits : StopsAlike digits? where
  append := by
    intro s found rest read more stop
    obtain ⟨rfl, rfl, ne⟩ := digits?_eq_some read
    obtain ⟨taken, left⟩ := span_append_of_stops s stop
    unfold digits?
    rw [taken, left]
    split
    · contradiction
    · rfl

theorem stopsAlike_wholeDigits : StopsAlike wholeDigits? where
  append := by
    intro s found rest read more stop
    obtain ⟨read, form⟩ := wholeDigits?_eq_some_iff.mp read
    exact wholeDigits?_eq_some_iff.mpr ⟨stopsAlike_digits.append read stop, form⟩

theorem stopsAlike_fraction : StopsAlike fraction? where
  append := by
    intro s fraction rest read more stop
    by_cases left : rest = []
    · subst left
      unfold fraction? at read
      split at read
      · exact (stopsAlike_digits.map some).append read stop
      · cases read
        cases more with
        | nil => rfl
        | cons c tail =>
            -- what does not go on with a number does not start with a point
            unfold fraction?
            split
            · rename_i same
              cases same
              exact absurd rfl stop.head.2.1
            · rfl
    · exact takes_fraction.append read left more

theorem stopsAlike_power : StopsAlike power? where
  append := by
    intro s power rest read more stop
    have positive := stopsAlike_digits.map fun found => (digitsValue found : Int)
    have negative := stopsAlike_digits.map fun found => -(digitsValue found : Int)
    unfold power? at read
    split at read
    · exact negative.append read stop
    · exact positive.append read stop
    · rename_i noMinus noPlus
      have ne : s ≠ [] := by
        rintro rfl
        cases read
      unfold power?
      split
      · rename_i same
        exact absurd same (append_ne_cons ne noMinus more _)
      · rename_i same
        exact absurd same (append_ne_cons ne noPlus more _)
      · exact positive.append read stop

theorem stopsAlike_exponent : StopsAlike exponent? where
  append := by
    intro s exponent rest read more stop
    by_cases left : rest = []
    · subst left
      unfold exponent? at read
      split at read
      · exact (stopsAlike_power.map some).append read stop
      · exact (stopsAlike_power.map some).append read stop
      · cases read
        cases more with
        | nil => rfl
        | cons c tail =>
            unfold exponent?
            split
            · rename_i same
              cases same
              exact absurd rfl stop.head.2.2.1
            · rename_i same
              cases same
              exact absurd rfl stop.head.2.2.2
            · rfl
    · exact takes_exponent.append read left more

theorem stopsAlike_unsigned (negative : Bool) : StopsAlike (unsigned? negative) where
  append := by
    intro s value rest read more stop
    obtain ⟨_, _, _, _, _, whole, fraction, exponent, number⟩ := unsigned?_eq_some_iff.mp read
    exact unsigned?_eq_some_iff.mpr ⟨_, _, _, _, _, stopsAlike_wholeDigits.append whole stop,
      stopsAlike_fraction.append fraction stop, stopsAlike_exponent.append exponent stop, number⟩

/-- A number is read alike before all that does not go on with it. -/
theorem stopsAlike_number : StopsAlike number? where
  append := by
    intro s value rest read more stop
    obtain ⟨c, tail, rfl, -⟩ := number?_head read
    unfold number? at read
    split at read
    · rename_i same
      cases same
      exact (stopsAlike_unsigned true).append read stop
    · rename_i noMinus
      unfold number?
      split
      · rename_i same
        cases same
        exact absurd rfl (noMinus _)
      · exact (stopsAlike_unsigned false).append read stop

/-! ## Digits -/

theorem le_ofDigitChars (digits : List Char) (start : Nat) :
    start ≤ Nat.ofDigitChars 10 digits start := by
  induction digits generalizing start with
  | nil => exact Nat.le_refl start
  | cons c rest ih =>
      rw [Nat.ofDigitChars_cons]
      have tail := ih (10 * start + (c.toNat - '0'.toNat))
      omega

/-- Digits whose value fits into 64 bits are all taken. -/
theorem absorb_eq {digits : List Char} {start : Nat}
    (fits : Nat.ofDigitChars 10 digits start < UInt64.size) :
    absorb start digits = (Nat.ofDigitChars 10 digits start, digits.length, []) := by
  induction digits generalizing start with
  | nil => rfl
  | cons c rest ih =>
      rw [Nat.ofDigitChars_cons] at fits ⊢
      have next : start * 10 + digitValue c = 10 * start + (c.toNat - '0'.toNat) := by
        rw [digitValue, Nat.mul_comm]
      have small := Nat.lt_of_le_of_lt (le_ofDigitChars rest _) fits
      rw [absorb]
      simp only [next, if_pos small, ih fits, List.length_cons]

/-- Zero alone is written with a zero in front. -/
theorem eq_zero_of_head_toDigits {n : Nat} (zero : (Nat.toDigits 10 n).head? = some '0') :
    n = 0 := by
  induction n using Nat.strongRecOn with
  | ind n ih =>
      by_cases small : n < 10
      · have digit : ∀ d < 10, Nat.digitChar d = '0' → d = 0 := by decide
        rw [Nat.toDigits_of_lt_base small] at zero
        exact digit n small (Option.some.inj zero)
      · -- the first digit is that of the tenth part, which is not zero either
        obtain ⟨c, tail, front⟩ :=
          List.exists_cons_of_ne_nil (Nat.toDigits_ne_nil (n := n / 10) (b := 10))
        rw [Nat.toDigits_of_base_le (by decide) (Nat.not_lt.mp small), front] at zero
        have tenth := ih (n / 10) (by omega) (by rw [front]; exact zero)
        omega

/-- The digits of a number are read back whole: none starts with a needless zero. -/
theorem wholeDigits?_toDigits (n : Nat) :
    wholeDigits? (Nat.toDigits 10 n) = some (Nat.toDigits 10 n, []) := by
  have digits : ∀ c ∈ Nat.toDigits 10 n, c.isDigit = true :=
    fun c member => Nat.isDigit_of_mem_toDigits (by decide) (by decide) member
  refine wholeDigits?_eq_some_iff.mpr ⟨?_, ?_⟩
  · unfold digits?
    rw [List.takeWhile_eq_self_iff.mpr digits, List.dropWhile_eq_nil_iff.mpr digits]
    split
    · rename_i none
      exact absurd none Nat.toDigits_ne_nil
    · rfl
  · intro c tail same
    have zero := eq_zero_of_head_toDigits (n := n) (by rw [same]; rfl)
    subst zero
    cases same

/-- What digits alone are read as depends on their value and the sign. -/
theorem unsigned?_toDigits {negative : Bool} {n : Nat} {value : Number}
    (number : Numeral.number? ⟨negative, Nat.toDigits 10 n, none, none⟩ = some value) :
    unsigned? negative (Nat.toDigits 10 n) = some (value, []) :=
  unsigned?_eq_some_iff.mpr ⟨_, _, _, _, _, wholeDigits?_toDigits n, rfl, rfl, number⟩

theorem absorb_toDigits {n : Nat} (fits : n < UInt64.size) :
    absorb 0 (Nat.toDigits 10 n) = (n, (Nat.toDigits 10 n).length, []) := by
  have value : Nat.ofDigitChars 10 (Nat.toDigits 10 n) 0 = n := Nat.ofDigitChars_ten_toDigits
  rw [absorb_eq (value.symm ▸ fits), value]

end Json.Reader

open Json.Reader

namespace Number

/-- The text of a number is read as the number, to its end. -/
def ReadsBack (n : Number) : Prop := number? n.text.toList = some (n, [])

instance (n : Number) : Decidable n.ReadsBack := inferInstanceAs (Decidable (_ = _))

/-- A natural number is read back from its text. -/
theorem readsBack_natural (value : UInt64) : (natural value).ReadsBack := by
  have number : Numeral.number? ⟨false, Nat.toDigits 10 value.toNat, none, none⟩ =
      some (natural value) := by
    simp [Numeral.number?, absorb_toDigits value.toNat_lt]
  have text : (natural value).text.toList = Nat.toDigits 10 value.toNat := by
    rw [Number.text, Nat.repr_eq_ofList_toDigits, String.toList_ofList]
  rw [ReadsBack, text]
  unfold number?
  split
  · rename_i same
    have digit := Nat.isDigit_of_mem_toDigits (b := 10) (n := value.toNat) (c := '-') (by decide)
      (by decide) (same ▸ List.mem_cons_self)
    cases digit
  · exact unsigned?_toDigits number

theorem readsBack_negative (distance : Fin (1 <<< 63)) : (negative distance).ReadsBack := by
  have number : Numeral.number? ⟨true, Nat.toDigits 10 (distance + 1), none, none⟩ =
      some (negative distance) := by
    have bound : distance.val + 1 ≤ 1 <<< 63 := distance.isLt
    have fits : distance.val + 1 < UInt64.size := Nat.lt_of_le_of_lt bound (by decide)
    have within : 0 < distance.val + 1 ∧ distance.val + 1 ≤ 1 <<< 63 := ⟨Nat.succ_pos _, bound⟩
    simp only [Numeral.number?, absorb_toDigits fits, if_true, dif_pos within]
    rfl
  have text : (negative distance).text.toList = '-' :: Nat.toDigits 10 (distance + 1) := by
    simp [Number.text, Nat.repr_eq_ofList_toDigits]
  rw [ReadsBack, text]
  exact unsigned?_toDigits number

end Number

end Dataflow
