/-!
# Finite doubles

A finite double is a sign together with the rank of its magnitude: the
nonnegative finite doubles, counted upward from zero. Ranks order magnitudes,
and each rank stands for a whole number of least steps (`2 ^ -1074`), so all
arithmetic here is exact arithmetic on naturals followed by one rounding.
-/

namespace Dataflow

/-- A quotient rounded to the nearest natural number; a half goes to the even
neighbour. -/
def roundHalfEven (num den : Nat) : Nat :=
  let whole := num / den
  let twice := 2 * (num % den)
  if den < twice ∨ (twice = den ∧ whole % 2 = 1) then whole + 1 else whole

/-- A binary floating-point format: the fraction bits of a significand, the
number of halvings of one that give the least step, and the number of binades
of finite values, the subnormal one included. -/
structure BinaryFormat where
  fraction : Nat
  halvings : Nat
  binades : Nat

namespace BinaryFormat

def double : BinaryFormat := ⟨52, 1074, 2047⟩

def single : BinaryFormat := ⟨23, 149, 255⟩

/-- The number of nonnegative finite values. -/
def count (f : BinaryFormat) : Nat := f.binades <<< f.fraction

/-- The value of a rank, counted in least steps. -/
def steps (f : BinaryFormat) (rank : Nat) : Nat :=
  let binade := 1 <<< f.fraction
  if rank < binade then rank else (rank % binade + binade) <<< (rank / binade - 1)

/-- The whole part of the value of a rank. -/
def wholeOf (f : BinaryFormat) (rank : Nat) : Nat := f.steps rank >>> f.halvings

/-- The rank nearest to a quotient, a half going to the even rank. The scale has
no upper end here: a rank of `count` or more lies beyond the finite values. -/
def nearest (f : BinaryFormat) (num den : Nat) : Nat :=
  let scaled := num <<< f.halvings
  let shift := (scaled / den).log2 - f.fraction
  shift <<< f.fraction + roundHalfEven scaled (den <<< shift)

end BinaryFormat

/-- A finite double. -/
structure Double where
  negative : Bool
  rank : Fin (2047 <<< 52)
  deriving DecidableEq

namespace Double

/-- The double of a sign and a rank, if the rank is that of a finite value. -/
def ofRank? (negative : Bool) (rank : Nat) : Option Double :=
  if h : rank < 2047 <<< 52 then some ⟨negative, rank, h⟩ else none

def zero (negative : Bool) : Double := ⟨negative, 0, by decide⟩

instance : Inhabited Double := ⟨zero false⟩

/-- The magnitude, counted in least steps. -/
def steps (d : Double) : Nat := BinaryFormat.double.steps d.rank

/-- Equality of values: the two zeros are equal. -/
def equal (a b : Double) : Bool :=
  a.rank == b.rank && (a.negative == b.negative || a.rank.val == 0)

/-- The whole part of the magnitude. -/
def whole (d : Double) : Nat := BinaryFormat.double.wholeOf d.rank

/-- Whether the value is a whole number. -/
def isWhole (d : Double) : Bool := d.steps == d.whole <<< 1074

/-- Whether the value is zero or more; the negative zero is. -/
def isNonnegative (d : Double) : Bool := !d.negative || d.rank.val == 0

/-- The double nearest to a natural number of 64 bits. -/
def ofWord (n : UInt64) : Double :=
  (ofRank? false (BinaryFormat.double.nearest n.toNat 1)).getD (zero false)

/-- The rank of the product of two magnitudes, rounded once. -/
def productRank (a b : Nat) : Nat :=
  BinaryFormat.double.nearest
    (BinaryFormat.double.steps a * BinaryFormat.double.steps b) (1 <<< 2148)

/-- The rank of the quotient of two magnitudes, rounded once. -/
def quotientRank (a b : Nat) : Nat :=
  BinaryFormat.double.nearest (BinaryFormat.double.steps a) (BinaryFormat.double.steps b)

/-- The rank as a double of a rank in single precision; every single is a double. -/
def rankOfSingle (rank : Nat) : Nat :=
  BinaryFormat.double.nearest (BinaryFormat.single.steps rank) (1 <<< 149)

/-- The value rounded to single precision, or nothing when that overflows. -/
def toSingle? (d : Double) : Option Double :=
  let rank := BinaryFormat.single.nearest d.steps (1 <<< 1074)
  if rank < BinaryFormat.single.count then ofRank? d.negative (rankOfSingle rank) else none

/-- The natural number of 64 bits rounded to single precision, with a sign. -/
def singleOfNat (negative : Bool) (n : Nat) : Double :=
  (ofRank? negative (rankOfSingle (BinaryFormat.single.nearest n 1))).getD (zero negative)

end Double

/-!
## Decimal notation

A decimal numeral is a significand of at most 64 bits and a power of ten. It is
read with one rounding for the significand and one for each scaling by a power
of ten; a power below `10 ^ -308` takes several scalings.
-/

namespace Double

/-- The greatest power of ten that a double holds. -/
def greatestPower : Nat := 308

/-- The rank of a power of ten. -/
def powerRank (exponent : Nat) : Nat := BinaryFormat.double.nearest (Nat.pow 10 exponent) 1

/-- Divides a magnitude by a power of ten, `10 ^ 308` at a time. -/
def lowered (exponent rank : Nat) : Nat :=
  if exponent ≤ greatestPower then quotientRank rank (powerRank exponent)
  else if rank = 0 then 0
  else lowered (exponent - greatestPower) (quotientRank rank (powerRank greatestPower))
termination_by exponent
decreasing_by simp only [greatestPower] at *; omega

/-- The double of a decimal numeral, or nothing when it is too large. -/
def ofDecimal? (negative : Bool) (significand : Nat) (exponent : Int) : Option Double :=
  let start := BinaryFormat.double.nearest significand 1
  match exponent with
  | .ofNat up =>
    if up ≤ greatestPower then ofRank? negative (productRank start (powerRank up))
    else if start = 0 then some (zero negative) else none
  | .negSucc down => ofRank? negative (lowered (down + 1) start)

end Double

end Dataflow
