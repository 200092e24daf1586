import Dataflow.Double.Basic

/-!
# The shortest decimal text of a double

Of all decimals that read back as a double, the text shows one with the fewest
digits, of those the nearest to the value, and at an exact tie the one with the
even last digit. Decimals are tried on coarser grids first; on a grid only the
two neighbours of the value need a look.
-/

namespace Dataflow.Double

/-- The decimals that read back as the double of a rank: an interval, in quarters
of the least step, with its ends when the rank is even. -/
structure Neighbourhood where
  low : Nat
  value : Nat
  high : Nat
  closed : Bool

/-- The neighbourhood of a rank reaches half way to its two neighbours; below a
power of two the lower neighbour is half as far away. -/
def neighbourhood (rank : Nat) : Neighbourhood :=
  let value := 4 * BinaryFormat.double.steps rank
  let gap := 1 <<< (rank / (1 <<< 52) - 1)
  let below := if rank % (1 <<< 52) = 0 ∧ 1 < rank / (1 <<< 52) then gap else 2 * gap
  { low := value - below, value, high := value + 2 * gap, closed := rank % 2 = 0 }

namespace Neighbourhood

/-- Whether a multiple of a grid cell, measured in `scale`-fold quarters, lies in
the neighbourhood. -/
def holds (n : Neighbourhood) (scale point : Nat) : Bool :=
  if n.closed then n.low * scale ≤ point && point ≤ n.high * scale
  else n.low * scale < point && point < n.high * scale

/-- The multiple of `10 ^ power` to show, if one reads back as the value. -/
def onGrid? (n : Neighbourhood) (power : Int) : Option Nat :=
  let scale := Nat.pow 10 (-power).toNat
  let cell := Nat.pow 10 power.toNat <<< 1076
  let value := n.value * scale
  let below := value / cell
  match n.holds scale (below * cell), n.holds scale ((below + 1) * cell) with
  | true, true => some (roundHalfEven value cell)
  | true, false => some below
  | false, true => some (below + 1)
  | false, false => none

end Neighbourhood

/-- A power of ten above the magnitude of a rank. -/
def powerAbove (rank : Nat) : Int :=
  (((BinaryFormat.double.steps rank).log2 + 1 : Nat) - 1074 : Int) * 30103 / 100000 + 1

/-- The digits and the power of ten of the shortest decimal of a rank that is not
zero. Twenty-one grids below `powerAbove` reach eighteen digits. -/
def shortest (rank : Nat) : Nat × Int :=
  let near := neighbourhood rank
  let attempt (i : Nat) : Option (Nat × Int) :=
    let power := powerAbove rank - i
    (near.onGrid? power).map (·, power)
  ((List.range 21).findSome? attempt).getD (0, 0)

/-- Powers of ten from `10 ^ -5` to `10 ^ 15` are written positionally. -/
def positional (exponent : Int) : Bool := -5 ≤ exponent && exponent ≤ 15

/-- The text of a number of zeros. -/
def zeros (n : Nat) : String := String.ofList (List.replicate n '0')

/-- Decimal text of `digits * 10 ^ power`: positional with a fraction where the
leading digit's power allows it, else with one leading digit and an exponent. -/
def decimalText (digits : Nat) (power : Int) : String :=
  let text := digits.repr
  let exponent := power + (text.length - 1 : Nat)
  if positional exponent then
    if 0 ≤ power then text ++ zeros power.toNat ++ ".0"
    else if 0 ≤ exponent then
      String.ofList (text.toList.take (exponent.toNat + 1)) ++ "."
        ++ String.ofList (text.toList.drop (exponent.toNat + 1))
    else "0." ++ zeros (-exponent - 1).toNat ++ text
  else
    let rest := text.toList.drop 1
    String.ofList (text.toList.take 1) ++ (if rest.isEmpty then "" else "." ++ String.ofList rest)
      ++ (if exponent < 0 then "e-" else "e+") ++ exponent.natAbs.repr

def text (d : Double) : String :=
  (if d.negative then "-" else "") ++
    if d.rank.val = 0 then "0.0"
    else
      let (digits, power) := shortest d.rank
      decimalText digits power

end Dataflow.Double
