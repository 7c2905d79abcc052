/-!
# The numbers of the binary64 format

A double is read off its sixty-four bits: a sign, eleven bits of exponent and fifty-two
bits of fraction.  A finite double is, up to its sign, a whole number times a power of
two, and this is the form from which its decimal texts are computed.
-/
namespace SearchGateway.Decimal

/-- A finite double without its sign: `mantissa * 2 ^ exponent`. -/
structure Magnitude where
  /-- The whole number in front, below `2 ^ 53`. -/
  mantissa : Nat
  /-- The power of two. -/
  exponent : Int
  /-- The neighbour below is half as far away as the neighbour above: this happens where
  the exponent changes. -/
  closeBelow : Bool
deriving DecidableEq, Repr

/-- What the bits of a double stand for. -/
inductive Binary64 where
  | nan
  | infinite (negative : Bool)
  | finite (negative : Bool) (magnitude : Magnitude)
deriving DecidableEq, Repr

namespace Binary64

/-- Reads the sixty-four bits of a double. -/
def ofBits (bits : Nat) : Binary64 :=
  let fraction : Nat := bits % Nat.pow 2 52
  let biased : Nat := bits / Nat.pow 2 52 % Nat.pow 2 11
  let negative := bits / Nat.pow 2 63 % 2 == 1
  if biased = 2047 then
    if fraction = 0 then .infinite negative else .nan
  else if biased = 0 then
    .finite negative ⟨fraction, -1074, false⟩
  else
    .finite negative ⟨Nat.pow 2 52 + fraction, (biased : Int) - 1075, fraction == 0 && biased != 1⟩

/-- What a double stands for. -/
def ofFloat (x : Float) : Binary64 := ofBits x.toBits.toNat

end Binary64
end SearchGateway.Decimal
