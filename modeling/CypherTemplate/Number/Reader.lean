import CypherTemplate.Number.Numeral

/-!
Readers of doubles. Few numerals name a double, so what a numeral is read as is left to a reader: the
nearest double is not the only choice, and a reader that rounds more than once may take a neighbour of
it.
-/
namespace CypherTemplate

-- Powers of natural numbers are the core ones, whatever else is imported.
attribute [local instance (high)] instPowNat

/-- A reader of doubles. It reads a numeral as a finite magnitude, of which it gives the rank, or
refuses it as too great; the sign is that of the numeral. -/
class DoubleReader where
  rank? (n : Numeral) : Option (Fin Double.count)

namespace Double

/-- The rank, if it is one of a finite number. -/
def finiteRank? (rank : Nat) : Option (Fin count) :=
  if h : rank < count then some ⟨rank, h⟩ else none

/-- The rank nearest to the product of two magnitudes. -/
def product (a b : Nat) : Nat :=
  nearestRank (units a * units b) (2 ^ depth)

/-- The rank nearest to the quotient of two magnitudes. -/
def quotient (a b : Nat) : Nat :=
  nearestRank (units a * 2 ^ depth) (units b)

end Double

namespace DoubleReader

/-- Reads every numeral as the nearest double. -/
abbrev nearest : DoubleReader where
  rank? n := Double.finiteRank? n.toDecimal.rank

/-- Takes digits behind a number as long as 64 bits hold what they make, and leaves the others. -/
def takeDigits : Nat → List Char → Nat × List Char
  | n, [] => (n, [])
  | n, c :: cs =>
    let next := 10 * n + (c.toNat - '0'.toNat)
    if next < UInt64.size then takeDigits next cs else (n, c :: cs)

/-- The decimal of the digits that 64 bits hold. The digits left out in front of the point count in the
exponent, those behind it are lost. -/
def held (n : Numeral) : Decimal :=
  let (whole, excess) := takeDigits 0 n.whole
  let (significand, left) := takeDigits whole n.fraction
  ⟨significand, n.exponent + excess.length - (n.fraction.length - left.length)⟩

/-- The greatest power of ten that is taken at once. -/
def maxPower : Nat := 308

/-- The rank nearest to a power of ten. -/
def power (exponent : Nat) : Nat :=
  Decimal.rank ⟨1, exponent⟩

/-- Divides by the greatest power so many times, or until nothing is left. -/
def divide : Nat → Nat → Nat
  | 0, rank => rank
  | times + 1, rank => if rank = 0 then 0 else divide times (Double.quotient rank (power maxPower))

/-- The rank of a decimal, its significand being rounded first and then multiplied or divided by powers
of ten. -/
def scaledRank (d : Decimal) : Nat :=
  let rank := Decimal.rank ⟨d.significand, 0⟩
  let size := d.exponent.natAbs
  if d.exponent < 0 then
    let times := (size - 1) / maxPower
    Double.quotient (divide times rank) (power (size - maxPower * times))
  else if size ≤ maxPower then Double.product rank (power size)
  else if rank = 0 then 0
  else Double.count

/-- Reads the digits that 64 bits hold and scales what they make, so that it rounds at least twice. -/
instance scaling : DoubleReader where
  rank? n := Double.finiteRank? (scaledRank (held n))

end DoubleReader

end CypherTemplate
