/-!
Double-precision numbers. A finite magnitude is known by its rank among all of them in increasing
order, which is also its bit pattern: rank 0 is zero, rank 1 the least positive number, and the
ranks from `2047 * 2 ^ 52` on lie beyond the greatest. Every magnitude is a whole number of units,
a unit being `2 ^ -1074`, so nearest numbers are found in exact natural arithmetic.
-/
namespace CypherTemplate

-- Powers of natural numbers are the core ones, whatever else is imported.
attribute [local instance (high)] instPowNat

/-- The binary digits of a magnitude behind its first one. -/
def Double.precision : Nat := 52

/-- The binary places of a unit. -/
def Double.depth : Nat := 1074

/-- How many finite magnitudes there are. -/
def Double.count : Nat := 2047 * 2 ^ precision

inductive Double where
  | nan
  | infinite (negative : Bool)
  | finite (negative : Bool) (rank : Fin Double.count)
  deriving DecidableEq, Repr

/-- A decimal number: a whole significand times a power of ten. -/
structure Decimal where
  significand : Nat
  exponent : Int
  deriving DecidableEq, Repr

namespace Double

/-- The magnitude of a rank, counted in units. -/
def units (rank : Nat) : Nat :=
  if rank < 2 ^ (precision + 1) then rank
  else (2 ^ precision + rank % 2 ^ precision) * 2 ^ (rank / 2 ^ precision - 1)

/-- The whole number nearest to a quotient, a half going to the even neighbour. -/
def roundQuotient (num den : Nat) : Nat :=
  let q := num / den
  let r := num % den
  if 2 * r < den then q else if den < 2 * r then q + 1 else q + q % 2

/-- The rank nearest to `num / den` units. From `2 ^ 53` units on the numbers lie `2 ^ k` units
apart, where `k` is the count of binary digits beyond 53. -/
def nearestRank (num den : Nat) : Nat :=
  let q := num / den
  let k := if q < 2 ^ (precision + 1) then 0 else q.log2 - precision
  k * 2 ^ precision + roundQuotient num (den * 2 ^ k)

/-- Numbers of rank beyond the greatest finite one are infinite. -/
def ofRank (negative : Bool) (rank : Nat) : Double :=
  if h : rank < count then .finite negative ⟨rank, h⟩ else .infinite negative

/-- Whether the number is neither infinite nor not a number. -/
def isFinite : Double → Bool
  | .finite _ _ => true
  | _ => false

end Double

namespace Decimal

/-- The exponent of the first digit and one more: a positive decimal lies below ten to its size, and
not below a tenth of that. -/
def size (d : Decimal) : Int :=
  (Nat.toDigits 10 d.significand).length + d.exponent

/-- The rank of the nearest double. Decimals of a size below -330 are less than half a unit, and
those of a size above 310 are beyond the greatest double. -/
def rank (d : Decimal) : Nat :=
  if d.significand = 0 ∨ d.size < -330 then 0
  else if 310 < d.size then Double.count
  else Double.nearestRank (d.significand * 10 ^ d.exponent.toNat * 2 ^ Double.depth)
    (10 ^ (-d.exponent).toNat)

/-- The nearest double of a sign. -/
def toDouble (negative : Bool) (d : Decimal) : Double :=
  .ofRank negative d.rank

end Decimal

end CypherTemplate
