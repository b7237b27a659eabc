import CypherTemplate.Number.Double

/-!
The shortest decimal of a double: the fewest digits that read back as it, and of the decimals with
so many digits the nearest. Which of two equally near ones is taken is left to the format.
-/
namespace CypherTemplate

-- Powers of natural numbers are the core ones, whatever else is imported.
attribute [local instance (high)] instPowNat

/-- Where a decimal half way between two others goes. -/
inductive Tie where
  | up
  | even
  deriving DecidableEq, Repr

namespace Double

/-- The decimal places of `scaled`. -/
def places : Nat := 400

/-- The magnitude of a rank in steps of `10 ^ -400`, rounded down. Its leading digits are those of
the magnitude, for all the digits that a search of the shortest decimal can ask for. -/
def scaled (rank : Nat) : Nat :=
  units rank * 10 ^ places / 2 ^ depth

/-- The decimal that has exactly the magnitude of a rank. -/
def exact (rank : Nat) : Decimal :=
  ⟨units rank * 5 ^ depth, -depth⟩

/-- The nearer of two neighbours with `drop` digits of `scaled` left out, the lower one being
`low`. -/
def nearer (tie : Tie) (rank drop low : Nat) : Nat :=
  let value := 2 * units rank * 10 ^ places
  let middle := (2 * low + 1) * 10 ^ drop * 2 ^ depth
  if value < middle then low
  else if middle < value then low + 1
  else match tie with
    | .up => low + 1
    | .even => low + low % 2

/-- The nearest decimal without the last `drop` digits of `scaled` that reads back, of the two
neighbours. -/
def without (tie : Tie) (rank drop : Nat) : Option Decimal :=
  let low := scaled rank / 10 ^ drop
  let near := nearer tie rank drop low
  let decimal (k : Nat) : Decimal := ⟨k, drop - places⟩
  [decimal near, decimal (2 * low + 1 - near)].find? fun d => d.rank == rank

/-- Moves up to `n` trailing zeros of the significand into the exponent. -/
def trim : Nat → Decimal → Decimal
  | 0, d => d
  | n + 1, d => if d.significand % 10 = 0 then trim n ⟨d.significand / 10, d.exponent + 1⟩ else d

/-- One digit is tried first; seventeen are enough for every double. -/
def shortest (tie : Tie) (rank : Nat) : Decimal :=
  if rank = 0 then ⟨0, 0⟩
  else
    let length := (Nat.toDigits 10 (scaled rank)).length
    match (List.range 17).findSome? fun n => without tie rank (length - (n + 1)) with
    | some d => trim 17 d
    | none => exact rank

end Double

end CypherTemplate
