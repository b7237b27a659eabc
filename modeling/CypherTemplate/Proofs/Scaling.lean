import CypherTemplate.Number.Reader
import CypherTemplate.Proofs.ReadBack

/-!
Where the scaling reader takes the nearest double. Products and quotients are rounded once, so a numeral
is read as its nearest double as long as neither its digits nor the power of ten has to be rounded
before.
-/
namespace CypherTemplate

-- The powers of the definitions, whatever else is imported.
attribute [local instance (high)] instPowNat

namespace Double

/-- Whole numbers of 53 bits are doubles. -/
theorem exists_units_eq {n : Nat} (h : n < 2 ^ (precision + 1)) :
    ∃ rank, units rank = n * 2 ^ depth := by
  by_cases hn : n = 0
  · subst hn
    exact ⟨0, (Nat.zero_mul _).symm⟩
  · have hlow : 2 ^ n.log2 ≤ n := Nat.log2_self_le hn
    have hhigh : n < 2 ^ (n.log2 + 1) := Nat.lt_log2_self
    have hbits : n.log2 < precision + 1 := (Nat.log2_lt hn).2 h
    obtain ⟨j, hj⟩ : ∃ j, precision = n.log2 + j := Nat.exists_eq_add_of_le (by omega)
    -- The significand is moved up until its first digit is the first of 53.
    have hfirst : 2 ^ precision ≤ n * 2 ^ j := by
      rw [hj, Nat.pow_add]
      exact Nat.mul_le_mul_right _ hlow
    have hlast : n * 2 ^ j < 2 ^ (precision + 1) := by
      rw [hj, Nat.add_right_comm, Nat.pow_add]
      exact Nat.mul_lt_mul_of_pos_right hhigh (Nat.two_pow_pos j)
    have hshift : j + (n.log2 + 1022) = depth := by
      have hdepth : depth = precision + 1022 := rfl
      omega
    rw [two_pow_precision] at hfirst
    rw [two_pow_precision_succ] at hlast
    refine ⟨(n.log2 + 1023) * 2 ^ precision + (n * 2 ^ j - 2 ^ precision), ?_⟩
    rw [two_pow_precision, units, two_pow_precision_succ, two_pow_precision, if_neg (by omega)]
    have hquotient : ((n.log2 + 1023) * 4503599627370496 + (n * 2 ^ j - 4503599627370496)) /
        4503599627370496 - 1 = n.log2 + 1022 := by omega
    have hrest : 4503599627370496 + ((n.log2 + 1023) * 4503599627370496 +
        (n * 2 ^ j - 4503599627370496)) % 4503599627370496 = n * 2 ^ j := by omega
    rw [hquotient, hrest, Nat.mul_assoc, ← Nat.pow_add, hshift]

theorem nearestRank_zero (den : Nat) : nearestRank 0 den = 0 := by
  simp [nearestRank, roundQuotient]

end Double

namespace Decimal

/-- A decimal of few digits and a small exponent is neither too small nor too great. -/
theorem rank_eq_nearestRank {d : Decimal} (hs : d.significand < 2 ^ (Double.precision + 1))
    (he : d.exponent.natAbs ≤ 22) :
    d.rank = Double.nearestRank (d.significand * 10 ^ d.exponent.toNat * 2 ^ Double.depth)
      (10 ^ (-d.exponent).toNat) := by
  by_cases hzero : d.significand = 0
  · rw [rank, if_pos (.inl hzero), hzero, Nat.zero_mul, Nat.zero_mul, Double.nearestRank_zero]
  · have hlength : (Nat.toDigits 10 d.significand).length ≤ 16 := by
      rw [Nat.length_toDigits_le_iff (by decide) (by decide)]
      exact Nat.lt_trans hs (by decide)
    have hsize : ¬d.size < -330 ∧ ¬310 < d.size := by
      rw [size]
      omega
    rw [rank, if_neg (not_or.2 ⟨hzero, hsize.1⟩), if_neg hsize.2]

theorem units_rank_whole {n : Nat} (h : n < 2 ^ (Double.precision + 1)) :
    Double.units (rank ⟨n, 0⟩) = n * 2 ^ Double.depth := by
  obtain ⟨rank, hrank⟩ := Double.exists_units_eq h
  have hnearest : (⟨n, 0⟩ : Decimal).rank = Double.nearestRank (Double.units rank) 1 := by
    rw [@rank_eq_nearestRank ⟨n, 0⟩ h (Nat.zero_le 22), hrank]
    exact congrArg (fun m => Double.nearestRank (m * 2 ^ Double.depth) 1) (Nat.mul_one n)
  rw [hnearest, Double.nearestRank_units, hrank]

end Decimal

namespace DoubleReader

/-- The powers of ten up to this one are doubles. -/
theorem units_power : ∀ e ≤ 22, Double.units (power e) = 10 ^ e * 2 ^ Double.depth := by
  decide +kernel

/-- Exact factors are rounded only in their product or quotient. -/
theorem scaledRank_eq {d : Decimal} (hs : d.significand < 2 ^ (Double.precision + 1))
    (he : d.exponent.natAbs ≤ 22) : scaledRank d = d.rank := by
  have hwhole := Decimal.units_rank_whole hs
  have hpower := units_power d.exponent.natAbs he
  have hpos : 0 < 2 ^ Double.depth := Nat.two_pow_pos _
  have hmax : maxPower = 308 := rfl
  rw [Decimal.rank_eq_nearestRank hs he]
  by_cases hneg : d.exponent < 0
  · have htimes : (d.exponent.natAbs - 1) / maxPower = 0 := Nat.div_eq_of_lt (by omega)
    have hnum : d.exponent.toNat = 0 := by omega
    have hden : (-d.exponent).toNat = d.exponent.natAbs := by omega
    simp only [scaledRank, if_pos hneg, htimes, divide, Nat.mul_zero, Nat.sub_zero, Double.quotient,
      hwhole, hpower, hnum, hden, Nat.pow_zero, Nat.mul_one]
    exact Double.nearestRank_mul_right _ _ hpos
  · have hsmall : d.exponent.natAbs ≤ maxPower := by omega
    have hnum : d.exponent.toNat = d.exponent.natAbs := by omega
    have hden : (-d.exponent).toNat = 0 := by omega
    have hproduct := Double.nearestRank_mul_right
      (d.significand * 10 ^ d.exponent.natAbs * 2 ^ Double.depth) 1 hpos
    rw [Nat.one_mul] at hproduct
    simp only [scaledRank, if_neg hneg, if_pos hsmall, Double.product, hwhole, hpower, hnum, hden,
      Nat.pow_zero]
    rw [← hproduct, ← Nat.mul_assoc, Nat.mul_right_comm d.significand]

theorem le_ofDigitChars (cs : List Char) (n : Nat) : n ≤ Nat.ofDigitChars 10 cs n := by
  induction cs generalizing n with
  | nil => exact Nat.le_refl n
  | cons c cs ih =>
    rw [Nat.ofDigitChars_cons]
    exact Nat.le_trans (by omega) (ih _)

/-- All digits are taken of a number that 64 bits hold. -/
theorem takeDigits_eq {cs : List Char} {n : Nat} (h : Nat.ofDigitChars 10 cs n < UInt64.size) :
    takeDigits n cs = (Nat.ofDigitChars 10 cs n, []) := by
  induction cs generalizing n with
  | nil => rfl
  | cons c cs ih =>
    rw [Nat.ofDigitChars_cons] at h ⊢
    rw [takeDigits, if_pos (Nat.lt_of_le_of_lt (le_ofDigitChars cs _) h), ih h]

theorem held_eq {n : Numeral} (h : n.significand < UInt64.size) : held n = n.toDecimal := by
  rw [Numeral.significand, Nat.ofDigitChars_append] at h
  have hwhole := takeDigits_eq (Nat.lt_of_le_of_lt (le_ofDigitChars n.fraction _) h)
  have hfraction := takeDigits_eq h
  simp only [held, hwhole, hfraction, Numeral.toDecimal, Numeral.significand,
    Nat.ofDigitChars_append, List.length_nil, Int.natCast_zero, Int.add_zero, Int.sub_zero]

/-- Whether neither the digits of a numeral nor its power of ten have to be rounded. -/
structure HasExactFactors (n : Numeral) : Prop where
  significand : n.significand < 2 ^ (Double.precision + 1)
  exponent : n.toDecimal.exponent.natAbs ≤ 22

/-- A numeral of at most 53 bits and a small power of ten is read as its nearest double. -/
theorem rank?_scaling {n : Numeral} (h : HasExactFactors n) :
    scaling.rank? n = nearest.rank? n := by
  have hheld : held n = n.toDecimal := held_eq (Nat.lt_trans h.significand (by decide))
  change Double.finiteRank? (scaledRank (held n)) = Double.finiteRank? n.toDecimal.rank
  rw [hheld, scaledRank_eq h.significand h.exponent]

/-- Longer numerals may be read as a neighbour. -/
example :
    let n : Numeral := ⟨false, "33333333333333333333".toList, [], 0, true⟩
    (scaling.rank? n).map Fin.val = some 4899047216157691990 ∧
      (nearest.rank? n).map Fin.val = some 4899047216157691989 := by
  decide +kernel

end DoubleReader

end CypherTemplate
