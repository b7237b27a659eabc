import Mathlib.Data.List.TakeWhile
import CypherTemplate.Number.Numeral
import CypherTemplate.Value.Literal

/-!
Numbers read back. The decimal that is written for a double has that double as its nearest one,
whether or not few digits are enough for it, and so has the numeral that stands in the text. No two
numbers have the same literal.
-/
namespace CypherTemplate

-- The powers of the definitions, whatever else is imported.
attribute [local instance (high)] instPowNat

namespace Double

theorem roundQuotient_mul_right (num den : Nat) {c : Nat} (hc : 0 < c) :
    roundQuotient (num * c) (den * c) = roundQuotient num den := by
  have hq : num * c / (den * c) = num / den := Nat.mul_div_mul_right num den hc
  have hr : num * c % (den * c) = num % den * c := Nat.mul_mod_mul_right c num den
  have hlt : 2 * (num % den * c) < den * c ↔ 2 * (num % den) < den := by
    rw [← Nat.mul_assoc]
    exact Nat.mul_lt_mul_right hc
  have hgt : den * c < 2 * (num % den * c) ↔ den < 2 * (num % den) := by
    rw [← Nat.mul_assoc]
    exact Nat.mul_lt_mul_right hc
  simp only [roundQuotient, hq, hr, hlt, hgt]

/-- The nearest double hangs on the quotient alone. -/
theorem nearestRank_mul_right (num den : Nat) {c : Nat} (hc : 0 < c) :
    nearestRank (num * c) (den * c) = nearestRank num den := by
  have hq : num * c / (den * c) = num / den := Nat.mul_div_mul_right num den hc
  have hden : ∀ k, den * c * 2 ^ k = den * 2 ^ k * c := fun k => Nat.mul_right_comm den c (2 ^ k)
  simp only [nearestRank, hq, hden, roundQuotient_mul_right _ _ hc]

theorem roundQuotient_mul_self (n : Nat) {d : Nat} (hd : 0 < d) : roundQuotient (n * d) d = n := by
  have hq : n * d / d = n := Nat.mul_div_cancel n hd
  have hr : n * d % d = 0 := Nat.mul_mod_left n d
  simp only [roundQuotient, hq, hr, Nat.mul_zero, if_pos hd]

theorem two_pow_precision : 2 ^ precision = 4503599627370496 := rfl

theorem two_pow_precision_succ : 2 ^ (precision + 1) = 9007199254740992 := rfl

/-- A double is nearest to itself. -/
theorem nearestRank_units (rank : Nat) : nearestRank (units rank) 1 = rank := by
  by_cases h : rank < 2 ^ (precision + 1)
  · have hu : units rank = rank := if_pos h
    have hround := roundQuotient_mul_self rank (d := 1) Nat.one_pos
    simp only [nearestRank, hu, Nat.div_one, if_pos h, Nat.zero_mul, Nat.pow_zero, Nat.mul_one,
      Nat.zero_add] at hround ⊢
    exact hround
  · generalize hj : rank / 2 ^ precision - 1 = j
    generalize hm : rank % 2 ^ precision = m
    have hu : units rank = (2 ^ precision + m) * 2 ^ j := by
      rw [units, if_neg h, hj, hm]
    have hpow : 2 ^ (precision + j) = 2 ^ precision * 2 ^ j := Nat.pow_add 2 precision j
    have hpow' : 2 ^ (precision + j + 1) = 2 ^ (precision + 1) * 2 ^ j := by
      rw [← Nat.pow_add, Nat.add_right_comm]
    rw [two_pow_precision_succ] at h hpow'
    rw [two_pow_precision] at hj hm hu hpow
    have hrank : rank = j * 4503599627370496 + (4503599627370496 + m) := by omega
    have hlow : 2 ^ (precision + j) ≤ units rank := by
      rw [hu, hpow]
      exact Nat.mul_le_mul_right _ (by omega)
    have hhigh : units rank < 2 ^ (precision + j + 1) := by
      rw [hu, hpow']
      exact Nat.mul_lt_mul_of_pos_right (by omega) (Nat.two_pow_pos j)
    have hlog : (units rank).log2 = precision + j := by
      refine (Nat.log2_eq_iff ?_).2 ⟨hlow, hhigh⟩
      exact Nat.ne_of_gt (Nat.lt_of_lt_of_le (Nat.two_pow_pos _) hlow)
    have hbig : ¬units rank < 2 ^ (precision + 1) := by
      have hle : 2 ^ (precision + 1) ≤ 2 ^ (precision + j) :=
        Nat.pow_le_pow_right (by decide) (by omega)
      exact Nat.not_lt.2 (Nat.le_trans hle hlow)
    have hk : precision + j - precision = j := Nat.add_sub_cancel_left _ _
    simp only [nearestRank, Nat.div_one, if_neg hbig, hlog, hk, Nat.one_mul]
    rw [hu, roundQuotient_mul_self _ (Nat.two_pow_pos j), two_pow_precision, hrank]

end Double

namespace Decimal

theorem length_toDigits_mul_ten {s : Nat} (h : 0 < s) :
    (Nat.toDigits 10 (s * 10)).length = (Nat.toDigits 10 s).length + 1 := by
  have hdiv : s * 10 / 10 = s := Nat.mul_div_cancel s (by decide)
  rw [Nat.toDigits_of_base_le (by decide) (by omega), hdiv, List.length_append]
  rfl

/-- The nearest double hangs on the decimal as a number, not on its trailing zeros. -/
theorem rank_mul_ten (s : Nat) (e : Int) : rank ⟨s * 10, e⟩ = rank ⟨s, e + 1⟩ := by
  by_cases hs : s = 0
  · simp [rank, hs]
  · have hpos : 0 < s := Nat.pos_of_ne_zero hs
    have hs' : s * 10 ≠ 0 := by omega
    have hsize : size ⟨s * 10, e⟩ = size ⟨s, e + 1⟩ := by
      simp only [size, length_toDigits_mul_ten hpos]
      omega
    have hnearest : Double.nearestRank (s * 10 * 10 ^ e.toNat * 2 ^ Double.depth) (10 ^ (-e).toNat) =
        Double.nearestRank (s * 10 ^ (e + 1).toNat * 2 ^ Double.depth) (10 ^ (-(e + 1)).toNat) := by
      by_cases he : 0 ≤ e
      · have hpow : 10 ^ (e + 1).toNat = 10 ^ e.toNat * 10 := by
          rw [← Nat.pow_succ]
          congr 1
          omega
        have hz : (-e).toNat = 0 := by omega
        have hz' : (-(e + 1)).toNat = 0 := by omega
        have hnum : s * 10 * 10 ^ e.toNat = s * (10 ^ e.toNat * 10) := by
          rw [Nat.mul_assoc, Nat.mul_comm 10]
        rw [hpow, hz, hz', hnum]
      · have hden : 10 ^ (-e).toNat = 10 ^ (-(e + 1)).toNat * 10 := by
          rw [← Nat.pow_succ]
          congr 1
          omega
        have hz : e.toNat = 0 := by omega
        have hz' : (e + 1).toNat = 0 := by omega
        have hnum : s * 10 * 10 ^ 0 * 2 ^ Double.depth = s * 10 ^ 0 * 2 ^ Double.depth * 10 := by
          rw [Nat.pow_zero, Nat.mul_one, Nat.mul_one, Nat.mul_right_comm]
        rw [hden, hz, hz', hnum, Double.nearestRank_mul_right _ _ (by decide)]
    simp only [rank, hs, hs', hsize, hnearest, false_or]

theorem rank_mul_pow (s : Nat) (e : Int) (k : Nat) : rank ⟨s * 10 ^ k, e⟩ = rank ⟨s, e + k⟩ := by
  induction k generalizing s e with
  | zero => simp
  | succ k ih =>
    have he : e + 1 + (k : Int) = e + ((k + 1 : Nat) : Int) := by omega
    rw [Nat.pow_succ, ← Nat.mul_assoc, rank_mul_ten, ih, he]

theorem rank_trim (n : Nat) (d : Decimal) : (Double.trim n d).rank = d.rank := by
  induction n generalizing d with
  | zero => rfl
  | succ n ih =>
    rw [Double.trim]
    split
    · rename_i h
      have hs : d.significand = d.significand / 10 * 10 := by omega
      have hd : d = ⟨d.significand / 10 * 10, d.exponent⟩ := by rw [← hs]
      rw [ih, ← rank_mul_ten, ← hd]
    · rfl

end Decimal

namespace Double

theorem units_pos {rank : Nat} (h : 0 < rank) : 0 < units rank := by
  unfold units
  split
  · exact h
  · exact Nat.mul_pos (by omega) (Nat.two_pow_pos _)

theorem units_lt {rank k : Nat} (h : rank < (k + 1) * 2 ^ precision) :
    units rank < 2 ^ (precision + 1) * 2 ^ k := by
  unfold units
  split
  · rename_i hr
    exact Nat.lt_of_lt_of_le hr (Nat.le_mul_of_pos_right _ (Nat.two_pow_pos k))
  · have hm : 2 ^ precision + rank % 2 ^ precision < 2 ^ (precision + 1) := by
      rw [two_pow_precision, two_pow_precision_succ]
      omega
    have hj : rank / 2 ^ precision - 1 ≤ k := by
      rw [two_pow_precision] at h ⊢
      omega
    calc (2 ^ precision + rank % 2 ^ precision) * 2 ^ (rank / 2 ^ precision - 1)
        < 2 ^ (precision + 1) * 2 ^ (rank / 2 ^ precision - 1) :=
          Nat.mul_lt_mul_of_pos_right hm (Nat.two_pow_pos _)
      _ ≤ 2 ^ (precision + 1) * 2 ^ k :=
          Nat.mul_le_mul_left _ (Nat.pow_le_pow_right (by decide) hj)

/-- All digits of a double together read back as it. -/
theorem rank_exact {rank : Nat} (hpos : 0 < rank) (h : rank < count) : (exact rank).rank = rank := by
  have hu := units_pos hpos
  have hs : 0 < units rank * 5 ^ depth := Nat.mul_pos hu (Nat.pow_pos (by decide))
  have hlow : ¬(Nat.toDigits 10 (units rank * 5 ^ depth)).length ≤ 744 := by
    rw [Nat.length_toDigits_le_iff (by decide) (by decide)]
    exact Nat.not_lt.2 (Nat.le_trans (by decide +kernel) (Nat.le_mul_of_pos_left (5 ^ depth) hu))
  have hhigh : (Nat.toDigits 10 (units rank * 5 ^ depth)).length ≤ 1384 := by
    rw [Nat.length_toDigits_le_iff (by decide) (by decide)]
    have hu' := units_lt (k := 2046) h
    exact Nat.lt_of_lt_of_le (Nat.mul_lt_mul_of_pos_right hu' (Nat.pow_pos (by decide)))
      (by decide +kernel)
  have hsize : ¬(exact rank).size < -330 ∧ ¬310 < (exact rank).size := by
    have hdepth : (depth : Int) = 1074 := rfl
    simp only [Decimal.size, exact]
    omega
  have hpow : 5 ^ depth * 2 ^ depth = 10 ^ depth := by decide +kernel
  have hnum : units rank * 5 ^ depth * 10 ^ (-(depth : Int)).toNat * 2 ^ depth =
      units rank * 10 ^ depth := by
    rw [Int.toNat_of_nonpos (by decide), Nat.pow_zero, Nat.mul_one, Nat.mul_assoc, hpow]
  have hden : 10 ^ (-(-(depth : Int))).toNat = 1 * 10 ^ depth := by
    rw [Int.neg_neg, Int.toNat_natCast, Nat.one_mul]
  have hne : ¬(exact rank).significand = 0 := Nat.ne_of_gt hs
  rw [Decimal.rank, if_neg (not_or.2 ⟨hne, hsize.1⟩), if_neg hsize.2]
  simp only [exact]
  rw [hnum, hden, nearestRank_mul_right _ _ (Nat.pow_pos (by decide)), nearestRank_units]

/-- A decimal is only taken when it reads back. -/
theorem rank_of_without {tie : Tie} {rank drop : Nat} {d : Decimal}
    (h : without tie rank drop = some d) : d.rank = rank := by
  simp only [without] at h
  have hread := List.find?_some h
  exact eq_of_beq hread

/-- The decimal that is written for a double is nearest to it. -/
theorem rank_shortest (tie : Tie) {rank : Nat} (h : rank < count) :
    (shortest tie rank).rank = rank := by
  unfold shortest
  by_cases hz : rank = 0
  · rw [if_pos hz, hz]
    rfl
  · rw [if_neg hz]
    simp only
    split
    · rename_i d hd
      obtain ⟨n, _, hn⟩ := List.exists_of_findSome?_eq_some hd
      rw [Decimal.rank_trim]
      exact rank_of_without hn
    · exact rank_exact (Nat.pos_of_ne_zero hz) h

end Double

/-- Digits on both sides of a point are read as they stand. -/
theorem Numeral.ofChars?_point (negative : Bool) {whole fraction : List Char}
    (hw : ∀ c ∈ whole, c.isDigit) (hf : ∀ c ∈ fraction, c.isDigit) (hne : whole ≠ []) :
    Numeral.ofChars? negative (whole ++ '.' :: fraction) =
      some ⟨negative, whole, fraction, 0, false⟩ := by
  have hpoint : ('.' : Char).isDigit = false := by decide
  have htake : (whole ++ '.' :: fraction).takeWhile Char.isDigit = whole := by
    simp [List.takeWhile_append_of_pos hw, hpoint]
  have hdrop : (whole ++ '.' :: fraction).dropWhile Char.isDigit = '.' :: fraction := by
    simp [List.dropWhile_append_of_pos hw, hpoint]
  have htake' : fraction.takeWhile Char.isDigit = fraction := List.takeWhile_eq_self_iff.2 hf
  have hdrop' : fraction.dropWhile Char.isDigit = [] := List.dropWhile_eq_nil_iff.2 hf
  simp [Numeral.ofChars?, htake, hdrop, htake', hdrop', hne, exponent?]

namespace Layout

/-- A number in positional form has a point between digits, and with its digits it stays what it
was. -/
theorem exists_positional {digits : List Char} (hd : ∀ c ∈ digits, c.isDigit) (hne : digits ≠ [])
    (exponent : Int) :
    ∃ whole fraction, positional digits exponent = whole ++ '.' :: fraction ∧ whole ≠ [] ∧
      fraction ≠ [] ∧ (∀ c ∈ whole, c.isDigit) ∧ (∀ c ∈ fraction, c.isDigit) ∧
      (⟨Nat.ofDigitChars 10 (whole ++ fraction) 0, -fraction.length⟩ : Decimal).rank =
        (⟨Nat.ofDigitChars 10 digits 0, exponent⟩ : Decimal).rank := by
  have hzero : ('0' : Char).isDigit := by decide
  have hzeros : ∀ n, ∀ c ∈ List.replicate n '0', c.isDigit := by
    intro n c hc
    rw [(List.mem_replicate.1 hc).2]
    exact hzero
  by_cases hplaces : (-exponent).toNat = 0
  · refine ⟨digits ++ List.replicate exponent.toNat '0', ['0'], ?_, ?_, ?_, ?_, ?_, ?_⟩
    · simp [positional, hplaces]
    · simp [hne]
    · simp
    · exact List.forall_mem_append.2 ⟨hd, hzeros _⟩
    · exact List.forall_mem_singleton.2 hzero
    · have hdigits : Nat.ofDigitChars 10 (digits ++ List.replicate exponent.toNat '0' ++ ['0']) 0 =
          Nat.ofDigitChars 10 digits 0 * 10 ^ (exponent.toNat + 1) := by
        have hone : ['0'] = List.replicate 1 '0' := rfl
        rw [hone, List.append_assoc, List.replicate_append_replicate, Nat.ofDigitChars_append,
          Nat.ofDigitChars_replicate_zero, Nat.mul_comm]
      have he : -(['0'].length : Int) + ((exponent.toNat + 1 : Nat) : Int) = exponent := by
        simp only [List.length_singleton]
        omega
      rw [hdigits, Decimal.rank_mul_pow, he]
  · by_cases hlength : (-exponent).toNat < digits.length
    · have hlen : (digits.drop (digits.length - (-exponent).toNat)).length = (-exponent).toNat := by
        rw [List.length_drop]
        omega
      refine ⟨digits.take (digits.length - (-exponent).toNat),
        digits.drop (digits.length - (-exponent).toNat), ?_, ?_, ?_, ?_, ?_, ?_⟩
      · simp [positional, hplaces, hlength]
      · intro h
        have htake := congrArg List.length h
        rw [List.length_take, List.length_nil] at htake
        omega
      · intro h
        rw [h, List.length_nil] at hlen
        omega
      · exact fun c hc => hd c (List.mem_of_mem_take hc)
      · exact fun c hc => hd c (List.mem_of_mem_drop hc)
      · have he : -((-exponent).toNat : Int) = exponent := by omega
        rw [List.take_append_drop, hlen, he]
    · have hlen : (List.replicate ((-exponent).toNat - digits.length) '0' ++ digits).length =
          (-exponent).toNat := by
        rw [List.length_append, List.length_replicate]
        omega
      refine ⟨['0'], List.replicate ((-exponent).toNat - digits.length) '0' ++ digits,
        ?_, ?_, ?_, ?_, ?_, ?_⟩
      · simp [positional, hplaces, hlength]
      · simp
      · simp [hne]
      · exact List.forall_mem_singleton.2 hzero
      · exact List.forall_mem_append.2 ⟨hzeros _, hd⟩
      · have he : -((-exponent).toNat : Int) = exponent := by omega
        have hone : ['0'] = List.replicate 1 '0' := rfl
        rw [hlen, he, hone, Nat.ofDigitChars_append, Nat.ofDigitChars_append,
          Nat.ofDigitChars_replicate_zero, Nat.ofDigitChars_replicate_zero, Nat.mul_zero]

end Layout

/-- Digits do not begin with a sign. -/
theorem sign_injective {m n : Bool} {as bs : List Char} (ha : ∀ c ∈ as.head?, c.isDigit)
    (hb : ∀ c ∈ bs.head?, c.isDigit)
    (h : (if m then ['-'] else []) ++ as = (if n then ['-'] else []) ++ bs) : m = n ∧ as = bs := by
  have hminus : ('-' : Char).isDigit = false := by decide
  cases m with
  | true =>
    cases n with
    | true => exact ⟨rfl, List.append_cancel_left h⟩
    | false =>
      have hbs : bs = '-' :: as := h.symm
      simp [hbs, hminus] at hb
  | false =>
    cases n with
    | true =>
      have has : as = '-' :: bs := h
      simp [has, hminus] at ha
    | false => exact ⟨rfl, h⟩

namespace Value

/-- The literal of a finite double is a numeral behind its sign, and the double is nearest to it. -/
theorem exists_doubleLiteral (negative : Bool) (rank : Fin Double.count) :
    ∃ whole fraction, doubleLiteral (.finite negative rank) =
        (if negative then ['-'] else []) ++ (whole ++ '.' :: fraction) ∧ whole ≠ [] ∧
      (∀ c ∈ whole, c.isDigit) ∧ (∀ c ∈ fraction, c.isDigit) ∧
      (⟨Nat.ofDigitChars 10 (whole ++ fraction) 0, -fraction.length⟩ : Decimal).rank = rank := by
  have hrank : (Double.shortest .up rank).rank = rank := Double.rank_shortest .up rank.2
  have hdigits : ∀ c ∈ Nat.toDigits 10 (Double.shortest .up rank).significand, c.isDigit :=
    fun c hc => Nat.isDigit_of_mem_toDigits (by decide) (by decide) hc
  obtain ⟨whole, fraction, htext, hne, _, hw, hf, hread⟩ :=
    Layout.exists_positional hdigits Nat.toDigits_ne_nil (Double.shortest .up rank).exponent
  rw [Nat.ofDigitChars_ten_toDigits] at hread
  refine ⟨whole, fraction, ?_, hne, hw, hf, hread.trans hrank⟩
  rw [← htext]
  rfl

theorem slash_notMem_doubleLiteral (negative : Bool) (rank : Fin Double.count) :
    '/' ∉ doubleLiteral (.finite negative rank) := by
  obtain ⟨whole, fraction, htext, _, hw, hf, _⟩ := exists_doubleLiteral negative rank
  have hslash : ('/' : Char).isDigit = false := by decide
  have hwhole : '/' ∉ whole := fun h => by simp [hw _ h] at hslash
  have hfraction : '/' ∉ fraction := fun h => by simp [hf _ h] at hslash
  rw [htext]
  cases negative <;> simp [hwhole, hfraction]

theorem slash_mem_doubleLiteral {d : Double} (h : d.isFinite = false) : '/' ∈ doubleLiteral d := by
  cases d with
  | nan => decide
  | infinite negative => cases negative <;> decide
  | finite negative rank => cases h

theorem isDigit_of_mem_head? {ws fs : List Char} (hne : ws ≠ []) (hw : ∀ c ∈ ws, c.isDigit) :
    ∀ c ∈ (ws ++ '.' :: fs).head?, c.isDigit := by
  intro c hc
  cases ws with
  | nil => exact absurd rfl hne
  | cons d ds =>
    obtain rfl : d = c := by simpa using hc
    exact hw d List.mem_cons_self

theorem finite_injective {m n : Bool} {r s : Fin Double.count}
    (h : doubleLiteral (.finite m r) = doubleLiteral (.finite n s)) : m = n ∧ r = s := by
  obtain ⟨w, f, ht, hne, hw, hf, hr⟩ := exists_doubleLiteral m r
  obtain ⟨w', f', ht', hne', hw', hf', hr'⟩ := exists_doubleLiteral n s
  rw [ht, ht'] at h
  obtain ⟨rfl, hbody⟩ := sign_injective (isDigit_of_mem_head? hne hw) (isDigit_of_mem_head? hne' hw') h
  have hread := Numeral.ofChars?_point m hw hf hne
  rw [hbody, Numeral.ofChars?_point m hw' hf' hne'] at hread
  cases hread
  exact ⟨rfl, Fin.ext (hr.symm.trans hr')⟩

/-- No two doubles have the same literal. -/
theorem doubleLiteral_injective {a b : Double} (h : doubleLiteral a = doubleLiteral b) : a = b := by
  cases a with
  | nan =>
    cases b with
    | nan => rfl
    | infinite n => cases n <;> exact absurd h (by decide)
    | finite n s => exact absurd (h ▸ slash_mem_doubleLiteral rfl) (slash_notMem_doubleLiteral n s)
  | infinite m =>
    cases b with
    | nan => cases m <;> exact absurd h (by decide)
    | infinite n => cases m <;> cases n <;> first | rfl | exact absurd h (by decide)
    | finite n s => exact absurd (h ▸ slash_mem_doubleLiteral rfl) (slash_notMem_doubleLiteral n s)
  | finite m r =>
    cases b with
    | finite n s =>
      obtain ⟨rfl, rfl⟩ := finite_injective h
      rfl
    | _ => exact absurd (h ▸ slash_mem_doubleLiteral rfl) (slash_notMem_doubleLiteral m r)

theorem point_mem_doubleLiteral (d : Double) : '.' ∈ doubleLiteral d := by
  cases d with
  | nan => decide
  | infinite negative => cases negative <;> decide
  | finite negative rank =>
    obtain ⟨whole, fraction, htext, _⟩ := exists_doubleLiteral negative rank
    rw [htext]
    simp

end Value

namespace Json

theorem toDigits_injective {m n : Nat} (h : Nat.toDigits 10 m = Nat.toDigits 10 n) : m = n := by
  have hvalue := congrArg (Nat.ofDigitChars 10 · 0) h
  simpa only [Nat.ofDigitChars_ten_toDigits] using hvalue

theorem isDigit_of_mem_toDigits {n : Nat} : ∀ c ∈ Nat.toDigits 10 n, c.isDigit := fun _ hc =>
  Nat.isDigit_of_mem_toDigits (by decide) (by decide) hc

/-- A whole number is written with its digits behind its sign. -/
theorem wholeText_eq (i : Int) :
    wholeText i = (if decide (i < 0) then ['-'] else []) ++ Nat.toDigits 10 i.natAbs := by
  cases i with
  | ofNat n =>
    have hn : decide (Int.ofNat n < 0) = false := decide_eq_false (Int.not_lt.2 (Int.natCast_nonneg n))
    rw [hn]
    rfl
  | negSucc n =>
    have hn : decide (Int.negSucc n < 0) = true := decide_eq_true (Int.negSucc_lt_zero n)
    rw [hn]
    rfl

theorem wholeText_injective {i j : Int} (h : wholeText i = wholeText j) : i = j := by
  have hhead : ∀ n : Nat, ∀ c ∈ (Nat.toDigits 10 n).head?, c.isDigit := fun n c hc =>
    isDigit_of_mem_toDigits c (List.mem_of_mem_head? hc)
  rw [wholeText_eq, wholeText_eq] at h
  obtain ⟨hsign, hdigits⟩ := sign_injective (hhead _) (hhead _) h
  have habs := toDigits_injective hdigits
  rw [decide_eq_decide] at hsign
  omega

theorem point_notMem_wholeText (i : Int) : '.' ∉ wholeText i := by
  have hpoint : ('.' : Char).isDigit = false := by decide
  have hdigits : '.' ∉ Nat.toDigits 10 i.natAbs := fun h => by
    simp [isDigit_of_mem_toDigits _ h] at hpoint
  rw [wholeText_eq]
  cases decide (i < 0) <;> simp [hdigits]

end Json

end CypherTemplate
