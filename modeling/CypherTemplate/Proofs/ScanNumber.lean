import CypherTemplate.Json.Scalar
import CypherTemplate.Proofs.ReadBack

/-!
Written numbers in JSON text. The scan of a number ends in front of what stands behind values, with a
numeral of the number: that of a whole number has neither point nor exponent, and that of a finite
double always has one of them.
-/
namespace CypherTemplate

-- The powers of the definitions, whatever else is imported.
attribute [local instance (high)] instPowNat

/-- Positive numbers are written without a zero in front. -/
theorem toDigits_ne_zero_cons {n : Nat} (hn : 0 < n) (ds : List Char) :
    Nat.toDigits 10 n ≠ '0' :: ds := by
  induction n using Nat.strongRecOn generalizing ds with
  | ind n ih =>
    by_cases hlt : n < 10
    · rw [Nat.toDigits_of_lt_base hlt]
      have hdigit : ∀ m < 10, 0 < m → Nat.digitChar m ≠ '0' := by decide
      intro h
      exact hdigit n hlt hn (List.cons.inj h).1
    · have hbase : 10 ≤ n := by omega
      rw [Nat.toDigits_of_base_le (by decide) hbase]
      intro h
      cases hq : Nat.toDigits 10 (n / 10) with
      | nil => exact Nat.toDigits_ne_nil hq
      | cons c cs =>
        rw [hq, List.cons_append] at h
        obtain ⟨rfl, _⟩ := List.cons.inj h
        exact ih (n / 10) (by omega) (by omega) cs hq

/-- The digits of a number in front of its point: no zero leads unless it is alone. -/
structure WholeDigits (cs : List Char) : Prop where
  ne_nil : cs ≠ []
  digits : ∀ c ∈ cs, c.isDigit
  leading : ∀ ds, cs = '0' :: ds → ds = []

theorem wholeDigits_toDigits (n : Nat) : WholeDigits (Nat.toDigits 10 n) := by
  refine ⟨Nat.toDigits_ne_nil, Json.isDigit_of_mem_toDigits, fun ds h => ?_⟩
  by_cases hn : n = 0
  · subst hn
    cases h
    rfl
  · exact absurd h (toDigits_ne_zero_cons (Nat.pos_of_ne_zero hn) ds)

namespace Outline

/-- What may stand behind a value: the end of the text, or a comma or bracket. -/
def Follows (cs : List Char) : Prop := ∀ c ∈ cs.head?, c = ',' ∨ c = ']' ∨ c = '\x7d'

theorem follows_nil : Follows [] := nofun

theorem follows_cons {c : Char} {cs : List Char} (h : c = ',' ∨ c = ']' ∨ c = '\x7d') :
    Follows (c :: cs) := by
  intro d hd
  cases hd
  exact h

theorem Follows.not_isDigit {cs : List Char} (h : Follows cs) :
    ∀ c ∈ cs.head?, c.isDigit = false := by
  intro c hc
  rcases h c hc with rfl | rfl | rfl <;> decide

/-- Digits are taken as far as they go. -/
theorem takeWhile_digits {ds rest : List Char} (hd : ∀ c ∈ ds, c.isDigit)
    (hr : ∀ c ∈ rest.head?, c.isDigit = false) :
    (ds ++ rest).takeWhile Char.isDigit = ds ∧ (ds ++ rest).dropWhile Char.isDigit = rest := by
  rw [List.takeWhile_append_of_pos hd, List.dropWhile_append_of_pos hd]
  cases rest with
  | nil => simp
  | cons c cs =>
    have hc := hr c rfl
    simp [hc]

variable {negative : Bool} {whole fraction rest : List Char}

theorem scanExponent_absent (isWhole : Bool) (h : Follows rest) :
    scanExponent negative whole fraction isWhole rest =
      (.number ⟨negative, whole, fraction, 0, isWhole⟩, rest) := by
  cases rest with
  | nil => rfl
  | cons c cs =>
    have hmark : ¬((c = 'e' || c = 'E') = true) := by
      rcases h c rfl with rfl | rfl | rfl <;> decide
    rw [scanExponent, if_neg hmark]

/-- The mark and sign of an exponent. -/
def exponentText (e : Int) : List Char :=
  'e' :: (if e < 0 then '-' else '+') :: Nat.toDigits 10 e.natAbs

theorem scanExponent_exponentText (e : Int) (isWhole : Bool) (h : Follows rest) :
    scanExponent negative whole fraction isWhole (exponentText e ++ rest) =
      (.number ⟨negative, whole, fraction, e, false⟩, rest) := by
  obtain ⟨htake, hdrop⟩ :=
    takeWhile_digits (Json.isDigit_of_mem_toDigits (n := e.natAbs)) h.not_isDigit
  have hsign : splitSign ((if e < 0 then '-' else '+') :: (Nat.toDigits 10 e.natAbs ++ rest)) =
      (decide (e < 0), Nat.toDigits 10 e.natAbs ++ rest) := by
    by_cases he : e < 0 <;> simp [he, splitSign]
  have hvalue : (if decide (e < 0) then -(e.natAbs : Int) else (e.natAbs : Int)) = e := by
    by_cases he : e < 0
    · simp only [he, decide_true, if_true]
      omega
    · simp only [he, decide_false, Bool.false_eq_true, if_false]
      omega
  simp only [exponentText, List.cons_append, scanExponent, decide_true, Bool.true_or, if_true, hsign,
    htake, hdrop, if_neg (Nat.toDigits_ne_nil (n := e.natAbs) (b := 10)),
    Nat.ofDigitChars_ten_toDigits, hvalue]

theorem scanFraction_point {tail : List Char} (hne : fraction ≠ [])
    (hf : ∀ c ∈ fraction, c.isDigit) (ht : ∀ c ∈ tail.head?, c.isDigit = false) :
    scanFraction negative whole ('.' :: (fraction ++ tail)) =
      scanExponent negative whole fraction false tail := by
  obtain ⟨htake, hdrop⟩ := takeWhile_digits hf ht
  simp only [scanFraction, htake, hdrop, if_neg hne]

theorem scanFraction_absent {tail : List Char} (ht : ∀ c ∈ tail.head?, c ≠ '.') :
    scanFraction negative whole tail = scanExponent negative whole [] true tail := by
  unfold scanFraction
  split
  · exact absurd rfl (ht '.' rfl)
  · rfl

theorem scanNumber_digits {tail : List Char} (hw : WholeDigits whole)
    (ht : ∀ c ∈ tail.head?, c.isDigit = false) :
    scanNumber negative (whole ++ tail) = scanFraction negative whole tail := by
  obtain ⟨htake, hdrop⟩ := takeWhile_digits hw.digits ht
  unfold scanNumber
  simp only [htake, hdrop]
  split
  · exact absurd rfl hw.ne_nil
  · exact absurd (hw.leading _ rfl) (List.cons_ne_nil _ _)
  · rfl

/-- A whole number is scanned with all its digits. -/
theorem scanNumber_toDigits (n : Nat) (h : Follows rest) :
    scanNumber negative (Nat.toDigits 10 n ++ rest) =
      (.number ⟨negative, Nat.toDigits 10 n, [], 0, true⟩, rest) := by
  have hpoint : ∀ c ∈ rest.head?, c ≠ '.' := by
    intro c hc
    rcases h c hc with rfl | rfl | rfl <;> decide
  rw [scanNumber_digits (wholeDigits_toDigits n) h.not_isDigit, scanFraction_absent hpoint,
    scanExponent_absent true h]

end Outline

namespace Layout

variable {digits whole fraction : List Char} {exponent : Int}

/-- Behind a leading zero stands the point. -/
theorem eq_point_of_positional (hd : WholeDigits digits) (hz : digits = ['0'] → exponent ≤ 0)
    {c : Char} {cs : List Char} (h : positional digits exponent = '0' :: c :: cs) : c = '.' := by
  cases digits with
  | nil => exact absurd rfl hd.ne_nil
  | cons d ds =>
    by_cases hplaces : (-exponent).toNat = 0
    · simp only [positional, hplaces, if_true, List.cons_append, List.append_assoc] at h
      obtain ⟨rfl, htail⟩ := List.cons.inj h
      obtain rfl := hd.leading ds rfl
      have hexp : exponent.toNat = 0 := Int.toNat_of_nonpos (hz rfl)
      rw [hexp] at htail
      exact (List.cons.inj htail).1.symm
    · by_cases hlength : (-exponent).toNat < (d :: ds).length
      · have hkeep : ∃ k, (d :: ds).length - (-exponent).toNat = k + 1 :=
          Nat.exists_eq_add_one.2 (by omega)
        obtain ⟨k, hk⟩ := hkeep
        simp only [positional, if_neg hplaces, if_pos hlength, hk, List.take_succ_cons,
          List.cons_append] at h
        obtain ⟨rfl, _⟩ := List.cons.inj h
        obtain rfl := hd.leading ds rfl
        simp only [List.length_singleton] at hlength
        omega
      · simp only [positional, if_neg hplaces, if_neg hlength, List.cons_append] at h
        exact (List.cons.inj (List.cons.inj h).2).1.symm

theorem wholeDigits_of_positional (hd : WholeDigits digits) (hz : digits = ['0'] → exponent ≤ 0)
    (hne : whole ≠ []) (hw : ∀ c ∈ whole, c.isDigit)
    (h : positional digits exponent = whole ++ '.' :: fraction) : WholeDigits whole := by
  refine ⟨hne, hw, fun ds hds => ?_⟩
  cases ds with
  | nil => rfl
  | cons c cs =>
    subst hds
    obtain rfl := eq_point_of_positional hd hz h
    exact absurd (hw '.' (by simp)) (by decide)

/-- One digit in front of the point, none when nothing follows it, and the exponent. -/
theorem scientific_eq (c : Char) (cs : List Char) (first : Int) :
    scientific (c :: cs) first =
      c :: (if cs = [] then [] else '.' :: cs) ++ Outline.exponentText first := by
  cases cs <;> rfl

end Layout

namespace Json

open Outline

/-- A written decimal is scanned as a numeral with a point or an exponent, and of its size. -/
theorem exists_scanNumber_decimal (negative : Bool) {d : Decimal}
    (hz : d.significand = 0 → d.exponent ≤ 0) :
    ∃ n : Numeral, (∀ rest, Follows rest →
        scanNumber negative (layout.decimal d ++ rest) = (.number n, rest)) ∧
      n.isWhole = false ∧ n.negative = negative ∧ n.toDecimal.rank = d.rank := by
  have hdigits := wholeDigits_toDigits d.significand
  have hvalue : Nat.ofDigitChars 10 (Nat.toDigits 10 d.significand) 0 = d.significand :=
    Nat.ofDigitChars_ten_toDigits
  by_cases hpos : layout.isPositional (d.size - 1)
  · obtain ⟨whole, fraction, htext, hne, hne', hw, hf, hrank⟩ :=
      Layout.exists_positional hdigits.digits hdigits.ne_nil d.exponent
    have hzero : Nat.toDigits 10 d.significand = ['0'] → d.exponent ≤ 0 := by
      intro hone
      rw [hone] at hvalue
      exact hz hvalue.symm
    have hwhole := Layout.wholeDigits_of_positional hdigits hzero hne hw htext
    refine ⟨⟨negative, whole, fraction, 0, false⟩, fun rest h => ?_, rfl, rfl, ?_⟩
    · have hpoint : ∀ c ∈ ('.' :: (fraction ++ rest)).head?, c.isDigit = false := by
        intro c hc
        cases hc
        decide
      rw [Layout.decimal, if_pos hpos, htext, List.append_assoc, List.cons_append,
        scanNumber_digits hwhole hpoint, scanFraction_point hne' hf h.not_isDigit,
        scanExponent_absent false h]
    · rw [hvalue] at hrank
      simpa only [Numeral.toDecimal, Numeral.significand, Int.zero_sub] using hrank
  · cases hds : Nat.toDigits 10 d.significand with
    | nil => exact absurd hds hdigits.ne_nil
    | cons c cs =>
      rw [hds] at hdigits hvalue
      have hsize : d.size - 1 - (cs.length : Int) = d.exponent := by
        rw [Decimal.size, hds, List.length_cons]
        omega
      have hc : WholeDigits [c] := by
        refine ⟨List.cons_ne_nil c [], ?_, fun ds hds => (List.cons.inj hds).2.symm⟩
        exact List.forall_mem_singleton.2 (hdigits.digits c List.mem_cons_self)
      refine ⟨⟨negative, [c], cs, d.size - 1, false⟩, fun rest h => ?_, rfl, rfl, ?_⟩
      · have hmark : ∀ c' ∈ (exponentText (d.size - 1) ++ rest).head?, c' = 'e' := by
          intro c' hc'
          cases hc'
          rfl
        rw [Layout.decimal, if_neg hpos, hds, Layout.scientific_eq, List.cons_append,
          List.cons_append, List.append_assoc, ← List.singleton_append]
        by_cases hcs : cs = []
        · rw [if_pos hcs, List.nil_append,
            scanNumber_digits hc (fun c' hc' => by rw [hmark c' hc']; rfl),
            scanFraction_absent (fun c' hc' => by rw [hmark c' hc']; decide),
            scanExponent_exponentText _ _ h, hcs]
        · have hpoint : ∀ c' ∈ ('.' :: (cs ++ (exponentText (d.size - 1) ++ rest))).head?,
              c'.isDigit = false := by
            intro c' hc'
            cases hc'
            decide
          rw [if_neg hcs]
          change scanNumber negative ([c] ++ '.' :: (cs ++ (exponentText (d.size - 1) ++ rest))) = _
          rw [scanNumber_digits hc hpoint, scanFraction_point hcs
              (fun c' hc' => hdigits.digits c' (List.mem_cons_of_mem c hc'))
              (fun c' hc' => by rw [hmark c' hc']; rfl), scanExponent_exponentText _ _ h]
      · simp only [Numeral.toDecimal, Numeral.significand, List.singleton_append, hvalue, hsize]

/-- The text of a finite double is scanned as a numeral that this double is nearest to. -/
theorem exists_scanNumber_double (negative : Bool) (rank : Fin Double.count) :
    ∃ n : Numeral, (∀ rest, Follows rest →
        scanNumber negative (layout.decimal (Double.shortest layout.tie rank) ++ rest) =
          (.number n, rest)) ∧
      n.isWhole = false ∧ n.negative = negative ∧ n.toDecimal.rank = rank := by
  have hrank : (Double.shortest layout.tie rank).rank = rank := Double.rank_shortest _ rank.2
  have hzero : (Double.shortest layout.tie rank).significand = 0 →
      (Double.shortest layout.tie rank).exponent ≤ 0 := by
    intro hs
    have hr : (rank : Nat) = 0 := by
      rw [← hrank, Decimal.rank, if_pos (.inl hs)]
    rw [hr]
    decide
  obtain ⟨n, hscan, hwhole, hneg, hn⟩ := exists_scanNumber_decimal negative hzero
  exact ⟨n, hscan, hwhole, hneg, hn.trans hrank⟩

end Json

/-- The numeral of a whole number. -/
def Numeral.ofInt (i : Int) : Numeral :=
  ⟨decide (i < 0), Nat.toDigits 10 i.natAbs, [], 0, true⟩

/-- Whole numbers of 64 bits, with or without sign, are read as whole numbers. -/
theorem Numeral.read_ofInt [DoubleReader] {i : Int} (hlow : -(UInt64.size : Int) ≤ 2 * i)
    (hhigh : i < (UInt64.size : Int)) : (Numeral.ofInt i).read = .ok (.whole i) := by
  have hsig : (Numeral.ofInt i).significand = i.natAbs := by
    simp only [significand, ofInt, List.append_nil, Nat.ofDigitChars_ten_toDigits]
  have hwhole : (Numeral.ofInt i).isWhole = true := rfl
  have hneg : (Numeral.ofInt i).negative = decide (i < 0) := rfl
  by_cases hi : i < 0
  · have hne : i.natAbs ≠ 0 := by omega
    have hfits : 2 * i.natAbs ≤ UInt64.size := by omega
    have hvalue : -(i.natAbs : Int) = i := by omega
    simp only [read, hwhole, hneg, hsig, hi, hfits, hvalue, decide_true, Bool.not_true, Bool.and_false,
      Bool.false_and, Bool.and_true, bne_iff_ne.2 hne, Bool.false_eq_true, if_false,
      if_true]
  · have hfits : i.natAbs < UInt64.size := by omega
    have hvalue : (i.natAbs : Int) = i := by omega
    simp only [read, hwhole, hneg, hsig, hi, hfits, hvalue, decide_false, decide_true, Bool.not_false,
      Bool.and_self, if_true]

end CypherTemplate
