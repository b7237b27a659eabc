import Mathlib.Data.List.Chain
import Mathlib.Logic.Function.Iterate
import CypherTemplate.Unicode.Normalization

/-!
What the tables of canonical equivalence come to together. A character is decomposed in full: what
it is decomposed to stands for itself. A composite is decomposed like the two characters that
compose to it, and a mark to marks of its own class.
-/
namespace CypherTemplate.Unicode

/-- Numbers as the bits of a single one, so that whole tables are compared in one step. -/
def bits (ns : List Nat) : Nat :=
  ns.foldr (fun n m => 1 <<< n ||| m) 0

theorem testBit_bits {n : Nat} {ns : List Nat} (h : n ∈ ns) : (bits ns).testBit n := by
  induction ns with
  | nil => cases h
  | cons m ms ih =>
    rw [bits, List.foldr_cons, Nat.testBit_or, Bool.or_eq_true]
    rcases List.mem_cons.1 h with rfl | h
    · exact .inl (by simp [Nat.testBit_shiftLeft])
    · exact .inr (ih h)

theorem notMem_of_bits {ms ns : List Nat} (h : bits ms &&& bits ns = 0) {n : Nat} (hm : n ∈ ms) :
    n ∉ ns := by
  intro hn
  have hbit : (bits ms &&& bits ns).testBit n := by
    rw [Nat.testBit_and, testBit_bits hm, testBit_bits hn]
    rfl
  rw [h, Nat.zero_testBit] at hbit
  cases hbit

theorem toNat_ofNat {n : Nat} (h : n.isValidChar) : (Char.ofNat n).toNat = n := by
  rw [Char.ofNat, dif_pos h]
  rfl

/-- The code points that have a row in one of the tables. -/
def decomposable : List Nat :=
  composites.map (·.1) ++ singletons.map (·.1) ++ exclusions.map (·.1)

/-- The first characters of composites, some of which are composites again. -/
def firsts : List Nat := composites.map (·.2.1)

/-- The other characters that rows hold. -/
def finals : List Nat :=
  composites.map (·.2.2) ++ singletons.map (·.2) ++ exclusions.flatMap (·.2)

/-- The block of the characters that syllables are made of. -/
def jamo : List Nat := List.range' 0x1100 0x100

/-- The composites whose first characters are among some others. -/
def composedOf (ns : List Nat) : List Nat :=
  (composites.filter fun r => (bits ns).testBit r.2.1).map (·.1)

theorem mem_composedOf {r : Nat × Nat × Nat} (hr : r ∈ composites) {ns : List Nat}
    (h : r.2.1 ∈ ns) : r.1 ∈ composedOf ns :=
  List.mem_map_of_mem (List.mem_filter.2 ⟨hr, testBit_bits h⟩)

section Tables

theorem isChain_composites : (composites.map (·.1)).IsChain (· < ·) := by decide +kernel

/-- Three composites in a row are the most. -/
theorem composedOf_decomposable : composedOf^[3] decomposable = [] := by decide +kernel

theorem bits_finals : bits finals &&& bits decomposable = 0 := by decide +kernel

theorem bits_jamo : bits jamo &&& bits decomposable = 0 := by decide +kernel

/-- Whether a number is that of a character in front of the syllables or behind them. -/
def isBesideSyllables (n : Nat) : Bool := n < 0xAC00 || (0xE000 ≤ n && n < 0x110000)

theorem all_isBesideSyllables : (decomposable ++ firsts ++ finals).all isBesideSyllables := by
  decide +kernel

theorem all_le_decomposable : decomposable.all (0xC0 ≤ ·) := by decide +kernel

end Tables

namespace Hangul

theorem indexIn_eq_some {base size i : Nat} {c : Char} (h : indexIn base size c = some i) :
    i < size ∧ c = Char.ofNat (base + i) := by
  rw [indexIn, Option.ite_none_right_eq_some, Bool.and_eq_true, decide_eq_true_iff,
    decide_eq_true_iff, Option.some.injEq] at h
  obtain ⟨⟨hbase, hsize⟩, rfl⟩ := h
  exact ⟨by omega, by rw [Nat.add_sub_cancel' hbase, Char.ofNat_toNat]⟩

theorem indexIn_ofNat {base size i : Nat} (hi : i < size) (hvalid : base + i < 0xD800) :
    indexIn base size (Char.ofNat (base + i)) = some i := by
  have hnat : (Char.ofNat (base + i)).toNat = base + i := toNat_ofNat (.inl hvalid)
  simp [indexIn, hnat, hi]

theorem decompose_eq_none {c : Char} (h : isBesideSyllables c.toNat) : decompose c = none := by
  simp only [isBesideSyllables, Bool.or_eq_true, Bool.and_eq_true, decide_eq_true_iff] at h
  have hout : ¬(syllableBase ≤ c.toNat ∧ c.toNat < syllableBase + leads * vowels * tails) := by
    simp only [syllableBase, leads, vowels, tails]
    omega
  rw [decompose, indexIn, if_neg (by simpa using hout), Option.map_none]

/-- A syllable is decomposed by its number, and has no tail if the number of that is 0. -/
theorem decompose_ofNat {l v t : Nat} (hl : l < leads) (hv : v < vowels) (ht : t < tails) :
    decompose (Char.ofNat (syllableBase + ((l * vowels + v) * tails + t))) =
      some (Char.ofNat (leadBase + l) :: Char.ofNat (vowelBase + v) ::
        if t = 0 then [] else [Char.ofNat (tailBase + t)]) := by
  simp only [leads, vowels, tails] at hl hv ht ⊢
  have hindex : indexIn syllableBase (19 * 21 * 28)
      (Char.ofNat (syllableBase + ((l * 21 + v) * 28 + t))) = some ((l * 21 + v) * 28 + t) :=
    indexIn_ofNat (by omega) (by rw [syllableBase]; omega)
  have hlead : ((l * 21 + v) * 28 + t) / (21 * 28) = l := by omega
  have hvowel : ((l * 21 + v) * 28 + t) % (21 * 28) / 28 = v := by omega
  have htail : ((l * 21 + v) * 28 + t) % 28 = t := by omega
  simp only [decompose, leads, vowels, tails, hindex, Option.map_some, hlead, hvowel, htail]
  split <;> rfl

theorem tails_pos : 0 < tails := by decide

/-- Each syllable has a number of that form. -/
theorem exists_syllable {s : Nat} (hs : s < leads * vowels * tails) :
    ∃ l v t, l < leads ∧ v < vowels ∧ t < tails ∧ s = (l * vowels + v) * tails + t := by
  simp only [leads, vowels, tails] at hs ⊢
  exact ⟨s / 588, s % 588 / 28, s % 28, by omega, by omega, by omega, by omega⟩

theorem compose_cases {a b c : Char} (h : compose a b = some c) :
    (∃ l v, l < leads ∧ v < vowels ∧ a = Char.ofNat (leadBase + l) ∧
      b = Char.ofNat (vowelBase + v) ∧ c = Char.ofNat (syllableBase + (l * vowels + v) * tails)) ∨
    ∃ l v t, l < leads ∧ v < vowels ∧ t < tails ∧ t ≠ 0 ∧
      a = Char.ofNat (syllableBase + (l * vowels + v) * tails) ∧ b = Char.ofNat (tailBase + t) ∧
      c = Char.ofNat (syllableBase + ((l * vowels + v) * tails + t)) := by
  rw [compose] at h
  split at h
  · rename_i l v hl hv
    obtain ⟨hlead, rfl⟩ := indexIn_eq_some hl
    obtain ⟨hvowel, rfl⟩ := indexIn_eq_some hv
    cases h
    exact .inl ⟨l, v, hlead, hvowel, rfl, rfl, rfl⟩
  · split at h
    · rename_i s t hs ht
      obtain ⟨hsyllable, rfl⟩ := indexIn_eq_some hs
      obtain ⟨htail, rfl⟩ := indexIn_eq_some ht
      rw [Option.ite_none_right_eq_some, Option.some.injEq] at h
      obtain ⟨hopen, rfl⟩ := h
      obtain ⟨l, v, u, hlead, hvowel, hu, rfl⟩ := exists_syllable hsyllable
      obtain rfl : u = 0 := by
        rw [Nat.mul_add_mod_self_right, Nat.mod_eq_of_lt hu] at hopen
        exact hopen
      have ht' : t + 1 < tails := Nat.add_lt_of_lt_sub htail
      refine .inr ⟨l, v, t + 1, hlead, hvowel, ht', t.succ_ne_zero, rfl, ?_, ?_⟩
      · exact congrArg Char.ofNat (by omega)
      · exact congrArg Char.ofNat (by omega)
    · cases h

end Hangul

/-- Whether a character stands for itself. -/
def Settled (c : Char) : Prop := c.toNat ∉ decomposable ∧ Hangul.decompose c = none

theorem isBesideSyllables_of_mem {n : Nat} (h : n ∈ decomposable ++ firsts ++ finals) :
    isBesideSyllables n :=
  List.all_eq_true.1 all_isBesideSyllables n h

theorem mem_rows_of_decomposable {n : Nat} (h : n ∈ decomposable) :
    n ∈ decomposable ++ firsts ++ finals :=
  List.mem_append_left _ (List.mem_append_left _ h)

theorem mem_rows_of_first {n : Nat} (h : n ∈ firsts) : n ∈ decomposable ++ firsts ++ finals :=
  List.mem_append_left _ (List.mem_append_right _ h)

theorem toNat_ofNat_of_mem {n : Nat} (h : n ∈ decomposable ++ firsts ++ finals) :
    (Char.ofNat n).toNat = n := by
  have hbeside := isBesideSyllables_of_mem h
  simp only [isBesideSyllables, Bool.or_eq_true, Bool.and_eq_true, decide_eq_true_iff] at hbeside
  refine toNat_ofNat ?_
  rcases hbeside with hlow | ⟨hlow, hhigh⟩
  · exact .inl (by omega)
  · exact .inr ⟨by omega, hhigh⟩

theorem decompose_ofNat_of_mem {n : Nat} (h : n ∈ decomposable ++ firsts ++ finals) :
    Hangul.decompose (Char.ofNat n) = none :=
  Hangul.decompose_eq_none (by rw [toNat_ofNat_of_mem h]; exact isBesideSyllables_of_mem h)

theorem settled_final {n : Nat} (h : n ∈ finals) : Settled (Char.ofNat n) := by
  have hmem : n ∈ decomposable ++ firsts ++ finals := List.mem_append_right _ h
  refine ⟨?_, decompose_ofNat_of_mem hmem⟩
  rw [toNat_ofNat_of_mem hmem]
  exact notMem_of_bits bits_finals h

theorem toNat_ofNat_jamo {n : Nat} (h : n ∈ jamo) : (Char.ofNat n).toNat = n := by
  have hrange := List.mem_range'_1.1 h
  exact toNat_ofNat (.inl (by omega))

theorem settled_jamo {n : Nat} (h : n ∈ jamo) : Settled (Char.ofNat n) := by
  have hrange := List.mem_range'_1.1 h
  refine ⟨?_, Hangul.decompose_eq_none ?_⟩
  · rw [toNat_ofNat_jamo h]
    exact notMem_of_bits bits_jamo h
  · rw [toNat_ofNat_jamo h, isBesideSyllables, Bool.or_eq_true, decide_eq_true_iff]
    exact .inl (by omega)

theorem lead_mem_jamo {l : Nat} (h : l < Hangul.leads) : Hangul.leadBase + l ∈ jamo := by
  have hl : l < 19 := h
  exact List.mem_range'_1.2 (by rw [Hangul.leadBase]; omega)

theorem vowel_mem_jamo {v : Nat} (h : v < Hangul.vowels) : Hangul.vowelBase + v ∈ jamo := by
  have hv : v < 21 := h
  exact List.mem_range'_1.2 (by rw [Hangul.vowelBase]; omega)

theorem tail_mem_jamo {t : Nat} (h : t < Hangul.tails) : Hangul.tailBase + t ∈ jamo := by
  have ht : t < 28 := h
  exact List.mem_range'_1.2 (by rw [Hangul.tailBase]; omega)

section Composite

variable {r : Nat × Nat × Nat} (hr : r ∈ composites)

include hr

theorem mem_decomposable_of_composite : r.1 ∈ decomposable :=
  List.mem_append_left _ (List.mem_append_left _ (List.mem_map_of_mem hr))

theorem mem_firsts_of_composite : r.2.1 ∈ firsts := List.mem_map_of_mem hr

theorem mem_finals_of_composite : r.2.2 ∈ finals :=
  List.mem_append_left _ (List.mem_append_left _ (List.mem_map_of_mem hr))

/-- Each composite has one row. -/
theorem find?_composite : composites.find? (·.1 == r.1) = some r := by
  have hpairwise := List.pairwise_map.1 (List.isChain_iff_pairwise.1 isChain_composites)
  obtain ⟨xs, ys, hrows⟩ := List.append_of_mem hr
  rw [hrows] at hpairwise
  refine List.find?_eq_some_iff_append.2 ⟨beq_self_eq_true _, xs, ys, hrows, fun x hx => ?_⟩
  have hlt := (List.pairwise_append.1 hpairwise).2.2 x hx r List.mem_cons_self
  simpa using Nat.ne_of_lt hlt

theorem decomposeWithin_composite (k : Nat) :
    decomposeWithin (k + 1) (Char.ofNat r.1) =
      decomposeWithin k (Char.ofNat r.2.1) ++ [Char.ofNat r.2.2] := by
  rw [decomposeWithin, toNat_ofNat_of_mem
    (mem_rows_of_decomposable (mem_decomposable_of_composite hr)), find?_composite hr]

theorem notMem_of_composite {k : Nat} (h : r.1 ∉ composedOf^[k + 1] decomposable) :
    r.2.1 ∉ composedOf^[k] decomposable := by
  rw [Function.iterate_succ_apply'] at h
  exact fun hfirst => h (mem_composedOf hr hfirst)

end Composite

/-- What the tables say of a character, and how it is decomposed by them. -/
inductive Listed (c : Char) : Prop where
  | composite {r : Nat × Nat × Nat} (hr : r ∈ composites) (hkey : r.1 = c.toNat)
    (hsteps : ∀ k, decomposeWithin (k + 1) c =
      decomposeWithin k (Char.ofNat r.2.1) ++ [Char.ofNat r.2.2])
  | final (ns : List Nat) (hc : c.toNat ∈ decomposable) (hns : ∀ n ∈ ns, n ∈ finals)
    (hsteps : ∀ k, decomposeWithin (k + 1) c = ns.map Char.ofNat)
  | absent (hc : c.toNat ∉ decomposable) (hsteps : ∀ k, decomposeWithin (k + 1) c = [c])

theorem listed (c : Char) : Listed c := by
  cases hcomposite : composites.find? (·.1 == c.toNat) with
  | some r =>
    have hkey : r.1 = c.toNat := by simpa using List.find?_some hcomposite
    refine .composite (List.mem_of_find?_eq_some hcomposite) hkey fun k => ?_
    rw [decomposeWithin, hcomposite]
  | none =>
    cases hsingleton : singletons.find? (·.1 == c.toNat) with
    | some r =>
      have hkey : r.1 = c.toNat := by simpa using List.find?_some hsingleton
      have hr := List.mem_of_find?_eq_some hsingleton
      refine .final [r.2] (hkey ▸ ?_) (List.forall_mem_singleton.2 ?_) fun k => ?_
      · exact List.mem_append_left _ (List.mem_append_right _ (List.mem_map_of_mem hr))
      · exact List.mem_append_left _ (List.mem_append_right _ (List.mem_map_of_mem hr))
      · simp [decomposeWithin, hcomposite, hsingleton]
    | none =>
      cases hexclusion : exclusions.find? (·.1 == c.toNat) with
      | some r =>
        have hkey : r.1 = c.toNat := by simpa using List.find?_some hexclusion
        have hr := List.mem_of_find?_eq_some hexclusion
        refine .final r.2 (hkey ▸ ?_) (fun n hn => ?_) fun k => ?_
        · exact List.mem_append_right _ (List.mem_map_of_mem hr)
        · exact List.mem_append_right _ (List.mem_flatMap.2 ⟨r, hr, hn⟩)
        · simp [decomposeWithin, hcomposite, hsingleton, hexclusion]
      | none =>
        refine .absent ?_ fun k => ?_
        · simp only [List.find?_eq_none, beq_iff_eq] at hcomposite hsingleton hexclusion
          simp only [decomposable, List.mem_append, List.mem_map, not_or, not_exists, not_and]
          exact ⟨⟨hcomposite, hsingleton⟩, hexclusion⟩
        · simp [decomposeWithin, hcomposite, hsingleton, hexclusion]

theorem decomposeWithin_of_notMem {c : Char} (h : c.toNat ∉ decomposable) (k : Nat) :
    decomposeWithin k c = [c] := by
  cases k with
  | zero => rfl
  | succ k =>
    cases listed c with
    | composite hr hkey _ => exact absurd (hkey ▸ mem_decomposable_of_composite hr) h
    | final _ hc _ _ => exact absurd hc h
    | absent _ hsteps => exact hsteps k

/-- Where a character heads no chain of so many composites, one more step changes nothing. -/
theorem decomposeWithin_succ {k : Nat} {c : Char} (h : c.toNat ∉ composedOf^[k] decomposable) :
    decomposeWithin (k + 1) c = decomposeWithin k c := by
  induction k generalizing c with
  | zero => rw [decomposeWithin_of_notMem h, decomposeWithin_of_notMem h]
  | succ k ih =>
    cases listed c with
    | @composite r hr hkey hsteps =>
      have hfirst := notMem_of_composite hr (hkey ▸ h)
      rw [← toNat_ofNat_of_mem (mem_rows_of_first (mem_firsts_of_composite hr))] at hfirst
      rw [hsteps, hsteps, ih hfirst]
    | final _ _ _ hsteps => rw [hsteps, hsteps]
    | absent _ hsteps => rw [hsteps, hsteps]

theorem settled_of_mem_decomposeWithin {k : Nat} {c d : Char}
    (h : c.toNat ∉ composedOf^[k] decomposable) (hc : Hangul.decompose c = none)
    (hd : d ∈ decomposeWithin (k + 1) c) : Settled d := by
  induction k generalizing c with
  | zero =>
    rw [decomposeWithin_of_notMem h, List.mem_singleton] at hd
    exact hd ▸ ⟨h, hc⟩
  | succ k ih =>
    cases listed c with
    | @composite r hr hkey hsteps =>
      have hmem := mem_rows_of_first (mem_firsts_of_composite hr)
      have hfirst := notMem_of_composite hr (hkey ▸ h)
      rw [← toNat_ofNat_of_mem hmem] at hfirst
      rw [hsteps] at hd
      rcases List.mem_append.1 hd with hd | hd
      · exact ih hfirst (decompose_ofNat_of_mem hmem) hd
      · exact List.mem_singleton.1 hd ▸ settled_final (mem_finals_of_composite hr)
    | final _ _ hns hsteps =>
      rw [hsteps] at hd
      obtain ⟨n, hn, rfl⟩ := List.mem_map.1 hd
      exact settled_final (hns n hn)
    | absent habsent hsteps =>
      rw [hsteps, List.mem_singleton] at hd
      exact hd ▸ ⟨habsent, hc⟩

/-- No chain of composites is too long for the steps that are taken. -/
theorem notMem_composedOf (n : Nat) : n ∉ composedOf^[3] decomposable := by
  rw [composedOf_decomposable]
  exact List.not_mem_nil

theorem decompose_eq {c : Char} (h : Hangul.decompose c = none) :
    decompose c = decomposeWithin 4 c := by
  unfold decompose
  rw [h]
  split
  · rename_i hlow
    have hc : c.toNat ∉ decomposable := fun hmem =>
      Nat.not_lt.2 (of_decide_eq_true (List.all_eq_true.1 all_le_decomposable _ hmem)) hlow
    exact (decomposeWithin_of_notMem hc 4).symm
  · rfl

theorem decompose_of_settled {c : Char} (h : Settled c) : decompose c = [c] := by
  rw [decompose_eq h.2, decomposeWithin_of_notMem h.1]

theorem decompose_of_syllable {c : Char} {cs : List Char} (h : Hangul.decompose c = some cs) :
    decompose c = cs := by
  have hc : ¬c.toNat < 0xC0 := fun hlow => by
    have hbeside : isBesideSyllables c.toNat := by simp [isBesideSyllables]; omega
    rw [Hangul.decompose_eq_none hbeside] at h
    cases h
  rw [decompose, if_neg hc, h, Option.getD_some]

theorem exists_jamo_of_syllable {c d : Char} {cs : List Char} (h : Hangul.decompose c = some cs)
    (hd : d ∈ cs) : ∃ n ∈ jamo, d = Char.ofNat n := by
  obtain ⟨s, hs, _⟩ := Option.map_eq_some_iff.1 h
  obtain ⟨hsyllable, rfl⟩ := Hangul.indexIn_eq_some hs
  obtain ⟨l, v, t, hl, hv, ht, rfl⟩ := Hangul.exists_syllable hsyllable
  rw [Hangul.decompose_ofNat hl hv ht, Option.some.injEq] at h
  subst h
  rcases List.mem_cons.1 hd with rfl | hd
  · exact ⟨_, lead_mem_jamo hl, rfl⟩
  rcases List.mem_cons.1 hd with rfl | hd
  · exact ⟨_, vowel_mem_jamo hv, rfl⟩
  split at hd
  · cases hd
  · exact ⟨_, tail_mem_jamo ht, List.mem_singleton.1 hd⟩

/-- What a character is decomposed to stands for itself. -/
theorem settled_of_mem_decompose {c d : Char} (h : d ∈ decompose c) : Settled d := by
  cases hc : Hangul.decompose c with
  | none =>
    rw [decompose_eq hc] at h
    exact settled_of_mem_decomposeWithin (notMem_composedOf _) hc h
  | some cs =>
    rw [decompose_of_syllable hc] at h
    obtain ⟨n, hn, rfl⟩ := exists_jamo_of_syllable hc h
    exact settled_jamo hn

theorem mem_rows_of_mem_decomposeWithin {k : Nat} {c d : Char} (h : d ∈ decomposeWithin k c) :
    d = c ∨ d.toNat ∈ firsts ++ finals := by
  induction k generalizing c with
  | zero => exact .inl (List.mem_singleton.1 h)
  | succ k ih =>
    have hrow : ∀ {n : Nat}, n ∈ firsts ++ finals → (Char.ofNat n).toNat ∈ firsts ++ finals :=
      fun {n} hn => by
        have hmem : n ∈ decomposable ++ (firsts ++ finals) := List.mem_append_right _ hn
        rw [← List.append_assoc] at hmem
        rwa [toNat_ofNat_of_mem hmem]
    cases listed c with
    | @composite r hr _ hsteps =>
      rw [hsteps] at h
      rcases List.mem_append.1 h with h | h
      · rcases ih h with rfl | h
        · exact .inr (hrow (List.mem_append_left _ (mem_firsts_of_composite hr)))
        · exact .inr h
      · rw [List.mem_singleton.1 h]
        exact .inr (hrow (List.mem_append_right _ (mem_finals_of_composite hr)))
    | final _ _ hns hsteps =>
      rw [hsteps] at h
      obtain ⟨n, hn, rfl⟩ := List.mem_map.1 h
      exact .inr (hrow (List.mem_append_right _ (hns n hn)))
    | absent _ hsteps =>
      rw [hsteps] at h
      exact .inl (List.mem_singleton.1 h)

/-- A character is decomposed to itself, or to characters of the tables and of syllables. -/
theorem mem_rows_of_mem_decompose {c d : Char} (h : d ∈ decompose c) :
    d = c ∨ d.toNat ∈ firsts ++ finals ++ jamo := by
  cases hc : Hangul.decompose c with
  | none =>
    rw [decompose_eq hc] at h
    exact (mem_rows_of_mem_decomposeWithin h).imp_right (List.mem_append_left _)
  | some cs =>
    rw [decompose_of_syllable hc] at h
    obtain ⟨n, hn, rfl⟩ := exists_jamo_of_syllable hc h
    rw [toNat_ofNat_jamo hn]
    exact .inr (List.mem_append_right _ hn)

theorem decompose_of_composite {r : Nat × Nat × Nat} (hr : r ∈ composites) :
    decompose (Char.ofNat r.1) =
      decompose (Char.ofNat r.2.1) ++ decompose (Char.ofNat r.2.2) := by
  have hkey := mem_rows_of_decomposable (mem_decomposable_of_composite hr)
  have hfirst := mem_rows_of_first (mem_firsts_of_composite hr)
  rw [decompose_eq (decompose_ofNat_of_mem hkey), decompose_eq (decompose_ofNat_of_mem hfirst),
    decompose_of_settled (settled_final (mem_finals_of_composite hr)),
    decomposeWithin_composite hr, decomposeWithin_succ (notMem_composedOf _)]

theorem decompose_hangul {a b c : Char} (h : Hangul.compose a b = some c) :
    decompose c = decompose a ++ decompose b := by
  have hopen : ∀ {l v : Nat}, l < Hangul.leads → v < Hangul.vowels →
      decompose (Char.ofNat (Hangul.syllableBase + (l * Hangul.vowels + v) * Hangul.tails)) =
        [Char.ofNat (Hangul.leadBase + l), Char.ofNat (Hangul.vowelBase + v)] := by
    intro l v hl hv
    have hzero := decompose_of_syllable (Hangul.decompose_ofNat hl hv Hangul.tails_pos)
    rwa [Nat.add_zero, if_pos rfl] at hzero
  rcases Hangul.compose_cases h with ⟨l, v, hl, hv, rfl, rfl, rfl⟩ |
    ⟨l, v, t, hl, hv, ht, hclosed, rfl, rfl, rfl⟩
  · have hlead := decompose_of_settled (settled_jamo (lead_mem_jamo hl))
    have hvowel := decompose_of_settled (settled_jamo (vowel_mem_jamo hv))
    rw [hlead, hvowel]
    exact hopen hl hv
  · have htail := decompose_of_settled (settled_jamo (tail_mem_jamo ht))
    have hsyllable := decompose_of_syllable (Hangul.decompose_ofNat hl hv ht)
    rw [if_neg hclosed] at hsyllable
    rw [hsyllable, hopen hl hv, htail]
    rfl

/-- A composite is decomposed like the two characters that compose to it. -/
theorem decompose_composite {a b c : Char} (h : composite a b = some c) :
    decompose c = decompose a ++ decompose b := by
  unfold composite at h
  split at h
  · cases h
  · split at h
    · rename_i hcompose
      cases h
      exact decompose_hangul hcompose
    · obtain ⟨r, hr, rfl⟩ := Option.map_eq_some_iff.1 h
      have hkeys := List.find?_some hr
      simp only [Bool.and_eq_true, beq_iff_eq] at hkeys
      rw [decompose_of_composite (List.mem_of_find?_eq_some hr), hkeys.1, hkeys.2,
        Char.ofNat_toNat, Char.ofNat_toNat]

/-- The characters of another class than 0. -/
def marks : List Nat := combiningClasses.flatMap fun r => List.range' r.1 (r.2.1 + 1 - r.1)

theorem mem_marks {c : Char} (h : 0 < combiningClass c) : c.toNat ∈ marks := by
  unfold combiningClass at h
  split at h
  · cases h
  · split at h
    · rename_i lo hi k hrow
      have hrange := List.find?_some hrow
      simp only [Bool.and_eq_true, decide_eq_true_eq] at hrange
      refine List.mem_flatMap.2 ⟨_, List.mem_of_find?_eq_some hrow, List.mem_range'_1.2 ?_⟩
      dsimp only
      omega
    · cases h

theorem all_isBesideSyllables_marks : marks.all isBesideSyllables := by decide +kernel

/-- Marks that are decomposed at all are decomposed to marks of their class. -/
theorem all_sameClass : (decomposable.filter fun n => (bits marks).testBit n).all (fun n =>
    (decompose (Char.ofNat n)).all fun d => combiningClass d = combiningClass (Char.ofNat n)) := by
  decide +kernel

theorem combiningClass_of_mem_decompose {c d : Char} (hc : 0 < combiningClass c)
    (hd : d ∈ decompose c) : combiningClass d = combiningClass c := by
  have hmark := mem_marks hc
  by_cases hmem : c.toNat ∈ decomposable
  · have hall := List.all_eq_true.1 all_sameClass c.toNat
      (List.mem_filter.2 ⟨hmem, testBit_bits hmark⟩)
    rw [Char.ofNat_toNat] at hall
    exact of_decide_eq_true (List.all_eq_true.1 hall d hd)
  · have hsettled : Settled c := ⟨hmem, Hangul.decompose_eq_none
      (List.all_eq_true.1 all_isBesideSyllables_marks _ hmark)⟩
    rw [decompose_of_settled hsettled, List.mem_singleton] at hd
    rw [hd]

end CypherTemplate.Unicode
