import Mathlib.Tactic.TFAE
import CypherTemplate.Proofs.Equivalence
import CypherTemplate.Proofs.Token

/-!
The names that tokens carry. They have no invisible character, but they are composed before these
are taken out, so a letter and a mark that one of them stood between remain side by side. What is
carried is in composed form just when composing and taking out commute on the text, and so just when
a second pass keeps it; a second pass gives the composed form of the visible text, and no later one
changes that.
-/
namespace CypherTemplate.Name

open Unicode

/-- Whether a text is in composed form. -/
def IsNormal (cs : List Char) : Prop := nfc cs = cs

/-- The visible part of a text. -/
def strip (cs : List Char) : List Char := cs.filter (!isInvisible ·)

/-- The invisible part of a text. -/
def dross (cs : List Char) : List Char := cs.filter isInvisible

/-- The code points of the invisible characters, block by block. -/
def invisibles : List Nat :=
  List.range 0x20 ++ List.range' 0x7F 0x21 ++ [0x00AD, 0x061C, 0x180E] ++ List.range' 0x200B 3 ++
    List.range' 0x202A 5 ++ List.range' 0x2066 4 ++ [0xFEFF]

theorem mem_invisibles {c : Char} (h : isInvisible c) : c.toNat ∈ invisibles := by
  simp only [isInvisible, List.contains_eq_mem, List.mem_cons, List.not_mem_nil, or_false,
    Bool.decide_or, Bool.or_eq_true, Bool.and_eq_true, decide_eq_true_eq] at h
  simp only [invisibles, List.mem_append, List.mem_range, List.mem_range'_1, List.mem_cons,
    List.not_mem_nil, or_false]
  omega

section Tables

theorem bits_invisibles_decomposable : bits invisibles &&& bits decomposable = 0 := by
  decide +kernel

theorem bits_invisibles_rows : bits invisibles &&& bits (firsts ++ finals ++ jamo) = 0 := by
  decide +kernel

theorem bits_invisibles_marks : bits invisibles &&& bits marks = 0 := by decide +kernel

theorem all_isBesideSyllables_invisibles : invisibles.all isBesideSyllables := by decide +kernel

end Tables

/-- Invisible characters are not decomposed, and no others are decomposed to them. -/
theorem settled_of_isInvisible {c : Char} (h : isInvisible c) : Settled c := by
  have hmem := mem_invisibles h
  have hbeside := List.all_eq_true.1 all_isBesideSyllables_invisibles _ hmem
  exact ⟨notMem_of_bits bits_invisibles_decomposable hmem, Hangul.decompose_eq_none hbeside⟩

theorem isInvisible_of_mem_decompose {c d : Char} (hd : d ∈ decompose c) :
    isInvisible d = isInvisible c := by
  cases hc : isInvisible c with
  | true =>
    rw [decompose_of_settled (settled_of_isInvisible hc), List.mem_singleton] at hd
    rw [hd, hc]
  | false =>
    rcases mem_rows_of_mem_decompose hd with rfl | hrow
    · exact hc
    · exact Bool.eq_false_iff.2 fun hinvisible =>
        notMem_of_bits bits_invisibles_rows (mem_invisibles hinvisible) hrow

/-- Marks are visible. -/
theorem isInvisible_of_mark {c : Char} (h : 0 < combiningClass c) : isInvisible c = false :=
  Bool.eq_false_iff.2 fun hinvisible =>
    notMem_of_bits bits_invisibles_marks (mem_invisibles hinvisible) (mem_marks h)

end Name

namespace Unicode.Canonical

open Name

/-- Equivalent texts have equivalent visible parts. -/
theorem strip {as bs : List Char} (h : Canonical as bs) :
    Canonical (Name.strip as) (Name.strip bs) := by
  induction h with
  | decomposed c =>
    cases hc : isInvisible c with
    | true =>
      rw [decompose_of_settled (settled_of_isInvisible hc)]
      exact refl _
    | false =>
      have hparts : Name.strip (Unicode.decompose c) = Unicode.decompose c :=
        List.filter_eq_self.2 fun d hd => by
          rw [isInvisible_of_mem_decompose hd, hc, Bool.not_false]
      have hself : Name.strip [c] = [c] := List.filter_eq_self.2 (by simp [hc])
      rw [hparts, hself]
      exact decomposed c
  | @swapped a b h =>
    have ha := isInvisible_of_mark h.1
    have hb := isInvisible_of_mark h.2.1
    have hboth : ∀ {c d : Char}, isInvisible c = false → isInvisible d = false →
        Name.strip [c, d] = [c, d] := fun hc hd => List.filter_eq_self.2 (by simp [hc, hd])
    rw [hboth ha hb, hboth hb ha]
    exact swapped h
  | refl cs => exact refl _
  | symm _ ih => exact ih.symm
  | trans _ _ ih ih' => exact ih.trans ih'
  | append _ _ ih ih' =>
    rw [Name.strip, Name.strip, List.filter_append, List.filter_append]
    exact append ih ih'

/-- Equivalent texts have the same invisible characters. -/
theorem dross_eq {as bs : List Char} (h : Canonical as bs) : dross as = dross bs := by
  induction h with
  | decomposed c =>
    cases hc : isInvisible c with
    | true => rw [decompose_of_settled (settled_of_isInvisible hc)]
    | false =>
      have hparts : dross (Unicode.decompose c) = [] :=
        List.filter_eq_nil_iff.2 fun d hd => by
          rw [isInvisible_of_mem_decompose hd, hc]
          exact Bool.false_ne_true
      rw [hparts, dross, List.filter_cons_of_neg (by simp [hc]), List.filter_nil]
  | swapped h => simp [dross, isInvisible_of_mark h.1, isInvisible_of_mark h.2.1]
  | refl cs => rfl
  | symm _ ih => exact ih.symm
  | trans _ _ ih ih' => exact ih.trans ih'
  | append _ _ ih ih' =>
    rw [dross, dross, List.filter_append, List.filter_append]
    exact congrArg₂ _ ih ih'

end Unicode.Canonical

namespace Name

open Unicode

theorem strip_eq_self_iff {cs : List Char} : strip cs = cs ↔ dross cs = [] := by
  simp [strip, dross, List.filter_eq_self, List.filter_eq_nil_iff]

theorem dross_strip (cs : List Char) : dross (strip cs) = [] :=
  List.filter_eq_nil_iff.2 fun c hc => by simpa using List.of_mem_filter hc

/-- Composing brings no invisible character up. -/
theorem strip_nfc_strip (cs : List Char) : strip (nfc (strip cs)) = nfc (strip cs) :=
  strip_eq_self_iff.2 ((canonical_nfc _).dross_eq.trans (dross_strip cs))

theorem nfc_sanitize (cs : List Char) : nfc (sanitize cs) = nfc (strip cs) :=
  nfc_eq_iff.2 (canonical_nfc cs).strip

/-- A second pass gives the composed form of the visible text. -/
theorem sanitize_sanitize (cs : List Char) : sanitize (sanitize cs) = nfc (strip cs) :=
  calc sanitize (sanitize cs) = strip (nfc (sanitize cs)) := rfl
    _ = strip (nfc (strip cs)) := by rw [nfc_sanitize]
    _ = nfc (strip cs) := strip_nfc_strip cs

theorem isNormal_sanitize_iff (cs : List Char) :
    IsNormal (sanitize cs) ↔ nfc (strip cs) = strip (nfc cs) := by
  rw [IsNormal, nfc_sanitize]
  rfl

/-- The name that a token carries. -/
def carried : List Char → List Char
  | '\x60' :: cs => Backticked.halve cs.dropLast
  | cs => cs

theorem carried_token (cs : List Char) : carried (token cs) = cs := by
  rcases token_cases cs with ⟨hvariable, htoken⟩ | htoken
  · rw [htoken]
    unfold carried
    split
    · have hpart := Identifier.isPart_of_isVariable hvariable _ List.mem_cons_self
      exact absurd hpart (by decide)
    · rfl
  · rw [htoken, Backticked.quote, List.cons_append, carried, List.dropLast_concat,
      Backticked.halve_double]

theorem carried_escape (name : String) : carried (escape name) = sanitize name.toList :=
  carried_token _

theorem token_injective {as bs : List Char} (h : token as = token bs) : as = bs := by
  rw [← carried_token as, h, carried_token]

/-- What a token carries is visible, and it is in composed form just when it is kept by a second
pass, as is its token, and just when composing commutes with taking out on the text of the name: so
it is for names without invisible characters. Carried a second time, every name is in composed form.
-/
theorem carried_normal_tfae (name : String) :
    (∀ c ∈ carried (escape name), isInvisible c = false) ∧
    [IsNormal (carried (escape name)),
      sanitize (carried (escape name)) = carried (escape name),
      escape (String.ofList (carried (escape name))) = escape name,
      label (String.ofList (carried (escape name))) = label name,
      nfc (strip name.toList) = strip (nfc name.toList)].TFAE ∧
    (strip name.toList = name.toList → IsNormal (carried (escape name))) ∧
    carried (escape (String.ofList (carried (escape name)))) = nfc (strip name.toList) ∧
    IsNormal (nfc (strip name.toList)) := by
  have hagain : escape (String.ofList (carried (escape name))) =
      token (sanitize (sanitize name.toList)) := by
    rw [escape, String.toList_ofList, carried_escape]
  have hcommute := isNormal_sanitize_iff name.toList
  rw [hagain, carried_token, label, label, hagain, carried_escape, sanitize_sanitize]
  refine ⟨fun c hc => by simpa using List.of_mem_filter hc, ?_, fun hname => ?_, rfl, nfc_nfc _⟩
  · tfae_have 1 ↔ 5 := hcommute
    tfae_have 2 ↔ 5 := Iff.rfl
    tfae_have 3 ↔ 2 := ⟨token_injective, fun h => by rw [h, escape]⟩
    tfae_have 4 ↔ 3 := ⟨fun h => (List.cons.inj h).2, fun h => by rw [h]⟩
    tfae_finish
  · refine hcommute.2 ?_
    rw [hname]
    exact (hname ▸ strip_nfc_strip name.toList).symm

/-- A joiner between a letter and its accent is taken out after the two could have been composed. -/
theorem not_isNormal_joined : ¬IsNormal (carried (escape "e\u200d\u0301")) ∧
    sanitize (sanitize "e\u200d\u0301".toList) ≠ sanitize "e\u200d\u0301".toList ∧
    escape (String.ofList (carried (escape "e\u200d\u0301"))) ≠ escape "e\u200d\u0301" := by
  unfold IsNormal
  decide +kernel

end Name

end CypherTemplate
