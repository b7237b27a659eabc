import CypherTemplate.Proofs.Segmentation

/-!
The bytes of quoted sections. The scan counts from the opening quote on, and its count is that of the
section that stands there: a beginning of a text has just as many bytes exactly if it is this section.
So to see where a scan stops it is enough to know what the sections are.
-/
namespace CypherTemplate

/-- The bytes of the section that a text begins with, given its quote. -/
def sectionLength (quote : Char) : List Char → Nat
  | [] => 0
  | c :: cs => sectionEnd quote c.utf8Size cs

theorem eq_nil_of_byteLength {cs : List Char} (h : byteLength cs = 0) : cs = [] := by
  cases cs with
  | nil => rfl
  | cons c cs =>
    have hpos := c.utf8Size_pos
    rw [byteLength_cons] at h
    omega

/-- Beginnings of one text are told apart by their bytes. -/
theorem append_inj_of_byteLength {as bs r s : List Char} (h : as ++ r = bs ++ s)
    (hlength : byteLength as = byteLength bs) : as = bs ∧ r = s := by
  rcases List.append_eq_append_iff.1 h with ⟨more, rfl, rfl⟩ | ⟨more, rfl, rfl⟩
  · rw [byteLength_append] at hlength
    have hmore : byteLength more = 0 := by omega
    obtain rfl := eq_nil_of_byteLength hmore
    exact ⟨(List.append_nil as).symm, rfl⟩
  · rw [byteLength_append] at hlength
    have hmore : byteLength more = 0 := by omega
    obtain rfl := eq_nil_of_byteLength hmore
    exact ⟨List.append_nil bs, rfl⟩

theorem sectionLength_quote (cs : List Char) :
    sectionLength '"' ('"' :: cs) = byteLength ('"' :: (Quoted.splitEnd cs).1) := by
  rw [sectionLength, sectionEnd_quote, byteLength_cons]

theorem sectionLength_backtick (cs : List Char) :
    sectionLength '\x60' ('\x60' :: cs) = byteLength ('\x60' :: (Backticked.splitEnd cs).1) := by
  rw [sectionLength, sectionEnd_backtick, byteLength_cons]

/-- Behind its quote each text has a section, and its bytes are counted. -/
theorem exists_section {quote : Char} (hquote : quote = '"' ∨ quote = '\x60') (cs : List Char) :
    ∃ s rest, cs = s ++ rest ∧ IsSection quote (quote :: s) rest ∧
      sectionLength quote (quote :: cs) = byteLength (quote :: s) := by
  rcases hquote with rfl | rfl
  · exact ⟨_, _, (Quoted.splitEnd_append cs).symm, Quoted.isSection_splitEnd cs,
      sectionLength_quote cs⟩
  · exact ⟨_, _, (Backticked.splitEnd_append cs).symm, Backticked.isSection_splitEnd cs,
      sectionLength_backtick cs⟩

namespace IsSection

theorem exists_eq_cons {quote : Char} {cs rest : List Char} (h : IsSection quote cs rest) :
    ∃ s, cs = quote :: s := by
  cases h <;> exact ⟨_, rfl⟩

theorem sectionLength_eq {quote : Char} (hquote : quote = '"' ∨ quote = '\x60')
    {cs rest : List Char} (h : IsSection quote cs rest) :
    sectionLength quote (cs ++ rest) = byteLength cs := by
  rcases hquote with rfl | rfl
  · obtain ⟨s, rfl, hsplit⟩ := Quoted.exists_splitEnd_of_isSection h
    rw [List.cons_append, sectionLength_quote, hsplit]
  · obtain ⟨s, rfl, hsplit⟩ := Backticked.exists_splitEnd_of_isSection h
    rw [List.cons_append, sectionLength_backtick, hsplit]

/-- A section is copied as a whole, whatever the values are. -/
theorem next_eq {quote : Char} (hquote : quote = '"' ∨ quote = '\x60') {cs rest : List Char}
    (h : IsSection quote cs rest) (values : KeyMap Value) (style : ParamStyle) :
    Cursor.next values style (String.ofList (cs ++ rest)) =
      .ok (String.ofList cs, byteLength cs) := by
  have hlength := h.sectionLength_eq hquote
  obtain ⟨s, rfl⟩ := h.exists_eq_cons
  rw [byteLength_cons] at hlength
  exact Cursor.next_section hquote rfl hlength

end IsSection

/-- The count of the scan is that of a beginning just when this is a section of the text. -/
theorem sectionLength_eq_iff {quote : Char} (hquote : quote = '"' ∨ quote = '\x60')
    {s rest : List Char} :
    sectionLength quote (quote :: s ++ rest) = byteLength (quote :: s) ↔
      IsSection quote (quote :: s) rest := by
  constructor
  · intro h
    obtain ⟨s', rest', hcs, hsection, hlength⟩ := exists_section hquote (s ++ rest)
    rw [List.cons_append, hlength] at h
    have hwhole : quote :: s' ++ rest' = quote :: s ++ rest := by
      rw [List.cons_append, List.cons_append, hcs]
    obtain ⟨hs, hrest⟩ := append_inj_of_byteLength hwhole h
    rwa [hs, hrest] at hsection
  · exact IsSection.sectionLength_eq hquote

end CypherTemplate
