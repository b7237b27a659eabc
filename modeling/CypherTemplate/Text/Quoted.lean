/-!
Double-quoted strings. Six characters are written as escapes and all others as themselves. A quoted
section of a text ends at the first quote that no backslash precedes, the character after a
backslash being passed over whatever it is; an unterminated section runs to the end.
-/
namespace CypherTemplate.Quoted

/-- The written form of one character. -/
def escapeChar : Char → List Char
  | '\\' => ['\\', '\\']
  | '"' => ['\\', '"']
  | '\n' => ['\\', 'n']
  | '\r' => ['\\', 'r']
  | '\t' => ['\\', 't']
  | '\x00' => ['\\', 'u', '0', '0', '0', '0']
  | c => [c]

/-- The characters that may not stand for themselves inside quotes. -/
def needsEscape (c : Char) : Bool :=
  c = '\\' || c = '"' || c = '\n' || c = '\r' || c = '\t' || c = '\x00'

/-- A clean text stands for itself. -/
def isClean (cs : List Char) : Bool :=
  !cs.any needsEscape

/-- A clean text is returned untouched; any other is written character by character. -/
def escape (cs : List Char) : List Char :=
  if isClean cs then cs else cs.flatMap escapeChar

/-- The written form of a string, between its quotes. -/
def quote (cs : List Char) : List Char :=
  '"' :: escape cs ++ ['"']

/-- Splits the text after an opening quote behind the closing one. -/
def splitEnd : List Char → List Char × List Char
  | [] => ([], [])
  | '\\' :: c :: cs =>
    let (s, rest) := splitEnd cs
    ('\\' :: c :: s, rest)
  | c :: cs =>
    if c = '"' then (['"'], cs)
    else
      let (s, rest) := splitEnd cs
      (c :: s, rest)

theorem splitEnd_append (cs : List Char) : (splitEnd cs).1 ++ (splitEnd cs).2 = cs := by
  fun_induction splitEnd cs <;> simp_all

theorem length_splitEnd_le (cs : List Char) : (splitEnd cs).2.length ≤ cs.length := by
  have h := congrArg List.length (splitEnd_append cs)
  simp only [List.length_append] at h
  omega

theorem escapeChar_of_clean {c : Char} (h : needsEscape c = false) : escapeChar c = [c] := by
  simp only [needsEscape, Bool.or_eq_false_iff, decide_eq_false_iff_not] at h
  obtain ⟨⟨⟨⟨⟨h1, h2⟩, h3⟩, h4⟩, h5⟩, h6⟩ := h
  unfold escapeChar
  split <;> simp_all

/-- The written form does not hang on whether the text is clean. -/
theorem escape_eq_flatMap (cs : List Char) : escape cs = cs.flatMap escapeChar := by
  unfold escape
  split
  · rename_i h
    induction cs with
    | nil => rfl
    | cons c cs ih =>
      simp only [isClean, List.any_cons, Bool.not_or, Bool.and_eq_true, Bool.not_eq_true'] at h ih
      rw [List.flatMap_cons, escapeChar_of_clean h.1, ← ih h.2]
      rfl
  · rfl

end CypherTemplate.Quoted
