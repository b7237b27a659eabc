import CypherTemplate.Proofs.ReadBack

/-!
The tokens of query text and where they end. A quoted string ends at its closing quote whatever
follows; a name, a number or a placeholder ends where a break follows, and every token that is written
has a break behind it.
-/
namespace CypherTemplate

/-- A character that stands behind tokens and belongs to none. -/
def isBreak (c : Char) : Bool :=
  c = ' ' || c = ',' || c = ':' || c = ')' || c = ']' || c = '\x7d'

/-- Whether a text begins with a break, if with anything. -/
def Breaks (cs : List Char) : Prop := ∀ c ∈ cs.head?, isBreak c

@[simp] theorem breaks_nil : Breaks [] := nofun

@[simp] theorem breaks_cons {c : Char} {cs : List Char} : Breaks (c :: cs) ↔ isBreak c := by
  simp [Breaks]

theorem Breaks.append {cs rest : List Char} (h : Breaks cs) (hrest : Breaks rest) :
    Breaks (cs ++ rest) := by
  cases cs with
  | nil => exact hrest
  | cons c cs => simpa using h

theorem not_isPart_of_isBreak {c : Char} (h : isBreak c) : Identifier.isPart c = false := by
  simp only [isBreak, Bool.or_eq_true, decide_eq_true_eq] at h
  rcases h with ((((rfl | rfl) | rfl) | rfl) | rfl) | rfl <;> decide

/-- Texts of one class of characters are told apart from what follows by its first character. -/
theorem append_inj_of_forall {p : Char → Bool} {as bs r s : List Char} (ha : ∀ c ∈ as, p c)
    (hb : ∀ c ∈ bs, p c) (hr : ∀ c ∈ r.head?, p c = false) (hs : ∀ c ∈ s.head?, p c = false)
    (h : as ++ r = bs ++ s) : as = bs ∧ r = s := by
  induction as generalizing bs with
  | nil =>
    cases bs with
    | nil => exact ⟨rfl, h⟩
    | cons b bs =>
      have hp := hb b (by simp)
      rw [List.nil_append] at h
      rw [h] at hr
      simp [hp] at hr
  | cons a as ih =>
    cases bs with
    | nil =>
      have hp := ha a (by simp)
      rw [List.nil_append] at h
      rw [← h] at hs
      simp [hp] at hs
    | cons b bs =>
      obtain ⟨rfl, htail⟩ := List.cons.inj h
      obtain ⟨rfl, rfl⟩ :=
        ih (fun c hc => ha c (by simp [hc])) (fun c hc => hb c (by simp [hc])) htail
      exact ⟨rfl, rfl⟩

namespace Quoted

theorem splitEnd_escapeChar (c : Char) (cs : List Char) :
    splitEnd (escapeChar c ++ cs) = (escapeChar c ++ (splitEnd cs).1, (splitEnd cs).2) := by
  unfold escapeChar
  split <;> simp_all [splitEnd]

/-- The scan of a quoted string ends behind its closing quote. -/
theorem splitEnd_escape (cs rest : List Char) :
    splitEnd (escape cs ++ '"' :: rest) = (escape cs ++ ['"'], rest) := by
  rw [escape_eq_flatMap]
  induction cs with
  | nil => rfl
  | cons c cs ih =>
    rw [List.flatMap_cons, List.append_assoc, splitEnd_escapeChar, ih, List.append_assoc]

/-- The string that is written with the six escapes, each where it is needed. -/
def decode? : List Char → Option (List Char)
  | [] => some []
  | '\\' :: '\\' :: cs => (decode? cs).map ('\\' :: ·)
  | '\\' :: '"' :: cs => (decode? cs).map ('"' :: ·)
  | '\\' :: 'n' :: cs => (decode? cs).map ('\n' :: ·)
  | '\\' :: 'r' :: cs => (decode? cs).map ('\r' :: ·)
  | '\\' :: 't' :: cs => (decode? cs).map ('\t' :: ·)
  | '\\' :: 'u' :: '0' :: '0' :: '0' :: '0' :: cs => (decode? cs).map ('\x00' :: ·)
  | c :: cs => if needsEscape c then none else (decode? cs).map (c :: ·)

theorem decode?_escapeChar (c : Char) (cs : List Char) :
    decode? (escapeChar c ++ cs) = (decode? cs).map (c :: ·) := by
  unfold escapeChar
  split <;> simp_all [decode?, needsEscape]

/-- Escapes can be undone. -/
theorem decode?_escape (cs : List Char) : decode? (escape cs) = some cs := by
  rw [escape_eq_flatMap]
  induction cs with
  | nil => rfl
  | cons c cs ih => rw [List.flatMap_cons, decode?_escapeChar, ih, Option.map_some]

theorem escape_injective {as bs : List Char} (h : escape as = escape bs) : as = bs := by
  have hread := congrArg decode? h
  rw [decode?_escape, decode?_escape] at hread
  exact Option.some.inj hread

end Quoted

namespace Backticked

/-- The scan of a backticked name ends behind its closing backtick, unless another one follows. -/
theorem splitEnd_double (cs : List Char) {rest : List Char} (h : ∀ c ∈ rest.head?, c ≠ '\x60') :
    splitEnd (double cs ++ '\x60' :: rest) = (double cs ++ ['\x60'], rest) := by
  induction cs with
  | nil => exact splitEnd_closing h
  | cons c cs ih =>
    by_cases hc : c = '\x60'
    · simp [double, hc, splitEnd, ih]
    · simp [double, hc, splitEnd, ih]

/-- The name whose backticks are written twice. -/
def halve : List Char → List Char
  | '\x60' :: '\x60' :: cs => '\x60' :: halve cs
  | c :: cs => c :: halve cs
  | [] => []

theorem halve_double (cs : List Char) : halve (double cs) = cs := by
  induction cs with
  | nil => rfl
  | cons c cs ih =>
    by_cases hc : c = '\x60'
    · simp [double, hc, halve, ih]
    · simp [double, hc, halve, ih]

end Backticked

namespace Name

/-- A name is written bare as a variable, or between backticks. -/
theorem token_cases (cs : List Char) :
    Identifier.isVariable cs ∧ token cs = cs ∨ token cs = Backticked.quote cs := by
  unfold token
  split
  · rename_i h
    exact .inl ⟨h, rfl⟩
  · exact .inr rfl

end Name

namespace Identifier

theorem isPart_of_isVariable {cs : List Char} (h : isVariable cs) : ∀ c ∈ cs, isPart c := by
  simp only [isVariable, Bool.and_eq_true] at h
  exact List.all_eq_true.1 (isPart_of_isPlain h.1)

theorem ne_nil_of_isPlain {cs : List Char} (h : isPlain cs) : cs ≠ [] := by
  rintro rfl
  simp at h

end Identifier

/-- The characters of numbers. -/
def isNumeric (c : Char) : Bool :=
  c.isDigit || c = '.' || c = '-' || c = '/'

theorem isNumeric_of_isDigit {c : Char} (h : c.isDigit) : isNumeric c := by
  simp [isNumeric, h]

theorem forall_isNumeric_toDigits (n : Nat) : ∀ c ∈ Nat.toDigits 10 n, isNumeric c := fun c hc =>
  isNumeric_of_isDigit (Json.isDigit_of_mem_toDigits c hc)

theorem forall_isNumeric_sign (negative : Bool) {cs : List Char} (h : ∀ c ∈ cs, isNumeric c) :
    ∀ c ∈ (if negative then ['-'] else []) ++ cs, isNumeric c := by
  have hminus : isNumeric '-' := by decide
  cases negative with
  | false => exact h
  | true => exact List.forall_mem_cons.2 ⟨hminus, h⟩

theorem forall_isNumeric_wholeText (i : Int) : ∀ c ∈ Json.wholeText i, isNumeric c := by
  rw [Json.wholeText_eq]
  exact forall_isNumeric_sign _ (forall_isNumeric_toDigits i.natAbs)

theorem forall_isNumeric_doubleLiteral (d : Double) :
    ∀ c ∈ Value.doubleLiteral d, isNumeric c := by
  cases d with
  | nan => exact List.all_eq_true.1 (by decide)
  | infinite negative => exact List.all_eq_true.1 (by cases negative <;> decide)
  | finite negative rank =>
    obtain ⟨whole, fraction, htext, _, hw, hf, _⟩ := Value.exists_doubleLiteral negative rank
    have hpoint : isNumeric '.' := by decide
    rw [htext]
    refine forall_isNumeric_sign negative (List.forall_mem_append.2 ⟨fun c hc => ?_, ?_⟩)
    · exact isNumeric_of_isDigit (hw c hc)
    · exact List.forall_mem_cons.2 ⟨hpoint, fun c hc => isNumeric_of_isDigit (hf c hc)⟩

end CypherTemplate
