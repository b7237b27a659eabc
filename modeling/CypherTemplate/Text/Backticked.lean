/-!
Backticked names, the backtick being U+0060. A backtick inside the name is written twice. A
backticked section of a text ends at the first backtick that no second one follows; an unterminated
section runs to the end.
-/
namespace CypherTemplate.Backticked

/-- Writes every backtick twice. -/
def double : List Char → List Char
  | [] => []
  | c :: cs => if c = '\x60' then '\x60' :: '\x60' :: double cs else c :: double cs

/-- The written form of a name, between its backticks. -/
def quote (cs : List Char) : List Char :=
  '\x60' :: double cs ++ ['\x60']

/-- Splits the text after an opening backtick behind the closing one. -/
def splitEnd : List Char → List Char × List Char
  | [] => ([], [])
  | '\x60' :: '\x60' :: cs =>
    let (s, rest) := splitEnd cs
    ('\x60' :: '\x60' :: s, rest)
  | c :: cs =>
    if c = '\x60' then (['\x60'], cs)
    else
      let (s, rest) := splitEnd cs
      (c :: s, rest)

theorem splitEnd_append (cs : List Char) : (splitEnd cs).1 ++ (splitEnd cs).2 = cs := by
  fun_induction splitEnd cs <;> simp_all

theorem length_splitEnd_le (cs : List Char) : (splitEnd cs).2.length ≤ cs.length := by
  have h := congrArg List.length (splitEnd_append cs)
  simp only [List.length_append] at h
  omega

theorem splitEnd_closing {rest : List Char} (h : ∀ c ∈ rest.head?, c ≠ '\x60') :
    splitEnd ('\x60' :: rest) = (['\x60'], rest) := by
  cases rest with
  | nil => rfl
  | cons c rest =>
    have hc : c ≠ '\x60' := h c rfl
    simp [splitEnd, hc]

end CypherTemplate.Backticked
