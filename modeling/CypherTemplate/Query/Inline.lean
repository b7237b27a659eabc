import CypherTemplate.Query.Compile
import CypherTemplate.Text.Quoted

/-!
Queries with their values written in place of the placeholders. The text is gone through once:
quoted sections are copied, values are not looked at again, and a placeholder without a value stays
as it is.
-/
namespace CypherTemplate

namespace ParamStyle

/-- The character in front of the name of a placeholder. -/
def opening : ParamStyle → Char
  | .braces => '\x7b'
  | .dollar => '$'

/-- The text behind a placeholder, given the text behind its name. -/
def close : ParamStyle → List Char → Option (List Char)
  | .braces, '\x7d' :: rest => some rest
  | .braces, _ => none
  | .dollar, rest => some rest

/-- The name of a placeholder at the start of a text, and the text behind the placeholder. A name
goes as far as it can and is not empty. -/
def splitPlaceholder (s : ParamStyle) : List Char → Option (List Char × List Char)
  | [] => none
  | c :: cs =>
    if c = s.opening then
      match cs.takeWhile Identifier.isPart with
      | [] => none
      | name => (s.close (cs.dropWhile Identifier.isPart)).map (name, ·)
    else none

theorem length_close_le {s : ParamStyle} {cs rest : List Char} (h : s.close cs = some rest) :
    rest.length ≤ cs.length := by
  unfold close at h
  split at h
  · cases h; simp
  · simp at h
  · cases h; exact Nat.le_refl _

theorem length_splitPlaceholder_lt {s : ParamStyle} {cs name rest : List Char}
    (h : s.splitPlaceholder cs = some (name, rest)) : rest.length < cs.length := by
  cases cs with
  | nil => simp [splitPlaceholder] at h
  | cons c cs =>
    simp only [splitPlaceholder] at h
    split at h
    · split at h
      · simp at h
      · obtain ⟨r, hr, h⟩ := Option.map_eq_some_iff.1 h
        cases h
        exact Nat.lt_succ_of_le (Nat.le_trans (length_close_le hr)
          (List.dropWhile_sublist Identifier.isPart).length_le)
    · simp at h

end ParamStyle

namespace KeyMap

/-- The value of a placeholder at the start of a text, and the text behind the placeholder. -/
def placeholder? (values : KeyMap Value) (style : ParamStyle) (cs : List Char) :
    Option (Value × List Char) :=
  match style.splitPlaceholder cs with
  | some (name, rest) => (values.get? (String.ofList name)).map (·, rest)
  | none => none

theorem length_placeholder_lt {values : KeyMap Value} {style : ParamStyle} {cs rest : List Char}
    {v : Value} (h : values.placeholder? style cs = some (v, rest)) : rest.length < cs.length := by
  unfold placeholder? at h
  split at h
  · rename_i hs
    obtain ⟨_, _, h⟩ := Option.map_eq_some_iff.1 h
    cases h
    exact ParamStyle.length_splitPlaceholder_lt hs
  · simp at h

end KeyMap

namespace Query

/-- Writes values in place of their placeholders. -/
def inlineText (values : KeyMap Value) (style : ParamStyle) : List Char → List Char
  | [] => []
  | c :: cs =>
    if c = '"' then
      '"' :: (Quoted.splitEnd cs).1 ++ inlineText values style (Quoted.splitEnd cs).2
    else if c = '\x60' then
      '\x60' :: (Backticked.splitEnd cs).1 ++ inlineText values style (Backticked.splitEnd cs).2
    else
      match _h : values.placeholder? style (c :: cs) with
      | some (v, rest) => v.literal ++ inlineText values style rest
      | none => c :: inlineText values style cs
termination_by cs => cs.length
decreasing_by
  · exact Nat.lt_succ_of_le (Quoted.length_splitEnd_le cs)
  · exact Nat.lt_succ_of_le (Backticked.length_splitEnd_le cs)
  · exact KeyMap.length_placeholder_lt ‹_›
  · exact Nat.lt_succ_self _

/-- The text of a query with its values in place. -/
def inline (q : Query) : String :=
  String.ofList (inlineText q.parameters q.paramStyle q.text.toList)

end Query

end CypherTemplate
