import CypherTemplate.Number.Numeral

/-!
The outline of a JSON text: its values as far as the text goes, read without regard to what they
are to mean. A text that breaks off or goes wrong has a fault where it does, and nothing behind it.
Numbers keep their digits and strings their code units, since what is wrong with those is only asked
where they are used.
-/
namespace CypherTemplate

/-- What stands in the place of a value that cannot be outlined. -/
inductive Fault where
  /-- The text ends before the value. -/
  | absent
  /-- The text ends within a word. -/
  | cutWord
  /-- The text ends where a number needs a digit. -/
  | cutNumber
  /-- A character that cannot stand where it does. -/
  | stray
  deriving DecidableEq, Repr

/-- How a string, list or record ends. -/
inductive Ending where
  | closed
  | cut
  | stray
  deriving DecidableEq, Repr

/-- A part of a written string: a character, or the 16-bit unit of a numbered escape. -/
inductive StringUnit where
  | char (c : Char)
  | code (n : Nat)
  deriving DecidableEq, Repr

structure WrittenString where
  units : List StringUnit
  ending : Ending
  deriving DecidableEq, Repr

inductive Outline where
  | null
  | bool (b : Bool)
  | number (n : Numeral)
  | string (s : WrittenString)
  | list (items : List Outline) (ending : Ending)
  | record (members : List (Outline × Outline)) (ending : Ending)
  | fault (f : Fault)

end CypherTemplate
