import CypherTemplate.Text.Backticked
import CypherTemplate.Text.Identifier
import CypherTemplate.Unicode.Normalization

/-!
Names of labels, property keys, aliases and map keys. A name is composed canonically and freed of
invisible characters; what is left is written bare where it can be a variable, and backticked
otherwise.
-/
namespace CypherTemplate.Name

/-- Controls, zero-width characters, soft hyphens and marks of writing direction. -/
def isInvisible (c : Char) : Bool :=
  let n := c.toNat
  n < 0x20 || (0x7F ≤ n && n < 0xA0) ||
    [0x200B, 0x200C, 0x200D, 0xFEFF, 0x202A, 0x202B, 0x202C, 0x202D, 0x202E, 0x2066, 0x2067,
      0x2068, 0x2069, 0x00AD, 0x061C, 0x180E].contains n

/-- The name that is written for a text. -/
def sanitize (cs : List Char) : List Char :=
  (Unicode.nfc cs).filter (!isInvisible ·)

/-- The token of a sanitized name. -/
def token (cs : List Char) : List Char :=
  if Identifier.isVariable cs then cs else Backticked.quote cs

/-- The token of a name. -/
def escape (name : String) : List Char :=
  token (sanitize name.toList)

/-- The token of a label, behind its colon. -/
def label (name : String) : List Char :=
  ':' :: escape name

end CypherTemplate.Name
