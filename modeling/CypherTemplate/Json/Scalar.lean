import CypherTemplate.Json.Error
import CypherTemplate.Json.Scan
import CypherTemplate.Number.Reader

/-!
What the numbers and strings of an outline are read as, and what a value is called in a message that
it should be something else. A part with a fault is refused for the fault.
-/
namespace CypherTemplate

namespace Fault

def error : Fault → JsonError
  | .stray => .malformed
  | _ => .truncated

end Fault

namespace Ending

/-- The end of a string, list or record that is read to its end. -/
def finish : Ending → Except JsonError Unit
  | .closed => .ok ()
  | .cut => .error .truncated
  | .stray => .error .malformed

end Ending

/-- What a numeral is read as. -/
inductive Number where
  | whole (i : Int)
  | double (d : Double)
  deriving DecidableEq, Repr

namespace Number

def found : Number → Found
  | .whole i => .whole i
  | .double d => .double d

end Number

namespace Numeral

variable [DoubleReader]

/-- Reads a numeral as a double of its sign; what the reader of doubles refuses is malformed. -/
def readDouble (n : Numeral) : Except JsonError Number :=
  match DoubleReader.rank? n with
  | some rank => .ok (.double (.finite n.negative rank))
  | none => .error .malformed

/-- Whole numerals that fit 64 bits, of either sign, are whole numbers, and all others doubles. A
minus before zero makes a double, for the sign of zero is kept there. -/
def read (n : Numeral) : Except JsonError Number :=
  if n.isWhole && !n.negative && n.significand < UInt64.size then .ok (.whole n.significand)
  else if n.isWhole && n.negative && n.significand != 0 && 2 * n.significand ≤ UInt64.size then
    .ok (.whole (-n.significand))
  else n.readDouble

end Numeral

namespace WrittenString

def isHigh (n : Nat) : Bool := 0xD800 ≤ n && n < 0xDC00

def isLow (n : Nat) : Bool := 0xDC00 ≤ n && n < 0xE000

/-- The characters of a written string. A high surrogate must have a low one behind it, and a low
one a high one before it. -/
def chars (ending : Ending) : List StringUnit → Except JsonError (List Char)
  | [] => do
    ending.finish
    return []
  | .char c :: us => return c :: (← chars ending us)
  | .code n :: us =>
    if isLow n then .error .malformed
    else if isHigh n then
      match us with
      | .code m :: us =>
        if isLow m then
          return Char.ofNat (0x10000 + (n - 0xD800) * 0x400 + (m - 0xDC00)) :: (← chars ending us)
        else .error .malformed
      | [] => if ending = .cut then .error .truncated else .error .malformed
      | _ => .error .malformed
    else return Char.ofNat n :: (← chars ending us)

def read (s : WrittenString) : Except JsonError String :=
  String.ofList <$> chars s.ending s.units

end WrittenString

namespace Outline

variable [DoubleReader]

/-- What a value is, for a message that it should be something else. -/
def found : Outline → Except JsonError Found
  | .null => .ok .null
  | .bool b => .ok (.bool b)
  | .number n => Number.found <$> n.read
  | .string s => .string <$> s.read
  | .list _ _ => .ok .sequence
  | .record _ _ => .ok .map
  | .fault f => .error f.error

/-- Refuses a value that is not what is expected. -/
def mismatch {α : Type} (o : Outline) (expected : String) : Except JsonError α := do
  throw (.wrongType (← o.found) expected)

/-- The name of a member of a record. -/
def readKey : Outline → Except JsonError String
  | .string s => s.read
  | .fault .absent => .error .truncated
  | _ => .error .malformed

end Outline

end CypherTemplate
