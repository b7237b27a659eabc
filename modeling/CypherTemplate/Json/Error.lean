import CypherTemplate.Json.Basic
import CypherTemplate.Unicode.Display

/-!
Why a JSON text is refused: it breaks off, it is malformed, or it is well-formed as far as it was
read but means something else than what is asked for.
-/
namespace CypherTemplate

/-- What was met where something else was expected. -/
inductive Found where
  | null
  | bool (b : Bool)
  | whole (i : Int)
  | double (d : Double)
  | string (s : String)
  | sequence
  | map
  | bareVariant
  deriving DecidableEq, Repr

inductive JsonError where
  | truncated
  | malformed
  | wrongType (found : Found) (expected : String)
  | wrongValue (found : Found) (expected : String)
  | wrongLength (length : Nat) (expected : String)
  | missingField (name : String)
  | duplicateField (name : String)
  | unknownVariant (name : String) (expected : List String)
  | wholeOutOfRange (i : Int)
  | emptyOptionGroup
  deriving DecidableEq, Repr

namespace JsonError

/-- The class of an error: the last one has a message of its own. -/
inductive Category where
  | truncated
  | malformed
  | mismatch
  deriving DecidableEq, Repr

def category : JsonError → Category
  | .truncated => .truncated
  | .malformed => .malformed
  | _ => .mismatch

/-- A character of a string as messages show it. -/
def shownChar (c : Char) : List Char :=
  match c with
  | '\x00' => ['\\', '0']
  | '\t' => ['\\', 't']
  | '\n' => ['\\', 'n']
  | '\r' => ['\\', 'r']
  | '"' => ['\\', '"']
  | '\\' => ['\\', '\\']
  | c =>
    if Unicode.showsAsItself c then [c]
    else "\\u\x7b".toList ++ Nat.toDigits 16 c.toNat ++ ['\x7d']

def shown (s : String) : String :=
  String.ofList ('"' :: s.toList.flatMap shownChar ++ ['"'])

/-- A word between backticks. -/
def ticked (s : String) : String :=
  "\x60" ++ s ++ "\x60"

def wholeText (i : Int) : String :=
  String.ofList (Json.wholeText i)

def foundText : Found → String
  | .null => "null"
  | .bool b => "boolean " ++ ticked (if b then "true" else "false")
  | .whole i => "integer " ++ ticked (wholeText i)
  | .double d => "floating point " ++ ticked (String.ofList (Json.doubleText d))
  | .string s => "string " ++ shown s
  | .sequence => "sequence"
  | .map => "map"
  | .bareVariant => "unit variant"

/-- Two alternatives are joined by a word, more are listed. -/
def alternatives : List String → String
  | [] => "there are no variants"
  | [a] => "expected " ++ ticked a
  | [a, b] => "expected " ++ ticked a ++ " or " ++ ticked b
  | names => "expected one of " ++ String.intercalate ", " (names.map ticked)

def message : JsonError → String
  | .truncated => "unexpected end of text"
  | .malformed => "malformed text"
  | .wrongType found expected => "invalid type: " ++ foundText found ++ ", expected " ++ expected
  | .wrongValue found expected => "invalid value: " ++ foundText found ++ ", expected " ++ expected
  | .wrongLength n expected =>
    "invalid length " ++ wholeText n ++ ", expected " ++ expected
  | .missingField name => "missing field " ++ ticked name
  | .duplicateField name => "duplicate field " ++ ticked name
  | .unknownVariant name expected =>
    "unknown variant " ++ ticked name ++ ", " ++ alternatives expected
  | .wholeOutOfRange i => "integer " ++ wholeText i ++ " is out of range for a Cypher integer"
  | .emptyOptionGroup => "option group declared with no variants"

end JsonError

end CypherTemplate
