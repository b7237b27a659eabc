import CypherTemplate.Number.Layout

/-!
JSON values as they are written: members keep their order, and whole numbers and doubles are told
apart. The text has no spaces; strings escape quotes, backslashes and controls only.
-/
namespace CypherTemplate

inductive Json where
  | null
  | bool (b : Bool)
  | whole (i : Int)
  | double (d : Double)
  | string (s : String)
  | list (items : List Json)
  | record (members : List (String × Json))
  deriving Inhabited

namespace Json

/-- Digits of a whole number behind its sign. -/
def wholeText : Int → List Char
  | .ofNat n => Nat.toDigits 10 n
  | .negSucc n => '-' :: Nat.toDigits 10 (n + 1)

/-- Decimal exponents from -5 to 15 are written positionally, and a tie goes to the even digit. -/
def layout : Layout := ⟨.even, fun e => -5 ≤ e && e < 16⟩

/-- Numbers without a written form become null. -/
def doubleText : Double → List Char
  | .finite negative rank => layout.finite negative rank
  | _ => "null".toList

/-- Controls without an escape of their own are written by their number. -/
def escapeChar (c : Char) : List Char :=
  match c with
  | '"' => ['\\', '"']
  | '\\' => ['\\', '\\']
  | '\x08' => ['\\', 'b']
  | '\t' => ['\\', 't']
  | '\n' => ['\\', 'n']
  | '\x0c' => ['\\', 'f']
  | '\r' => ['\\', 'r']
  | c =>
    if c.toNat < 0x20 then
      ['\\', 'u', '0', '0', Nat.digitChar (c.toNat / 16), Nat.digitChar (c.toNat % 16)]
    else [c]

def stringText (s : String) : List Char :=
  '"' :: s.toList.flatMap escapeChar ++ ['"']

mutual
/-- The text of a value. -/
def text : Json → List Char
  | .null => "null".toList
  | .bool true => "true".toList
  | .bool false => "false".toList
  | .whole i => wholeText i
  | .double d => doubleText d
  | .string s => stringText s
  | .list items => '[' :: [','].intercalate (itemTexts items) ++ [']']
  | .record members => '\x7b' :: [','].intercalate (memberTexts members) ++ ['\x7d']

def itemTexts : List Json → List (List Char)
  | [] => []
  | j :: js => j.text :: itemTexts js

def memberTexts : List (String × Json) → List (List Char)
  | [] => []
  | (key, j) :: ms => (stringText key ++ ':' :: j.text) :: memberTexts ms
end

/-- The text of a value as a string. -/
def compact (j : Json) : String := String.ofList j.text

mutual
/-- How many brackets and braces are open at once in the text. -/
def depth : Json → Nat
  | .list items => itemsDepth items + 1
  | .record members => membersDepth members + 1
  | _ => 0

def itemsDepth : List Json → Nat
  | [] => 0
  | j :: js => max j.depth (itemsDepth js)

def membersDepth : List (String × Json) → Nat
  | [] => 0
  | (_, j) :: ms => max j.depth (membersDepth ms)
end

end Json

end CypherTemplate
