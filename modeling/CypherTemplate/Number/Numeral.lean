import CypherTemplate.Number.Double

/-!
Written numbers: the digits of a numeral as they stand in a text, the decimal they denote, and the
doubles named by a text.
-/
namespace CypherTemplate

structure Numeral where
  negative : Bool
  whole : List Char
  fraction : List Char
  exponent : Int
  /-- Whether the numeral has neither a point nor an exponent. -/
  isWhole : Bool
  deriving DecidableEq, Repr

namespace Numeral

/-- All digits before the exponent, read as one number. -/
def significand (n : Numeral) : Nat :=
  Nat.ofDigitChars 10 (n.whole ++ n.fraction) 0

def toDecimal (n : Numeral) : Decimal :=
  ⟨n.significand, n.exponent - n.fraction.length⟩

def toDouble (n : Numeral) : Double :=
  n.toDecimal.toDouble n.negative

end Numeral

/-- An optional sign, and whether it is a minus. -/
def splitSign : List Char → Bool × List Char
  | '-' :: cs => (true, cs)
  | '+' :: cs => (false, cs)
  | cs => (false, cs)

/-- An exponent behind its mark; nothing at all counts as 0. -/
def exponent? : List Char → Option Int
  | [] => some 0
  | c :: cs =>
    let (negative, digits) := splitSign cs
    if (c = 'e' || c = 'E') && digits != [] && digits.all Char.isDigit then
      let n : Int := Nat.ofDigitChars 10 digits 0
      some (if negative then -n else n)
    else none

/-- A number with digits on at least one side of an optional point. -/
def Numeral.ofChars? (negative : Bool) (cs : List Char) : Option Numeral :=
  let whole := cs.takeWhile Char.isDigit
  let rest := cs.dropWhile Char.isDigit
  let (pointed, rest) :=
    match rest with
    | '.' :: r => (true, r)
    | r => (false, r)
  let fraction := if pointed then rest.takeWhile Char.isDigit else []
  let rest := if pointed then rest.dropWhile Char.isDigit else rest
  if whole = [] && fraction = [] then none
  else (exponent? rest).map fun e => ⟨negative, whole, fraction, e, !pointed && rest = []⟩

/-- The double named by a text: a signed number, infinity or not a number, in any letter case. -/
def Double.ofText? (text : String) : Option Double :=
  let (negative, body) := splitSign text.toList
  let word := String.ofList (body.map Char.toLower)
  if word = "nan" then some .nan
  else if word = "inf" || word = "infinity" then some (.infinite negative)
  else (Numeral.ofChars? negative body).map Numeral.toDouble

end CypherTemplate
