import CypherTemplate.Number.Shortest

/-!
The text of a finite double: its shortest decimal, written with a point between the digits or in
front of an exponent. A format is a record of its decisions.
-/
namespace CypherTemplate

/-- The decisions of a number format. -/
structure Layout where
  tie : Tie
  /-- Whether a number is written without exponent, by the decimal exponent of its first digit. -/
  isPositional : Int → Bool

namespace Layout

/-- Digits with a point; a whole number keeps one zero behind it. -/
def positional (digits : List Char) (exponent : Int) : List Char :=
  let places := (-exponent).toNat
  if places = 0 then digits ++ List.replicate exponent.toNat '0' ++ ['.', '0']
  else if places < digits.length then
    digits.take (digits.length - places) ++ '.' :: digits.drop (digits.length - places)
  else '0' :: '.' :: List.replicate (places - digits.length) '0' ++ digits

/-- One digit before the point, which is left out when no digit follows, and a signed exponent. -/
def scientific (digits : List Char) (first : Int) : List Char :=
  let mantissa :=
    match digits with
    | d :: e :: ds => d :: '.' :: e :: ds
    | ds => ds
  let sign := if first < 0 then '-' else '+'
  mantissa ++ 'e' :: sign :: Nat.toDigits 10 first.natAbs

def decimal (l : Layout) (d : Decimal) : List Char :=
  let digits := Nat.toDigits 10 d.significand
  if l.isPositional (d.size - 1) then positional digits d.exponent
  else scientific digits (d.size - 1)

/-- The text of a finite double; zero keeps its sign. -/
def finite (l : Layout) (negative : Bool) (rank : Nat) : List Char :=
  (if negative then ['-'] else []) ++ l.decimal (Double.shortest l.tie rank)

end Layout

end CypherTemplate
