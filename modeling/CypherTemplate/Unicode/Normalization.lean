import CypherTemplate.Unicode.CombiningClass
import CypherTemplate.Unicode.Composites
import CypherTemplate.Unicode.Hangul
import CypherTemplate.Unicode.Replacements

/-!
Canonical composition. A text is decomposed in full, its marks are put in canonical order, and
each starter then takes up the marks after it that nothing blocks. Texts that differ only in how
their characters are composed get one form.
-/
namespace CypherTemplate.Unicode

/-- The decomposition of a character outside the syllable block; `n` bounds the chain of composites
whose first characters are composites again. -/
def decomposeWithin : Nat → Char → List Char
  | 0, c => [c]
  | n + 1, c =>
    match composites.find? (·.1 == c.toNat) with
    | some (_, a, b) => decomposeWithin n (Char.ofNat a) ++ [Char.ofNat b]
    | none =>
      match singletons.find? (·.1 == c.toNat) with
      | some (_, a) => [Char.ofNat a]
      | none =>
        match exclusions.find? (·.1 == c.toNat) with
        | some (_, cs) => cs.map Char.ofNat
        | none => [c]

/-- No chain of composites is longer than three, and nothing below U+00C0 decomposes. -/
def decompose (c : Char) : List Char :=
  if c.toNat < 0x00C0 then [c] else (Hangul.decompose c).getD (decomposeWithin 4 c)

/-- Sets a mark before an ordered text, past the marks of lower class. -/
def place (c : Char) : List Char → List Char
  | [] => [c]
  | d :: ds =>
    if 0 < combiningClass d ∧ combiningClass d < combiningClass c then d :: place c ds
    else c :: d :: ds

/-- Canonical order: marks of one base stand by class, those of one class as they stood. -/
def reorder (cs : List Char) : List Char :=
  cs.foldr place []

/-- The composite of two characters, where there is one. No second character lies below U+0300. -/
def composite (a b : Char) : Option Char :=
  if b.toNat < 0x0300 then none
  else
    match Hangul.compose a b with
    | some c => some c
    | none => (composites.find? fun (_, x, y) => x == a.toNat && y == b.toNat).map (Char.ofNat ·.1)

/-- Composes the text after a starter `s`. `held` are the marks that stay apart from it and `last`
is the class of the latest of them, 0 when there is none: a mark is blocked by a held one of the
same or a higher class. -/
def composeAfter (s : Char) (held : List Char) (last : Nat) : List Char → List Char
  | [] => s :: held
  | c :: cs =>
    let k := combiningClass c
    match if 0 < last ∧ k ≤ last then none else composite s c with
    | some r => composeAfter r held last cs
    | none =>
      if k = 0 then s :: held ++ composeAfter c [] 0 cs
      else composeAfter s (held ++ [c]) k cs

/-- Marks before the first starter stay as they are. -/
def compose : List Char → List Char
  | [] => []
  | c :: cs => if combiningClass c = 0 then composeAfter c [] 0 cs else c :: compose cs

/-- Canonical composition of a text. -/
def nfc (cs : List Char) : List Char :=
  compose (reorder (cs.flatMap decompose))

end CypherTemplate.Unicode
