/-!
Hangul syllables decompose by arithmetic: a syllable numbers its lead, vowel and tail in a mixed
radix, the tail being absent when its number is 0.
-/
namespace CypherTemplate.Unicode.Hangul

def syllableBase : Nat := 0xAC00
def leadBase : Nat := 0x1100
def vowelBase : Nat := 0x1161
def tailBase : Nat := 0x11A7
def leads : Nat := 19
def vowels : Nat := 21
def tails : Nat := 28

/-- The place of a code point in a block of given base and size. -/
def indexIn (base size : Nat) (c : Char) : Option Nat :=
  if base ≤ c.toNat && c.toNat < base + size then some (c.toNat - base) else none

/-- Lead and vowel, and the tail where the syllable has one. -/
def decompose (c : Char) : Option (List Char) :=
  (indexIn syllableBase (leads * vowels * tails) c).map fun s =>
    let lead := Char.ofNat (leadBase + s / (vowels * tails))
    let vowel := Char.ofNat (vowelBase + s % (vowels * tails) / tails)
    if s % tails = 0 then [lead, vowel] else [lead, vowel, Char.ofNat (tailBase + s % tails)]

/-- A lead and a vowel make a syllable, and a syllable without tail takes one. -/
def compose (a b : Char) : Option Char :=
  match indexIn leadBase leads a, indexIn vowelBase vowels b with
  | some l, some v => some (Char.ofNat (syllableBase + (l * vowels + v) * tails))
  | _, _ =>
    match indexIn syllableBase (leads * vowels * tails) a,
        indexIn (tailBase + 1) (tails - 1) b with
    | some s, some t =>
      if s % tails = 0 then some (Char.ofNat (syllableBase + s + t + 1)) else none
    | _, _ => none

end CypherTemplate.Unicode.Hangul
