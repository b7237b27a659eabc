import CypherTemplate.Json.Scalar

/-!
Typed reading of an outline. A decoder goes through the outline in the order of the text and reports
the first thing that is wrong with it; it is told how many more lists and records may be open at
once.
-/
namespace CypherTemplate

/-- Reads a value of a type, given how many more lists and records may be opened. -/
abbrev Decoder (α : Type) := Nat → Outline → Except JsonError α

namespace Decoder

variable {α β : Type} [DoubleReader]

/-- Opens a list or record. -/
def within (budget : Nat) (read : Nat → Except JsonError α) : Except JsonError α :=
  match budget with
  | 0 => .error .malformed
  | n + 1 => read n

def string : Decoder String := fun _ o =>
  match o with
  | .string s => s.read
  | o => o.mismatch "a string"

def bool : Decoder Bool := fun _ o =>
  match o with
  | .bool b => .ok b
  | o => o.mismatch "a boolean"

/-- A whole number of 64 bits without sign. -/
def count : Decoder UInt64 := fun _ o =>
  match o with
  | .number n => do
    match ← n.read with
    | .whole (.ofNat i) => return UInt64.ofNat i
    | .whole i => throw (.wrongValue (.whole i) "u64")
    | .double d => throw (.wrongType (.double d) "u64")
  | o => o.mismatch "u64"

def items (item : Outline → Except JsonError α) (ending : Ending) :
    List Outline → Except JsonError (List α)
  | [] => do
    ending.finish
    return []
  | o :: os => return (← item o) :: (← items item ending os)

/-- A list of any length. -/
def list (item : Decoder α) : Decoder (List α) := fun budget o =>
  match o with
  | .list os ending => within budget fun n => items (item n) ending os
  | o => o.mismatch "a sequence"

def members (value : Outline → Except JsonError α) (ending : Ending) :
    List (Outline × Outline) → Except JsonError (List (String × α))
  | [] => do
    ending.finish
    return []
  | (k, o) :: ms => return (← k.readKey, ← value o) :: (← members value ending ms)

/-- A record of any names, as its members in the order of the text. -/
def map (value : Decoder α) : Decoder (List (String × α)) := fun budget o =>
  match o with
  | .record ms ending => within budget fun n => members (value n) ending ms
  | o => o.mismatch "a map"

/-- Null, or a value. -/
def optional (value : Decoder α) : Decoder (Option α) := fun budget o =>
  match o with
  | .null => .ok none
  | o => some <$> value budget o

/-- A list of fixed length has too few items when it is closed behind `n` of them. -/
def short (n : Nat) (expected : String) (ending : Ending) : Except JsonError α := do
  ending.finish
  throw (.wrongLength n expected)

/-- A list of fixed length has nothing behind its last item. -/
def noMore (more : List Outline) (ending : Ending) : Except JsonError Unit :=
  match more with
  | [] => ending.finish
  | _ => .error .malformed

/-- A list of two. `kind` names it where something else is found, and `full` where it is too
short. -/
def pair (kind full : String) (first : Decoder α) (second : Decoder β) : Decoder (α × β) :=
  fun budget o =>
    match o with
    | .list os ending => within budget fun n =>
      match os with
      | [] => short 0 full ending
      | [x] => do
        let _ ← first n x
        short 1 full ending
      | x :: y :: more => do
        let a ← first n x
        let b ← second n y
        noMore more ending
        return (a, b)
    | o => o.mismatch kind

/-- What is made of a value that was read. -/
def as (d : Decoder α) (f : α → β) : Decoder β := fun budget o =>
  f <$> d budget o

/-- What is made of a value that was read, unless it is refused. -/
def check (d : Decoder α) (f : α → Except JsonError β) : Decoder β := fun budget o => do
  f (← d budget o)

/-- Reads a whole text, with nothing but blanks behind the value. At most 127 lists and records may
be open at once. -/
def read (d : Decoder α) (text : String) : Except JsonError α := do
  let (o, isEnd) := Outline.ofChars text.toList
  let a ← d 127 o
  if isEnd then return a else throw .malformed

end Decoder

end CypherTemplate
