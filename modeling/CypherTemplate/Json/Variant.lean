import CypherTemplate.Json.Decoder

/-!
Decoders of types with named alternatives. A name comes alone or in front of a payload, as the one
member of a record; it is looked up before the payload is read.
-/
namespace CypherTemplate

/-- One of the alternatives of a type: a bare name, or a name with a payload of some shape. -/
inductive Variant (α : Type) where
  | bare (name : String) (value : α)
  | holding (name : String) (shape : String) (payload : Decoder α)

namespace Variant

variable {α : Type} [DoubleReader]

def name : Variant α → String
  | .bare name _ => name
  | .holding name _ _ => name

/-- The variant written as a name alone. -/
def alone : Variant α → Except JsonError α
  | .bare _ a => .ok a
  | .holding _ shape _ => .error (.wrongType .bareVariant shape)

/-- The variant written with a payload, which is null for a bare name. -/
def payload : Variant α → Decoder α
  | .bare _ a => fun _ o =>
    match o with
    | .null => .ok a
    | o => o.mismatch "unit"
  | .holding _ _ read => read

/-- The variant of a name. -/
def find (vs : List (Variant α)) (name : String) : Except JsonError (Variant α) :=
  match vs.find? (·.name = name) with
  | some v => .ok v
  | none => .error (.unknownVariant name (vs.map Variant.name))

/-- The name in front of a payload. -/
def readName : Outline → Except JsonError String
  | .string s => s.read
  | .list _ _ => .error (.wrongType .sequence "variant identifier")
  | .record _ _ => .error (.wrongType .map "variant identifier")
  | o => o.mismatch "variant identifier"

/-- A name alone, or a record of one member. -/
def decoder (vs : List (Variant α)) : Decoder α := fun budget o =>
  match o with
  | .string s => do
    let v ← find vs (← s.read)
    v.alone
  | .record ms ending => Decoder.within budget fun n =>
    match ms with
    | [] =>
      match ending with
      | .cut => .error .truncated
      | _ => .error .malformed
    | (key, value) :: more => do
      let v ← find vs (← readName key)
      let a ← v.payload n value
      match more with
      | [] => ending.finish
      | _ => throw .malformed
      return a
  | .fault .absent => .error .truncated
  | _ => .error .malformed

end Variant

end CypherTemplate
