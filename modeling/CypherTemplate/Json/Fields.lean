import CypherTemplate.Json.Decoder
import CypherTemplate.Json.Skip

/-!
Decoders of records with known fields. A record is written with names, in any order and with others
among them, or as the list of its fields in declared order.
-/
namespace CypherTemplate

/-- A field of a record, and what it is when it is left out, if it may be. -/
structure Field (α : Type) where
  name : String
  value : Decoder α
  absent : Option α := none

/-- The fields of a record in their declared order; the record is the tuple of their values. -/
inductive Fields : Type → Type 1 where
  | last {α : Type} (f : Field α) : Fields α
  | cons {α β : Type} (f : Field α) (rest : Fields β) : Fields (α × β)

namespace Fields

variable {α : Type}

/-- The values of the fields met so far. -/
def Slots : {α : Type} → Fields α → Type
  | α, .last _ => Option α
  | _, @Fields.cons α _ _ rest => Option α × rest.Slots

def empty : {α : Type} → (fs : Fields α) → fs.Slots
  | _, .last _ => none
  | _, .cons _ rest => (none, rest.empty)

def size : {α : Type} → Fields α → Nat
  | _, .last _ => 1
  | _, .cons _ rest => rest.size + 1

/-- Reads one field into its slot, which must be free. -/
def fill (f : Field α) (budget : Nat) (o : Outline) (slot : Option α) :
    Except JsonError (Option α) :=
  match slot with
  | some _ => .error (.duplicateField f.name)
  | none => some <$> f.value budget o

/-- Reads the member of a record that has a given name; members of unknown names are passed over. -/
def put : {α : Type} → (fs : Fields α) → Nat → String → Outline → fs.Slots →
    Except JsonError fs.Slots
  | _, .last f, budget, name, o, slot =>
    if name = f.name then fill f budget o slot
    else do
      o.skip
      return slot
  | _, .cons f rest, budget, name, o, slots =>
    if name = f.name then return (← fill f budget o slots.1, slots.2)
    else return (slots.1, ← rest.put budget name o slots.2)

def putAll (fs : Fields α) (budget : Nat) (ending : Ending) :
    List (Outline × Outline) → fs.Slots → Except JsonError fs.Slots
  | [], slots => do
    ending.finish
    return slots
  | (key, value) :: ms, slots => do
    let name ← key.readKey
    let slots ← fs.put budget name value slots
    fs.putAll budget ending ms slots

/-- The value of a slot at the end of a record. -/
def take (f : Field α) (slot : Option α) : Except JsonError α :=
  match slot, f.absent with
  | some a, _ => .ok a
  | none, some a => .ok a
  | none, none => .error (.missingField f.name)

def finish : {α : Type} → (fs : Fields α) → fs.Slots → Except JsonError α
  | _, .last f, slot => take f slot
  | _, .cons f rest, slots => return (← take f slots.1, ← rest.finish slots.2)

/-- Reads the fields from a list that has all of them in order; `n` of them were read before. -/
def inOrder : {α : Type} → Fields α → (full : String) → (n budget : Nat) → Ending →
    List Outline → Except JsonError α
  | _, _, full, n, _, ending, [] => Decoder.short n full ending
  | _, .last f, _, _, budget, ending, o :: os => do
    let a ← f.value budget o
    Decoder.noMore os ending
    return a
  | _, .cons f rest, full, n, budget, ending, o :: os =>
    return (← f.value budget o, ← rest.inOrder full (n + 1) budget ending os)

/-- How a record is named where a list is too short for it. -/
def fullName (kind : String) (fs : Fields α) : String :=
  kind ++ " with " ++ String.ofList (Nat.toDigits 10 fs.size) ++
    (if fs.size = 1 then " element" else " elements")

/-- A record, written with names or as the list of its fields. -/
def decoder [DoubleReader] (kind : String) (fs : Fields α) : Decoder α := fun budget o =>
  match o with
  | .list os ending => Decoder.within budget fun n => fs.inOrder (fs.fullName kind) 0 n ending os
  | .record ms ending => Decoder.within budget fun n => do
    fs.finish (← fs.putAll n ending ms fs.empty)
  | o => o.mismatch kind

end Fields

end CypherTemplate
