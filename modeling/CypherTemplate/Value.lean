import CypherTemplate.KeyMap
import CypherTemplate.Number.Double

/-!
Values: what parameters are bound to, what contexts hold and what queries hold as literals. The
entries of a map stand in increasing order of their keys wherever a map is built from entries.
-/
namespace CypherTemplate

inductive Value where
  | null
  | bool (b : Bool)
  | int (i : Int64)
  | double (d : Double)
  | string (s : String)
  | list (items : List Value)
  | map (entries : List (String × Value))

namespace Value

/-- The map of some entries, the last of each key counting. -/
def ofEntries (es : List (String × Value)) : Value :=
  .map (KeyMap.ofList es).entries

/-- The list of some things that have values. -/
def ofList {α : Type} (f : α → Value) (xs : List α) : Value :=
  .list (xs.map f)

/-- The value of a thing that may be missing. -/
def ofOption {α : Type} (f : α → Value) : Option α → Value
  | some a => f a
  | none => .null

/-- Whether a key bound to the value selects its variant; zero and the empty string do. -/
def isSelecting : Value → Bool
  | .null | .bool false => false
  | _ => true

def isNull : Value → Bool
  | .null => true
  | _ => false

def string? : Value → Option String
  | .string s => some s
  | _ => none

def int? : Value → Option Int64
  | .int i => some i
  | _ => none

def bool? : Value → Option Bool
  | .bool b => some b
  | _ => none

mutual
/-- Whether the entries of every map, at any depth, are in increasing order of their keys. -/
def Ordered : Value → Prop
  | .list items => OrderedItems items
  | .map entries => Increasing entries ∧ OrderedEntries entries
  | _ => True

def OrderedItems : List Value → Prop
  | [] => True
  | v :: vs => v.Ordered ∧ OrderedItems vs

def OrderedEntries : List (String × Value) → Prop
  | [] => True
  | (_, v) :: es => v.Ordered ∧ OrderedEntries es
end

mutual
/-- Equality of values, as a test. -/
def same : Value → Value → Bool
  | .null, .null => true
  | .bool a, .bool b => a = b
  | .int a, .int b => a = b
  | .double a, .double b => a = b
  | .string a, .string b => a = b
  | .list a, .list b => sameItems a b
  | .map a, .map b => sameEntries a b
  | _, _ => false

def sameItems : List Value → List Value → Bool
  | [], [] => true
  | a :: as, b :: bs => a.same b && sameItems as bs
  | _, _ => false

def sameEntries : List (String × Value) → List (String × Value) → Bool
  | [], [] => true
  | (k, a) :: as, (l, b) :: bs => k = l && a.same b && sameEntries as bs
  | _, _ => false
end

end Value

end CypherTemplate
