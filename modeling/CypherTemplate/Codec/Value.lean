import CypherTemplate.Context
import CypherTemplate.Error
import CypherTemplate.Json.Decoder

/-!
JSON form of values and contexts. A value is written as the JSON value that it is, so whole numbers
and doubles are told apart by their digits alone; doubles that are not finite are written as null.
-/
namespace CypherTemplate

variable [DoubleReader]

namespace Value

mutual
def toJson : Value → Json
  | .null => .null
  | .bool b => .bool b
  | .int i => .whole i.toInt
  | .double d => .double d
  | .string s => .string s
  | .list items => .list (itemsToJson items)
  | .map entries => .record (entriesToJson entries)

def itemsToJson : List Value → List Json
  | [] => []
  | v :: vs => v.toJson :: itemsToJson vs

def entriesToJson : List (String × Value) → List (String × Json)
  | [] => []
  | (key, v) :: es => (key, v.toJson) :: entriesToJson es
end

/-- The value of a number: whole numbers must fit 64 bits with a sign. -/
def ofNumber : Number → Except JsonError Value
  | .whole i =>
    if Int64.minValue.toInt ≤ i && i ≤ Int64.maxValue.toInt then .ok (.int (Int64.ofInt i))
    else .error (.wholeOutOfRange i)
  | .double d => .ok (.double d)

/-- Reads a value nested less than `level` deep. -/
def decoder : (level : Nat) → Decoder Value
  | 0 => fun _ _ => .error .malformed
  | level + 1 => fun budget o =>
    match o with
    | .null => .ok .null
    | .bool b => .ok (.bool b)
    | .number n => do ofNumber (← n.read)
    | .string s => .string <$> s.read
    | .list items ending => .list <$> Decoder.list (decoder level) budget (.list items ending)
    | .record members ending =>
      ofEntries <$> Decoder.map (decoder level) budget (.record members ending)
    | .fault f => .error f.error

/-- Deeper values than a text can hold. -/
def maxLevel : Nat := 128

def ofJson (text : String) : Except JsonError Value :=
  (decoder maxLevel).read text

end Value

namespace KeyMap

/-- The JSON form of a map of values. -/
def toJson (m : KeyMap Value) : Json := .record (Value.entriesToJson m.entries)

/-- Reads a map of values; of entries with one key the last counts. -/
def decoder : Decoder (KeyMap Value) :=
  (Decoder.map (Value.decoder Value.maxLevel)).as .ofList

end KeyMap

namespace Context

def ofJson (text : String) : Except Error Context :=
  (KeyMap.decoder.read text).mapError .json

end Context

end CypherTemplate
