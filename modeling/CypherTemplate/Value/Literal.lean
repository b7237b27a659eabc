import CypherTemplate.Json.Basic
import CypherTemplate.Text.Name
import CypherTemplate.Text.Quoted
import CypherTemplate.Value

/-!
Literals of values in query text. Doubles never have an exponent and always have a point, so they
differ from whole numbers; those that are not finite are written as quotients.
-/
namespace CypherTemplate.Value

/-- No exponents, and a tie goes up. -/
def layout : Layout := ⟨.up, fun _ => true⟩

def doubleLiteral : Double → List Char
  | .nan => "0.0/0.0".toList
  | .infinite false => "1.0/0.0".toList
  | .infinite true => "-1.0/0.0".toList
  | .finite negative rank => layout.finite negative rank

mutual
/-- The literal of a value. -/
def literal : Value → List Char
  | .null => "null".toList
  | .bool true => "true".toList
  | .bool false => "false".toList
  | .int i => Json.wholeText i.toInt
  | .double d => doubleLiteral d
  | .string s => Quoted.quote s.toList
  | .list items => '[' :: [',', ' '].intercalate (itemLiterals items) ++ [']']
  | .map entries => '\x7b' :: [',', ' '].intercalate (entryLiterals entries) ++ ['\x7d']

def itemLiterals : List Value → List (List Char)
  | [] => []
  | v :: vs => v.literal :: itemLiterals vs

def entryLiterals : List (String × Value) → List (List Char)
  | [] => []
  | (key, v) :: es => (Name.escape key ++ ':' :: ' ' :: v.literal) :: entryLiterals es
end

end CypherTemplate.Value
