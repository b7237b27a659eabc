import CypherTemplate.Codec.Entity
import CypherTemplate.Codec.Expr
import CypherTemplate.Template

/-!
JSON form of sort orders, clauses and templates.
-/
namespace CypherTemplate

variable [DoubleReader]

namespace Direction

def toJson : Direction → Json
  | .ascending => .string "Ascending"
  | .descending => .string "Descending"

def decoder : Decoder Direction :=
  Variant.decoder [.bare "Ascending" .ascending, .bare "Descending" .descending]

end Direction

namespace OrderToken

def toJson : OrderToken → Json
  | .field e => .record [("Field", e.toJson)]
  | .direction d => .record [("Direction", d.toJson)]

def decoder : Decoder OrderToken :=
  Variant.decoder [
    .holding "Field" "newtype variant" ((Expr.decoder Value.maxLevel).as .field),
    .holding "Direction" "newtype variant" (Direction.decoder.as .direction)]

end OrderToken

namespace OrderBy

def toJson (o : OrderBy) : Json :=
  .record [("tokens", .list (o.tokens.map OrderToken.toJson))]

def fields : Fields (List OrderToken) :=
  .last { name := "tokens", value := Decoder.list OrderToken.decoder }

def decoder : Decoder OrderBy := (fields.decoder "struct OrderBy").as .mk

def ofJson (text : String) : Except JsonError OrderBy := decoder.read text

end OrderBy

namespace Clause

mutual
def toJson : Clause → Json
  | .matching ps => .record [("Match", .list (ps.map Pattern.toJson))]
  | .filter e => .record [("Where", e.toJson)]
  | .returning es => .record [("Return", .list (es.map Expr.toJson))]
  | .orderBy o => .record [("OrderBy", o.toJson)]
  | .limit n => .record [("Limit", .whole n.toNat)]
  | .option g => .record [("Opt", OptionGroup.jsonOf (variantsToJson g))]

def variantsToJson : OptionGroup Clause → List (String × Json)
  | .last key c => [(key, c.toJson)]
  | .cons key c rest => (key, c.toJson) :: variantsToJson rest
end

/-- The forms of a clause, given how its parts are read. -/
def variants (clause : Decoder Clause) : List (Variant Clause) := [
  .holding "Match" "newtype variant" ((Decoder.list Pattern.decoder).as .matching),
  .holding "Where" "newtype variant" ((Expr.decoder Value.maxLevel).as .filter),
  .holding "Return" "newtype variant"
    ((Decoder.list (Expr.decoder Value.maxLevel)).as .returning),
  .holding "OrderBy" "newtype variant" (OrderBy.decoder.as .orderBy),
  .holding "Limit" "newtype variant" (Decoder.count.as .limit),
  .holding "Opt" "newtype variant" ((OptionGroup.decoder clause).as .option)]

/-- Reads a clause nested less than `level` deep. -/
def decoder : (level : Nat) → Decoder Clause
  | 0 => fun _ _ => .error .malformed
  | level + 1 => fun budget o => Variant.decoder (variants (decoder level)) budget o

end Clause

namespace Template

def toJson (t : Template) : Json :=
  .record [("clauses", .list (t.clauses.map Clause.toJson))]

def fields : Fields (List Clause) :=
  .last { name := "clauses", value := Decoder.list (Clause.decoder Value.maxLevel) }

def decoder : Decoder Template := (fields.decoder "struct Cypher").as .mk

def ofJson (text : String) : Except Error Template :=
  (decoder.read text).mapError .json

/-- Whether a template is read back from its own text. -/
def reloads (t : Template) : Bool :=
  match ofJson t.toJson.compact with
  | .ok u => u.same t
  | .error _ => false

end Template

end CypherTemplate
