import CypherTemplate.Codec.Value
import CypherTemplate.Expr
import CypherTemplate.Json.Fields
import CypherTemplate.Json.Variant

/-!
JSON form of option groups and expressions. A group without variants is refused.
-/
namespace CypherTemplate

variable [DoubleReader]

namespace OptionGroup

variable {α : Type}

/-- The JSON form of a group whose variants have the given ones. -/
def jsonOf (variants : List (String × Json)) : Json :=
  .record [("variants", .list (variants.map fun (key, j) => .list [.string key, j]))]

def toJson (value : α → Json) (g : OptionGroup α) : Json :=
  jsonOf (g.toList.map fun (key, a) => (key, value a))

def ofVariants (variants : List (String × α)) : Except JsonError (OptionGroup α) :=
  match ofList? variants with
  | some g => .ok g
  | none => .error .emptyOptionGroup

def variantDecoder (value : Decoder α) : Decoder (String × α) :=
  Decoder.pair "a tuple of size 2" "a tuple of size 2" Decoder.string value

def fields (value : Decoder α) : Fields (List (String × α)) :=
  .last { name := "variants", value := Decoder.list (variantDecoder value) }

def decoder (value : Decoder α) : Decoder (OptionGroup α) :=
  ((fields value).decoder "struct RawOptionGroup").check ofVariants

/-- The group of values in a text. -/
def ofJson (text : String) : Except JsonError (OptionGroup Value) :=
  (decoder (Value.decoder Value.maxLevel)).read text

end OptionGroup

namespace Expr

mutual
def toJson : Expr → Json
  | .property entity key =>
    .record [("Property", .record [("entity", .string entity), ("property", .string key)])]
  | .literal v => .record [("Literal", v.toJson)]
  | .param name => .record [("Param", .string name)]
  | .alias inner name =>
    .record [("Alias", .record [("inner", inner.toJson), ("name", .string name)])]
  | .equal left right => .record [("Eq", .list [left.toJson, right.toJson])]
  | .like left pattern => .record [("Like", .list [left.toJson, .string pattern])]
  | .conj operands => .record [("And", .list (allToJson operands))]
  | .option g => .record [("Opt", OptionGroup.jsonOf (variantsToJson g))]

def allToJson : List Expr → List Json
  | [] => []
  | e :: es => e.toJson :: allToJson es

def variantsToJson : OptionGroup Expr → List (String × Json)
  | .last key e => [(key, e.toJson)]
  | .cons key e rest => (key, e.toJson) :: variantsToJson rest
end

def propertyFields : Fields (String × String) :=
  .cons { name := "entity", value := Decoder.string } <|
  .last { name := "property", value := Decoder.string }

def aliasFields (expr : Decoder Expr) : Fields (Expr × String) :=
  .cons { name := "inner", value := expr } <|
  .last { name := "name", value := Decoder.string }

/-- The pair of a comparison. -/
def comparison {α : Type} (kind : String) (expr : Decoder Expr) (other : Decoder α) :
    Decoder (Expr × α) :=
  Decoder.pair kind (kind ++ " with 2 elements") expr other

/-- The forms of an expression, given how its parts are read. -/
def variants (expr : Decoder Expr) : List (Variant Expr) := [
  .holding "Property" "struct variant"
    ((propertyFields.decoder "struct variant Expression::Property").as fun (e, k) => .property e k),
  .holding "Literal" "newtype variant" ((Value.decoder Value.maxLevel).as .literal),
  .holding "Param" "newtype variant" (Decoder.string.as .param),
  .holding "Alias" "struct variant"
    (((aliasFields expr).decoder "struct variant Expression::Alias").as fun (e, n) => .alias e n),
  .holding "Eq" "tuple variant"
    ((comparison "tuple variant Expression::Eq" expr expr).as fun (l, r) => .equal l r),
  .holding "Like" "tuple variant"
    ((comparison "tuple variant Expression::Like" expr Decoder.string).as fun (l, p) => .like l p),
  .holding "And" "newtype variant" ((Decoder.list expr).as .conj),
  .holding "Opt" "newtype variant" ((OptionGroup.decoder expr).as .option)]

/-- Reads an expression nested less than `level` deep. -/
def decoder : (level : Nat) → Decoder Expr
  | 0 => fun _ _ => .error .malformed
  | level + 1 => fun budget o => Variant.decoder (variants (decoder level)) budget o

end Expr

end CypherTemplate
