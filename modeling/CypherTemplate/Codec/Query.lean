import CypherTemplate.Codec.Value
import CypherTemplate.Json.Fields
import CypherTemplate.Json.Variant
import CypherTemplate.Query.Compile

/-!
JSON form of configurations and of compiled queries.
-/
namespace CypherTemplate

variable [DoubleReader]

namespace ParamStyle

def toJson : ParamStyle → Json
  | .braces => .string "Braces"
  | .dollar => .string "Dollar"

def decoder : Decoder ParamStyle :=
  Variant.decoder [.bare "Braces" .braces, .bare "Dollar" .dollar]

end ParamStyle

namespace Config

def toJson (c : Config) : Json :=
  .record [("param_style", c.paramStyle.toJson), ("implicit_return_alias", .bool c.implicitAlias),
    ("strict_identifiers", .bool c.strictNames)]

def fields : Fields (ParamStyle × Bool × Bool) :=
  .cons { name := "param_style", value := ParamStyle.decoder } <|
  .cons { name := "implicit_return_alias", value := Decoder.bool } <|
  .last { name := "strict_identifiers", value := Decoder.bool }

def decoder : Decoder Config :=
  (fields.decoder "struct CompileConfig").as fun (style, implicit, strict) =>
    ⟨style, implicit, strict⟩

def ofJson (text : String) : Except JsonError Config := decoder.read text

end Config

namespace Query

def toJson (q : Query) : Json :=
  .record [("query", .string q.text), ("parameters", q.parameters.toJson),
    ("param_style", q.paramStyle.toJson)]

def fields : Fields (String × KeyMap Value × ParamStyle) :=
  .cons { name := "query", value := Decoder.string } <|
  .cons { name := "parameters", value := KeyMap.decoder } <|
  .last { name := "param_style", value := ParamStyle.decoder }

def decoder : Decoder Query :=
  (fields.decoder "struct CompiledQuery").as fun (text, parameters, style) =>
    ⟨text, parameters, style⟩

def ofJson (text : String) : Except JsonError Query := decoder.read text

end Query

end CypherTemplate
