import CypherTemplate.Entity
import CypherTemplate.Json.Fields
import CypherTemplate.Json.Variant

/-!
JSON form of entities and patterns. A missing end of a path is written as null, and may be left out
where it is read.
-/
namespace CypherTemplate

variable [DoubleReader]

namespace EntityKind

def toJson : EntityKind → Json
  | .node => .string "Node"
  | .relationship => .string "Relationship"

def decoder : Decoder EntityKind :=
  Variant.decoder [.bare "Node" .node, .bare "Relationship" .relationship]

end EntityKind

namespace Entity

def toJson (e : Entity) : Json :=
  .record [("name", .string e.name), ("labels", .list (e.labels.map .string)),
    ("kind", e.kind.toJson)]

def fields : Fields (String × List String × EntityKind) :=
  .cons { name := "name", value := Decoder.string } <|
  .cons { name := "labels", value := Decoder.list Decoder.string } <|
  .last { name := "kind", value := EntityKind.decoder }

def decoder : Decoder Entity :=
  (fields.decoder "struct Entity").as fun (name, labels, kind) => ⟨name, labels, kind⟩

end Entity

namespace Pattern

def endToJson : Option Entity → Json
  | some e => e.toJson
  | none => .null

def toJson : Pattern → Json
  | .node e => .record [("Node", e.toJson)]
  | .path relationship start stop =>
    .record [("Path", .record [("rel", relationship.toJson), ("from", endToJson start),
      ("to", endToJson stop)])]

/-- An end that may be missing. -/
def endField (name : String) : Field (Option Entity) :=
  { name, value := Decoder.optional Entity.decoder, absent := some none }

def pathFields : Fields (Entity × Option Entity × Option Entity) :=
  .cons { name := "rel", value := Entity.decoder } <|
  .cons (endField "from") <|
  .last (endField "to")

def decoder : Decoder Pattern :=
  Variant.decoder [
    .holding "Node" "newtype variant" (Entity.decoder.as .node),
    .holding "Path" "struct variant"
      ((pathFields.decoder "struct variant Pattern::Path").as fun (r, s, t) => .path r s t)]

def ofJson (text : String) : Except JsonError Pattern := decoder.read text

end Pattern

end CypherTemplate
