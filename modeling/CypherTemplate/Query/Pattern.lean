import CypherTemplate.Query.Expr

/-!
The text of patterns. An entity may be written any number of times, but its name stands for the same
labels and kind wherever it is. Names are checked where they first appear.
-/
namespace CypherTemplate

/-- The entities named so far, the latest first. -/
abbrev Scope := List Entity

namespace Entity

/-- The entity of a name. -/
def find? (scope : Scope) (name : String) : Option Entity :=
  List.find? (·.name = name) scope

/-- The name with its labels. -/
def text (e : Entity) : List Char :=
  e.name.toList ++ e.labels.flatMap Name.label

/-- Brings an entity into scope. -/
def declare (strict : Bool) (scope : Scope) (e : Entity) : Except Error Scope :=
  match find? scope e.name with
  | some d => if d = e then .ok scope else .error (.duplicateEntityName e.name)
  | none => do
    checkVariable strict e.name
    return e :: scope

/-- An entity in its delimiters, which must be those of its kind. -/
def pieces (strict : Bool) (kind : EntityKind) (opening closing : String) (scope : Scope)
    (e : Entity) : Except Error (List Piece × Scope) := do
  if e.kind ≠ kind then throw (.misplacedEntity e.name e.kind)
  let scope ← e.declare strict scope
  return ([.word opening, .text e.text, .word closing], scope)

end Entity

namespace Pattern

/-- An end of a path that has to be there. -/
def require (relationship : Entity) (missing : Endpoint) : Option Entity → Except Error Entity
  | some e => .ok e
  | none => .error (.incompletePattern relationship.name missing)

def pieces (strict : Bool) (scope : Scope) : Pattern → Except Error (List Piece × Scope)
  | .node e => e.pieces strict .node "(" ")" scope
  | .path relationship start stop => do
    if relationship.kind ≠ .relationship then
      throw (.misplacedEntity relationship.name relationship.kind)
    let start ← require relationship .start start
    let stop ← require relationship .stop stop
    let (ps, scope) ← start.pieces strict .node "(" ")" scope
    let (qs, scope) ← relationship.pieces strict .relationship "-[" "]->" scope
    let (rs, scope) ← stop.pieces strict .node "(" ")" scope
    return (ps ++ qs ++ rs, scope)

/-- Patterns one after another, each in the scope that those before it leave. -/
def allPieces (strict : Bool) : Scope → List Pattern → Except Error (List (List Piece) × Scope)
  | scope, [] => return ([], scope)
  | scope, p :: ps => do
    let (qs, scope) ← p.pieces strict scope
    let (rest, scope) ← allPieces strict scope ps
    return (qs :: rest, scope)

end Pattern

end CypherTemplate
