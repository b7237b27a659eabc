/-!
Entities and the patterns built from them. An entity is a named node or relationship with labels; a
pattern is a node, or a path that leads along a relationship from one node to another.
-/
namespace CypherTemplate

inductive EntityKind where
  | node
  | relationship
  deriving DecidableEq, Repr

structure Entity where
  name : String
  labels : List String
  kind : EntityKind
  deriving DecidableEq, Repr

namespace Entity

def node (name : String) : Entity := ⟨name, [], .node⟩

def relationship (name : String) : Entity := ⟨name, [], .relationship⟩

/-- Adds a label behind the others, unless it is there. -/
def withLabel (e : Entity) (label : String) : Entity :=
  if label ∈ e.labels then e else { e with labels := e.labels ++ [label] }

def withLabels (e : Entity) (labels : List String) : Entity :=
  labels.foldl withLabel e

end Entity

/-- The ends of a path. -/
inductive Endpoint where
  | start
  | stop
  deriving DecidableEq, Repr

inductive Pattern where
  | node (e : Entity)
  /-- A path whose ends may still be missing. -/
  | path (relationship : Entity) (start stop : Option Entity)
  deriving DecidableEq, Repr

/-- A relationship whose start is known. -/
structure PendingPath where
  relationship : Entity
  start : Entity
  deriving DecidableEq, Repr

namespace Entity

/-- Begins a path along a relationship. -/
def startingAt (relationship start : Entity) : PendingPath := ⟨relationship, start⟩

/-- The pattern of an entity alone; a relationship has no ends yet. -/
def toPattern (e : Entity) : Pattern :=
  match e.kind with
  | .node => .node e
  | .relationship => .path e none none

end Entity

namespace PendingPath

/-- Ends a path. -/
def endingAt (p : PendingPath) (stop : Entity) : Pattern :=
  .path p.relationship (some p.start) (some stop)

def toPattern (p : PendingPath) : Pattern :=
  .path p.relationship (some p.start) none

end PendingPath

namespace Pattern

/-- The entities of a pattern as they are written: start, relationship, end. -/
def entities : Pattern → List Entity
  | .node e => [e]
  | .path relationship start stop => start.toList ++ relationship :: stop.toList

end Pattern

end CypherTemplate
