import CypherTemplate.Direction
import CypherTemplate.Entity
import CypherTemplate.Json.Error

/-!
What can be wrong with a template: causes first, and the message of each in one place.
-/
namespace CypherTemplate

/-- The clauses that must have items. -/
inductive ItemClause where
  | matching
  | returning
  | orderBy
  deriving DecidableEq, Repr

namespace ItemClause

def keyword : ItemClause → String
  | .matching => "MATCH"
  | .returning => "RETURN"
  | .orderBy => "ORDER BY"

end ItemClause

/-- Expressions that do not sort. -/
inductive Unsortable where
  | aliased
  | equality
  | likeness
  | conjunction
  | optionGroup
  deriving DecidableEq, Repr

namespace Unsortable

def name : Unsortable → String
  | .aliased => "an aliased expression"
  | .equality => "an equality"
  | .likeness => "a LIKE predicate"
  | .conjunction => "a conjunction"
  | .optionGroup => "an option group"

end Unsortable

inductive OrderFault where
  /-- A direction follows another one. -/
  | repeated (d : Direction)
  /-- A direction has no field before it. -/
  | leading (d : Direction)
  | unsortable (kind : Unsortable)
  | unknownDirection (word : String)
  deriving DecidableEq, Repr

namespace OrderFault

def message : OrderFault → String
  | .repeated d => "direction '" ++ d.token ++ "' follows another direction"
  | .leading d => "direction '" ++ d.token ++ "' has no preceding field"
  | .unsortable kind => "cannot sort by " ++ kind.name
  | .unknownDirection word => "unknown direction '" ++ word ++ "'"

end OrderFault

inductive Error where
  | incompletePattern (relationship : String) (missing : Endpoint)
  | emptyOptionGroup
  | unboundParam (name : String)
  | duplicateEntityName (name : String)
  /-- An entity of this kind stands where the other kind belongs. -/
  | misplacedEntity (name : String) (kind : EntityKind)
  | emptyClause (clause : ItemClause)
  | invalidOrderBy (fault : OrderFault)
  | invalidIdentifier (name : String)
  | json (e : JsonError)
  deriving DecidableEq, Repr

namespace Error

def endpointName : Endpoint → String
  | .start => "from"
  | .stop => "to"

def message : Error → String
  | .incompletePattern name missing =>
    "incomplete pattern: relationship '" ++ name ++ "' has no '" ++ endpointName missing ++
      "' endpoint"
  | .emptyOptionGroup => "option group declared with no variants"
  | .unboundParam name => "unbound parameter '" ++ name ++ "'"
  | .duplicateEntityName name => "duplicate entity name '" ++ name ++ "'"
  | .misplacedEntity name .node =>
    "invalid pattern: '" ++ name ++ "' is a node, not a relationship"
  | .misplacedEntity name .relationship =>
    "invalid pattern: '" ++ name ++ "' is a relationship, not a node"
  | .emptyClause clause => clause.keyword ++ " clause has no items"
  | .invalidOrderBy fault => "invalid ORDER BY: " ++ fault.message
  | .invalidIdentifier name => "invalid Cypher identifier: '" ++ name ++ "'"
  | .json e => "JSON serialization error: " ++ e.message

end Error

end CypherTemplate
