/-!
Directions of a sort order.
-/
namespace CypherTemplate

inductive Direction where
  | ascending
  | descending
  deriving DecidableEq, Repr

namespace Direction

/-- The word written for a direction. -/
def token : Direction → String
  | .ascending => "asc"
  | .descending => "desc"

end Direction

end CypherTemplate
