import CypherTemplate.Value

/-!
Execution contexts: the values that bind parameters and select variants. A key selects when it is
bound to anything but null and false.
-/
namespace CypherTemplate

abbrev Context := KeyMap Value

namespace Context

def selects (ctx : Context) (key : String) : Bool :=
  (ctx.get? key).any Value.isSelecting

end Context

end CypherTemplate
