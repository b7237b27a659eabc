import CypherTemplate.Query.Clause

/-!
Compilation of a template against a context. The query binds exactly the parameters that its text
references, to their values in the context.
-/
namespace CypherTemplate

/-- Query text with the values of its placeholders. -/
structure Query where
  text : String
  parameters : KeyMap Value
  paramStyle : ParamStyle

namespace Context

/-- The entries of some names, as far as they are bound. -/
def restrict (ctx : Context) (names : List String) : KeyMap Value :=
  .ofList (names.filterMap fun name => (ctx.get? name).map (name, ·))

end Context

namespace Query

def hasParameters (q : Query) : Bool := !q.parameters.isEmpty

/-- The query of some pieces. -/
def ofPieces (style : ParamStyle) (ctx : Context) (ps : List Piece) : Query :=
  ⟨String.ofList (Piece.writeAll style ps), ctx.restrict (Piece.params ps), style⟩

end Query

namespace Template

def compile (t : Template) (ctx : Context) (config : Config) : Except Error Query :=
  return .ofPieces config.paramStyle ctx (← t.pieces ctx config)

end Template

end CypherTemplate
