/-!
Choices of a compilation: how placeholders are written, whether a returned property gets an alias of
its own name, and whether variables and parameters must be plain identifiers.
-/
namespace CypherTemplate

inductive ParamStyle where
  | braces
  | dollar
  deriving DecidableEq, Repr

namespace ParamStyle

def placeholder (s : ParamStyle) (name : List Char) : List Char :=
  match s with
  | .braces => '\x7b' :: name ++ ['\x7d']
  | .dollar => '$' :: name

end ParamStyle

structure Config where
  paramStyle : ParamStyle := .braces
  implicitAlias : Bool := true
  strictNames : Bool := true
  deriving DecidableEq, Repr

namespace Config

def withDollarParams (c : Config) : Config := { c with paramStyle := .dollar }

def withParamStyle (c : Config) (s : ParamStyle) : Config := { c with paramStyle := s }

def withoutImplicitAlias (c : Config) : Config := { c with implicitAlias := false }

def withLenientNames (c : Config) : Config := { c with strictNames := false }

/-- A configuration of which only some choices are made. -/
structure Choices where
  paramStyle : Option ParamStyle := none
  implicitAlias : Option Bool := none
  strictNames : Option Bool := none
  deriving DecidableEq, Repr

/-- The choices that are made, and the default for the others. -/
def ofChoices (c : Choices) : Config :=
  let d : Config := {}
  ⟨c.paramStyle.getD d.paramStyle, c.implicitAlias.getD d.implicitAlias,
    c.strictNames.getD d.strictNames⟩

end Config

end CypherTemplate
