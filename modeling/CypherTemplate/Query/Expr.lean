import CypherTemplate.Error
import CypherTemplate.Expr
import CypherTemplate.Query.Piece
import CypherTemplate.Value.Literal

/-!
The text of expressions. Option groups are followed as they are met, so variants that are not taken
add nothing. A parameter must be bound; where names are strict, it must be a plain identifier, and
the variable of a property must not be a reserved word either.
-/
namespace CypherTemplate

/-- A variable is written as it is, so strict names must need no quoting. -/
def checkVariable (strict : Bool) (name : String) : Except Error Unit :=
  if strict && !Identifier.isVariable name.toList then .error (.invalidIdentifier name) else .ok ()

/-- A reference to a parameter of the context. -/
def paramPiece (strict : Bool) (ctx : Context) (name : String) : Except Error Piece :=
  if strict && !Identifier.isPlain name.toList then .error (.invalidIdentifier name)
  else if (ctx.get? name).isSome then .ok (.param name)
  else .error (.unboundParam name)

/-- The alias written behind an expression. -/
def aliasPieces (name : String) : List Piece :=
  [.word " AS ", .text (Name.escape name)]

namespace Expr

mutual
def pieces (strict : Bool) (ctx : Context) : Expr → Except Error (List Piece)
  | .property entity key => do
    checkVariable strict entity
    return [.text (entity.toList ++ '.' :: Name.escape key)]
  | .literal v => return [.text v.literal]
  | .param name => return [← paramPiece strict ctx name]
  | .alias inner name => return (← inner.pieces strict ctx) ++ aliasPieces name
  | .equal left right =>
    return (← left.pieces strict ctx) ++ .word " = " :: (← right.pieces strict ctx)
  | .like left pattern =>
    return (← left.pieces strict ctx) ++ [.word " LIKE ", .text (Quoted.quote pattern.toList)]
  | .conj [] => return [.word "true"]
  | .conj operands => return [.word " AND "].intercalate (← allPieces strict ctx operands)
  | .option g =>
    match selectedPieces? strict ctx g with
    | some ps => ps
    | none => firstPieces strict ctx g

def allPieces (strict : Bool) (ctx : Context) : List Expr → Except Error (List (List Piece))
  | [] => return []
  | e :: es => return (← e.pieces strict ctx) :: (← allPieces strict ctx es)

def selectedPieces? (strict : Bool) (ctx : Context) :
    OptionGroup Expr → Option (Except Error (List Piece))
  | .last key e => if ctx.selects key then some (e.pieces strict ctx) else none
  | .cons key e rest =>
    if ctx.selects key then some (e.pieces strict ctx) else selectedPieces? strict ctx rest

def firstPieces (strict : Bool) (ctx : Context) : OptionGroup Expr → Except Error (List Piece)
  | .last _ e => e.pieces strict ctx
  | .cons _ e _ => e.pieces strict ctx
end

/-- The alias that a returned expression gets of its own: the key of a property. -/
def implicitAlias? : Expr → Option String
  | .property _ key => some key
  | _ => none

/-- A returned expression; whether it is a property is asked behind its option groups. -/
def itemPieces (implicit strict : Bool) (ctx : Context) (e : Expr) :
    Except Error (List Piece) := do
  let ps ← e.pieces strict ctx
  match implicit, (e.head ctx).implicitAlias? with
  | true, some key => return ps ++ aliasPieces key
  | _, _ => return ps

/-- What keeps an expression from being sorted by. -/
def unsortable? : Expr → Option Unsortable
  | .property _ _ | .literal _ | .param _ => none
  | .alias _ _ => some .aliased
  | .equal _ _ => some .equality
  | .like _ _ => some .likeness
  | .conj _ => some .conjunction
  | .option _ => some .optionGroup

/-- A field of a sort order. -/
def fieldPieces (strict : Bool) (ctx : Context) (e : Expr) : Except Error (List Piece) :=
  match (e.head ctx).unsortable? with
  | some kind => .error (.invalidOrderBy (.unsortable kind))
  | none => (e.head ctx).pieces strict ctx

end Expr

end CypherTemplate
