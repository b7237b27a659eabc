import CypherTemplate.Query.Pattern
import CypherTemplate.Template

/-!
The text of clauses and of whole templates. Clauses are joined by a space; only patterns add to the
scope of those behind them.
-/
namespace CypherTemplate

namespace SortKey

def pieces (strict : Bool) (ctx : Context) (k : SortKey) : Except Error (List Piece) := do
  let ps ← k.1.fieldPieces strict ctx
  match k.2 with
  | some d => return ps ++ [.word " ", .word d.token]
  | none => return ps

def allPieces (strict : Bool) (ctx : Context) : List SortKey → Except Error (List (List Piece))
  | [] => return []
  | k :: ks => return (← pieces strict ctx k) :: (← allPieces strict ctx ks)

end SortKey

namespace Expr

def allItemPieces (implicit strict : Bool) (ctx : Context) :
    List Expr → Except Error (List (List Piece))
  | [] => return []
  | e :: es =>
    return (← e.itemPieces implicit strict ctx) :: (← allItemPieces implicit strict ctx es)

end Expr

/-- Items behind the word of their clause, separated by commas. -/
def listed (word : String) (items : List (List Piece)) : List Piece :=
  .word word :: .word " " :: [.word ", "].intercalate items

namespace Clause

mutual
def pieces (config : Config) (ctx : Context) (scope : Scope) :
    Clause → Except Error (List Piece × Scope)
  | .matching [] => .error (.emptyClause .matching)
  | .matching ps => do
    let (items, scope) ← Pattern.allPieces config.strictNames scope ps
    return (listed "MATCH" items, scope)
  | .filter e => return (listed "WHERE" [← e.pieces config.strictNames ctx], scope)
  | .returning [] => .error (.emptyClause .returning)
  | .returning es => do
    let items ← Expr.allItemPieces config.implicitAlias config.strictNames ctx es
    return (listed "RETURN" items, scope)
  | .orderBy o => do
    match ← o.sortKeys with
    | [] => throw (.emptyClause .orderBy)
    | ks => return (listed "ORDER BY" (← SortKey.allPieces config.strictNames ctx ks), scope)
  | .limit n => return (listed "LIMIT" [[.text (Nat.toDigits 10 n.toNat)]], scope)
  | .option g =>
    match selectedPieces? config ctx scope g with
    | some r => r
    | none => firstPieces config ctx scope g

def selectedPieces? (config : Config) (ctx : Context) (scope : Scope) :
    OptionGroup Clause → Option (Except Error (List Piece × Scope))
  | .last key c => if ctx.selects key then some (c.pieces config ctx scope) else none
  | .cons key c rest =>
    if ctx.selects key then some (c.pieces config ctx scope)
    else selectedPieces? config ctx scope rest

def firstPieces (config : Config) (ctx : Context) (scope : Scope) :
    OptionGroup Clause → Except Error (List Piece × Scope)
  | .last _ c => c.pieces config ctx scope
  | .cons _ c _ => c.pieces config ctx scope
end

/-- Clauses one after another, each in the scope that those before it leave. -/
def allPieces (config : Config) (ctx : Context) : Scope → List Clause →
    Except Error (List (List Piece))
  | _, [] => return []
  | scope, c :: cs => do
    let (ps, scope) ← c.pieces config ctx scope
    return ps :: (← allPieces config ctx scope cs)

end Clause

namespace Template

/-- The pieces of a whole template. -/
def pieces (t : Template) (ctx : Context) (config : Config) : Except Error (List Piece) :=
  return [.word " "].intercalate (← Clause.allPieces config ctx [] t.clauses)

end Template

end CypherTemplate
