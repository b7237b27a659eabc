import CypherTemplate.OrderBy

/-!
Query templates: clauses in the order in which they are written. Option groups may stand for whole
clauses as well as for expressions inside them.
-/
namespace CypherTemplate

inductive Clause where
  | matching (patterns : List Pattern)
  | filter (predicate : Expr)
  | returning (items : List Expr)
  | orderBy (order : OrderBy)
  | limit (n : UInt64)
  | option (group : OptionGroup Clause)

structure Template where
  clauses : List Clause

namespace Clause

def optionOf? (variants : List (String × Clause)) : Option Clause :=
  (OptionGroup.ofList? variants).map .option

mutual
/-- Equality of clauses, as a test. -/
def same : Clause → Clause → Bool
  | .matching a, .matching b => a = b
  | .filter a, .filter b => a.same b
  | .returning a, .returning b => Expr.sameAll a b
  | .orderBy a, .orderBy b => sameTokens a.tokens b.tokens
  | .limit a, .limit b => a = b
  | .option a, .option b => sameGroup a b
  | _, _ => false

def sameTokens : List OrderToken → List OrderToken → Bool
  | [], [] => true
  | a :: as, b :: bs => a.same b && sameTokens as bs
  | _, _ => false

def sameGroup : OptionGroup Clause → OptionGroup Clause → Bool
  | .last k a, .last l b => k = l && a.same b
  | .cons k a as, .cons l b bs => k = l && a.same b && sameGroup as bs
  | _, _ => false
end

end Clause

namespace Template

def empty : Template := ⟨[]⟩

/-- Adds a clause behind the others. -/
def add (t : Template) (c : Clause) : Template := ⟨t.clauses ++ [c]⟩

def sameClauses : List Clause → List Clause → Bool
  | [], [] => true
  | a :: as, b :: bs => a.same b && sameClauses as bs
  | _, _ => false

/-- Equality of templates, as a test. -/
def same (a b : Template) : Bool := sameClauses a.clauses b.clauses

end Template

end CypherTemplate
