import CypherTemplate.Entity
import CypherTemplate.OptionGroup

/-!
Expressions of query templates. Conjunctions built by `Expr.and` have no conjunction as a direct
operand; expressions that are read are kept as they stand.
-/
namespace CypherTemplate

inductive Expr where
  | property (entity key : String)
  | literal (v : Value)
  | param (name : String)
  | alias (inner : Expr) (name : String)
  | equal (left right : Expr)
  | like (left : Expr) (pattern : String)
  | conj (operands : List Expr)
  | option (group : OptionGroup Expr)

/-- A property of what an entity's name stands for. -/
def Entity.property (e : Entity) (key : String) : Expr := .property e.name key

namespace Expr

/-- The operands that an expression adds to a conjunction. -/
def conjuncts : Expr → List Expr
  | .conj operands => operands
  | e => [e]

/-- The conjunction of some expressions, with the operands of conjunctions among them put in their
place. -/
def and (operands : List Expr) : Expr :=
  .conj (operands.flatMap conjuncts)

/-- The value taken from an option group of expressions, if there are variants. -/
def optionOf? (variants : List (String × Expr)) : Option Expr :=
  (OptionGroup.ofList? variants).map .option

mutual
/-- The expression that the option groups in front of it lead to. -/
def head (ctx : Context) : Expr → Expr
  | .option g =>
    match headSelected? ctx g with
    | some e => e
    | none => headFirst ctx g
  | e => e

def headSelected? (ctx : Context) : OptionGroup Expr → Option Expr
  | .last key e => if ctx.selects key then some (e.head ctx) else none
  | .cons key e rest => if ctx.selects key then some (e.head ctx) else headSelected? ctx rest

def headFirst (ctx : Context) : OptionGroup Expr → Expr
  | .last _ e => e.head ctx
  | .cons _ e _ => e.head ctx
end

mutual
/-- Equality of expressions, as a test. -/
def same : Expr → Expr → Bool
  | .property a b, .property c d => a = c && b = d
  | .literal a, .literal b => a.same b
  | .param a, .param b => a = b
  | .alias a n, .alias b m => a.same b && n = m
  | .equal a b, .equal c d => a.same c && b.same d
  | .like a p, .like b q => a.same b && p = q
  | .conj as, .conj bs => sameAll as bs
  | .option g, .option h => sameGroup g h
  | _, _ => false

def sameAll : List Expr → List Expr → Bool
  | [], [] => true
  | a :: as, b :: bs => a.same b && sameAll as bs
  | _, _ => false

def sameGroup : OptionGroup Expr → OptionGroup Expr → Bool
  | .last k a, .last l b => k = l && a.same b
  | .cons k a as, .cons l b bs => k = l && a.same b && sameGroup as bs
  | _, _ => false
end

end Expr

end CypherTemplate
