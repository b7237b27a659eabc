import CypherTemplate.Proofs.Induction
import CypherTemplate.Query.Compile

/-!
The alias that a returned property gets of its own is a shorthand. It can be written out ahead of
any context, in each variant of an option group, and the template with its aliases written out
compiles without the shorthand to what the template itself compiles to with it.
-/
namespace CypherTemplate

namespace Expr

mutual
/-- A returned expression with the alias written out that a property gets. -/
def withAlias : Expr → Expr
  | .property entity key => .alias (.property entity key) key
  | .option g => .option (withVariantAliases g)
  | e => e

def withVariantAliases : OptionGroup Expr → OptionGroup Expr
  | .last key e => .last key e.withAlias
  | .cons key e rest => .cons key e.withAlias (withVariantAliases rest)
end

/-- A group keeps its keys; what stands under each of them is rewritten for itself. -/
example : (option (.cons "id" (.property "n" "id")
      (.last "both" (.option (.cons "name" (.property "n" "name")
        (.last "all" (.alias (.property "n" "age") "years"))))))).withAlias =
    .option (.cons "id" (.alias (.property "n" "id") "id")
      (.last "both" (.option (.cons "name" (.alias (.property "n" "name") "name")
        (.last "all" (.alias (.property "n" "age") "years")))))) := by
  rfl

theorem withVariantAliases_eq (g : OptionGroup Expr) :
    withVariantAliases g = g.map withAlias := by
  induction g with
  | last key e => rfl
  | cons key e rest ih => rw [withVariantAliases, ih, OptionGroup.map]

@[simp] theorem withAlias_option (g : OptionGroup Expr) :
    (option g).withAlias = .option (g.map withAlias) := by
  rw [withAlias, withVariantAliases_eq]

variable (strict : Bool) (ctx : Context)

/-- An option group is returned as the variant taken, with an alias if that is a property. -/
theorem itemPieces_option (implicit : Bool) (g : OptionGroup Expr) :
    (option g).itemPieces implicit strict ctx = (g.resolve ctx).itemPieces implicit strict ctx := by
  simp only [itemPieces, pieces_option, head_option]

/-- Without the shorthand a returned expression is written like any other. -/
theorem itemPieces_explicit (e : Expr) : e.itemPieces false strict ctx = e.pieces strict ctx := by
  unfold itemPieces
  cases e.pieces strict ctx <;> rfl

theorem itemPieces_of_no_alias {e : Expr} (h : (e.head ctx).implicitAlias? = none) :
    e.itemPieces true strict ctx = e.pieces strict ctx := by
  unfold itemPieces
  rw [h]
  cases e.pieces strict ctx <;> rfl

/-- Writing the alias out and letting it be added come to the same text and the same error. -/
theorem pieces_withAlias (e : Expr) :
    e.withAlias.pieces strict ctx = e.itemPieces true strict ctx := by
  induction e with
  | property entity key => rfl
  | option g ih =>
    -- The alias is decided in the variant taken, which is the same before and after the rewriting.
    obtain ⟨v, hv, htaken⟩ := g.resolve_mem ctx
    rw [withAlias_option, pieces_option, OptionGroup.resolve_map, itemPieces_option, htaken]
    exact ih v hv
  | _ => exact (itemPieces_of_no_alias strict ctx rfl).symm

theorem allItemPieces_withAlias (es : List Expr) :
    allItemPieces false strict ctx (es.map withAlias) = allItemPieces true strict ctx es := by
  induction es with
  | nil => rfl
  | cons e es ih =>
    simp only [List.map_cons, allItemPieces, itemPieces_explicit, pieces_withAlias, ih]

end Expr

namespace Clause

mutual
/-- The clause with the aliases of its returned properties written out. -/
def withAliases : Clause → Clause
  | .returning es => .returning (es.map Expr.withAlias)
  | .option g => .option (withVariantAliases g)
  | c => c

def withVariantAliases : OptionGroup Clause → OptionGroup Clause
  | .last key c => .last key c.withAliases
  | .cons key c rest => .cons key c.withAliases (withVariantAliases rest)
end

theorem withVariantAliases_eq (g : OptionGroup Clause) :
    withVariantAliases g = g.map withAliases := by
  induction g with
  | last key c => rfl
  | cons key c rest ih => rw [withVariantAliases, ih, OptionGroup.map]

@[simp] theorem withAliases_option (g : OptionGroup Clause) :
    (option g).withAliases = .option (g.map withAliases) := by
  rw [withAliases, withVariantAliases_eq]

variable (config : Config) (ctx : Context)

theorem pieces_withAliases (scope : Scope) (c : Clause) :
    c.withAliases.pieces config.withoutImplicitAlias ctx scope =
      c.pieces { config with implicitAlias := true } ctx scope := by
  induction c with
  | matching ps => cases ps <;> rfl
  | filter e => rfl
  | returning es =>
    cases es with
    | nil => rfl
    | cons e es =>
      have hitems := Expr.allItemPieces_withAlias config.strictNames ctx (e :: es)
      rw [List.map_cons] at hitems
      simp only [withAliases, List.map_cons, pieces, Config.withoutImplicitAlias, hitems]
  | orderBy o => rfl
  | limit n => rfl
  | option g ih =>
    obtain ⟨v, hv, htaken⟩ := g.resolve_mem ctx
    rw [withAliases_option, pieces_option, pieces_option, OptionGroup.resolve_map, htaken]
    exact ih v hv

theorem allPieces_withAliases (scope : Scope) (cs : List Clause) :
    allPieces config.withoutImplicitAlias ctx scope (cs.map withAliases) =
      allPieces { config with implicitAlias := true } ctx scope cs := by
  induction cs generalizing scope with
  | nil => rfl
  | cons c cs ih => simp only [List.map_cons, allPieces, pieces_withAliases, ih]

end Clause

namespace Template

/-- The template with the aliases of its returned properties written out. -/
def withAliases (t : Template) : Template := ⟨t.clauses.map Clause.withAliases⟩

/-- The alias of a returned property is nothing but a shorthand: with it a template compiles to the
same query, or fails with the same error, as the template with the aliases written out does without
it. -/
theorem compile_withAliases (t : Template) (ctx : Context) (config : Config) :
    t.withAliases.compile ctx config.withoutImplicitAlias =
      t.compile ctx { config with implicitAlias := true } := by
  have hpieces : t.withAliases.pieces ctx config.withoutImplicitAlias =
      t.pieces ctx { config with implicitAlias := true } := by
    rw [pieces, pieces, withAliases, Clause.allPieces_withAliases]
  rw [compile, compile, hpieces]
  rfl

end Template

end CypherTemplate
