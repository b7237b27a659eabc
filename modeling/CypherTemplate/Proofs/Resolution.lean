import CypherTemplate.Proofs.Induction
import CypherTemplate.Query.Compile

/-!
Resolution of option groups ahead of compilation. A resolved template has no group left, and it
compiles to the same query or fails with the same error as the template it comes from, so the
variants that are not taken add nothing.
-/
namespace CypherTemplate

namespace OrderToken

def map (f : Expr → Expr) : OrderToken → OrderToken
  | .field e => .field (f e)
  | .direction d => .direction d

/-- The field that a token names. -/
def field? : OrderToken → Option Expr
  | .field e => some e
  | .direction _ => none

end OrderToken

namespace SortKey

/-- The key with its field changed. -/
def map (f : Expr → Expr) (k : SortKey) : SortKey := (f k.1, k.2)

end SortKey

namespace OrderBy

/-- The order with its fields changed. -/
def map (f : Expr → Expr) (o : OrderBy) : OrderBy := ⟨o.tokens.map (OrderToken.map f)⟩

/-- The fields of an order, in the order of the text. -/
def sortFields (o : OrderBy) : List Expr := o.tokens.filterMap OrderToken.field?

@[simp] theorem sortFields_map (f : Expr → Expr) (o : OrderBy) :
    (o.map f).sortFields = o.sortFields.map f := by
  have h : OrderToken.field? ∘ OrderToken.map f = fun t => t.field?.map f := by
    funext t
    cases t <;> rfl
  simp only [sortFields, map, List.filterMap_map, List.map_filterMap, h]

/-- Directions are attached without a look at the fields. -/
theorem keysAfter_map (f : Expr → Expr) (last : Option SortKey) (ts : List OrderToken) :
    keysAfter (last.map (SortKey.map f)) (ts.map (OrderToken.map f)) =
      (keysAfter last ts).map (List.map (SortKey.map f)) := by
  fun_induction keysAfter last ts with
  | case1 last => cases last <;> rfl
  | case2 last e ts ih =>
    have ih' : keysAfter (some (f e, none)) (ts.map (OrderToken.map f)) = _ := ih
    simp only [List.map_cons, OrderToken.map, keysAfter, ih']
    cases keysAfter (some (e, none)) ts <;> cases last <;> rfl
  | case3 d ts => rfl
  | case4 e d ts ih => exact ih
  | case5 e d' d ts => rfl

theorem sortKeys_map (f : Expr → Expr) (o : OrderBy) :
    (o.map f).sortKeys = o.sortKeys.map (List.map (SortKey.map f)) :=
  keysAfter_map f none o.tokens

end OrderBy

namespace Expr

mutual
/-- The expression with every option group, at any depth, replaced by the variant that is taken. -/
def resolve (ctx : Context) : Expr → Expr
  | .property entity key => .property entity key
  | .literal v => .literal v
  | .param name => .param name
  | .alias inner name => .alias (inner.resolve ctx) name
  | .equal left right => .equal (left.resolve ctx) (right.resolve ctx)
  | .like left pattern => .like (left.resolve ctx) pattern
  | .conj operands => .conj (resolveAll ctx operands)
  | .option g => (resolveVariants ctx g).resolve ctx

def resolveAll (ctx : Context) : List Expr → List Expr
  | [] => []
  | e :: es => e.resolve ctx :: resolveAll ctx es

def resolveVariants (ctx : Context) : OptionGroup Expr → OptionGroup Expr
  | .last key e => .last key (e.resolve ctx)
  | .cons key e rest => .cons key (e.resolve ctx) (resolveVariants ctx rest)
end

mutual
/-- Whether an expression has no option group at any depth. -/
def OptionFree : Expr → Prop
  | .alias inner _ => inner.OptionFree
  | .equal left right => left.OptionFree ∧ right.OptionFree
  | .like left _ => left.OptionFree
  | .conj operands => AllOptionFree operands
  | .option _ => False
  | _ => True

def AllOptionFree : List Expr → Prop
  | [] => True
  | e :: es => e.OptionFree ∧ AllOptionFree es
end

theorem allOptionFree_iff {es : List Expr} : AllOptionFree es ↔ ∀ e ∈ es, e.OptionFree := by
  induction es with
  | nil => simp [AllOptionFree]
  | cons e es ih => simp [AllOptionFree, ih]

theorem resolveAll_eq (ctx : Context) (es : List Expr) :
    resolveAll ctx es = es.map (resolve ctx) := by
  induction es with
  | nil => rfl
  | cons e es ih => rw [resolveAll, ih, List.map_cons]

theorem resolveVariants_eq (ctx : Context) (g : OptionGroup Expr) :
    resolveVariants ctx g = g.map (resolve ctx) := by
  induction g with
  | last key e => rfl
  | cons key e rest ih => rw [resolveVariants, ih, OptionGroup.map]

@[simp] theorem resolve_conj (ctx : Context) (es : List Expr) :
    (conj es).resolve ctx = .conj (es.map (resolve ctx)) := by
  rw [resolve, resolveAll_eq]

/-- A group is replaced by its first selected variant, or else by its first variant. -/
@[simp] theorem resolve_option (ctx : Context) (g : OptionGroup Expr) :
    (option g).resolve ctx = (g.resolve ctx).resolve ctx := by
  rw [resolve, resolveVariants_eq, OptionGroup.resolve_map]

theorem optionFree_resolve (ctx : Context) (e : Expr) : (e.resolve ctx).OptionFree := by
  induction e with
  | property entity key => trivial
  | literal v => trivial
  | param name => trivial
  | aliased inner name ih => exact ih
  | equal left right ihl ihr => exact ⟨ihl, ihr⟩
  | like left pattern ih => exact ih
  | conj es ih =>
    rw [resolve_conj, OptionFree, allOptionFree_iff]
    simpa using ih
  | option g ih =>
    obtain ⟨v, hv, h⟩ := g.resolve_mem ctx
    rw [resolve_option, h]
    exact ih v hv

theorem head_of_optionFree (ctx : Context) {e : Expr} (h : e.OptionFree) : e.head ctx = e := by
  cases e with
  | option g => exact h.elim
  | _ => rfl

/-- Resolution goes the way that the option groups in front lead. -/
theorem resolve_head (ctx : Context) (e : Expr) : (e.head ctx).resolve ctx = e.resolve ctx := by
  induction e with
  | option g ih =>
    obtain ⟨v, hv, h⟩ := g.resolve_mem ctx
    rw [head_option, resolve_option, h]
    exact ih v hv
  | _ => rfl

theorem head_ne_option (ctx : Context) (e : Expr) (g : OptionGroup Expr) :
    e.head ctx ≠ .option g := by
  induction e with
  | option h ih =>
    obtain ⟨v, hv, he⟩ := h.resolve_mem ctx
    rw [head_option, he]
    exact ih v hv
  | _ => simp [head]

/-- Resolution keeps what kind of expression stands behind the option groups in front. -/
theorem implicitAlias?_resolve (ctx : Context) (e : Expr) :
    (e.resolve ctx).implicitAlias? = (e.head ctx).implicitAlias? := by
  rw [← resolve_head]
  cases h : e.head ctx with
  | option g => exact absurd h (head_ne_option ctx e g)
  | _ => simp [resolve, implicitAlias?]

theorem unsortable?_resolve (ctx : Context) (e : Expr) :
    (e.resolve ctx).unsortable? = (e.head ctx).unsortable? := by
  rw [← resolve_head]
  cases h : e.head ctx with
  | option g => exact absurd h (head_ne_option ctx e g)
  | _ => simp [resolve, unsortable?]

theorem allPieces_map (strict : Bool) (ctx : Context) (f : Expr → Expr) {es : List Expr}
    (h : ∀ e ∈ es, (f e).pieces strict ctx = e.pieces strict ctx) :
    allPieces strict ctx (es.map f) = allPieces strict ctx es := by
  induction es with
  | nil => rfl
  | cons e es ih =>
    simp only [List.map_cons, allPieces, h e (by simp), ih fun e he => h e (by simp [he])]

/-- An expression and its resolution have the same text and the same errors. -/
@[simp] theorem pieces_resolve (strict : Bool) (ctx : Context) (e : Expr) :
    (e.resolve ctx).pieces strict ctx = e.pieces strict ctx := by
  induction e with
  | property entity key => rfl
  | literal v => rfl
  | param name => rfl
  | aliased inner name ih => simp only [resolve, pieces, ih]
  | equal left right ihl ihr => simp only [resolve, pieces, ihl, ihr]
  | like left pattern ih => simp only [resolve, pieces, ih]
  | conj es ih =>
    rw [resolve_conj]
    cases es with
    | nil => rfl
    | cons e es =>
      have h := allPieces_map strict ctx (resolve ctx) ih
      rw [List.map_cons] at h ⊢
      simp only [pieces, h]
  | option g ih =>
    obtain ⟨v, hv, h⟩ := g.resolve_mem ctx
    rw [resolve_option, pieces_option, h]
    exact ih v hv

theorem itemPieces_resolve (implicit strict : Bool) (ctx : Context) (e : Expr) :
    (e.resolve ctx).itemPieces implicit strict ctx = e.itemPieces implicit strict ctx := by
  unfold itemPieces
  rw [pieces_resolve, head_of_optionFree ctx (optionFree_resolve ctx e), implicitAlias?_resolve]

theorem fieldPieces_resolve (strict : Bool) (ctx : Context) (e : Expr) :
    (e.resolve ctx).fieldPieces strict ctx = e.fieldPieces strict ctx := by
  have h : (e.resolve ctx).pieces strict ctx = (e.head ctx).pieces strict ctx := by
    rw [← resolve_head, pieces_resolve]
  unfold fieldPieces
  rw [head_of_optionFree ctx (optionFree_resolve ctx e), unsortable?_resolve, h]

theorem allItemPieces_resolve (implicit strict : Bool) (ctx : Context) (es : List Expr) :
    allItemPieces implicit strict ctx (es.map (resolve ctx)) =
      allItemPieces implicit strict ctx es := by
  induction es with
  | nil => rfl
  | cons e es ih => simp only [List.map_cons, allItemPieces, itemPieces_resolve, ih]

end Expr

theorem SortKey.allPieces_resolve (strict : Bool) (ctx : Context) (ks : List SortKey) :
    allPieces strict ctx (ks.map (SortKey.map (Expr.resolve ctx))) = allPieces strict ctx ks := by
  induction ks with
  | nil => rfl
  | cons k ks ih =>
    simp only [List.map_cons, allPieces, pieces, SortKey.map, Expr.fieldPieces_resolve, ih]

namespace Clause

mutual
/-- The clause without option groups that is compiled in a context. -/
def resolve (ctx : Context) : Clause → Clause
  | .matching ps => .matching ps
  | .filter e => .filter (e.resolve ctx)
  | .returning es => .returning (es.map (Expr.resolve ctx))
  | .orderBy o => .orderBy (o.map (Expr.resolve ctx))
  | .limit n => .limit n
  | .option g => (resolveVariants ctx g).resolve ctx

def resolveVariants (ctx : Context) : OptionGroup Clause → OptionGroup Clause
  | .last key c => .last key (c.resolve ctx)
  | .cons key c rest => .cons key (c.resolve ctx) (resolveVariants ctx rest)
end

/-- Whether a clause is no option group and has none in its expressions. -/
def OptionFree : Clause → Prop
  | .filter e => e.OptionFree
  | .returning es => ∀ e ∈ es, e.OptionFree
  | .orderBy o => ∀ e ∈ o.sortFields, e.OptionFree
  | .option _ => False
  | _ => True

theorem resolveVariants_eq (ctx : Context) (g : OptionGroup Clause) :
    resolveVariants ctx g = g.map (resolve ctx) := by
  induction g with
  | last key c => rfl
  | cons key c rest ih => rw [resolveVariants, ih, OptionGroup.map]

@[simp] theorem resolve_option (ctx : Context) (g : OptionGroup Clause) :
    (option g).resolve ctx = (g.resolve ctx).resolve ctx := by
  rw [resolve, resolveVariants_eq, OptionGroup.resolve_map]

theorem optionFree_resolve (ctx : Context) (c : Clause) : (c.resolve ctx).OptionFree := by
  induction c with
  | matching ps => trivial
  | filter e => exact Expr.optionFree_resolve ctx e
  | returning es =>
    intro e he
    obtain ⟨e', _, rfl⟩ := List.mem_map.1 he
    exact Expr.optionFree_resolve ctx e'
  | orderBy o =>
    intro e he
    rw [OrderBy.sortFields_map] at he
    obtain ⟨e', _, rfl⟩ := List.mem_map.1 he
    exact Expr.optionFree_resolve ctx e'
  | limit n => trivial
  | option g ih =>
    obtain ⟨v, hv, h⟩ := g.resolve_mem ctx
    rw [resolve_option, h]
    exact ih v hv

/-- Lazily or ahead of time, groups are followed to the same clause. -/
@[simp] theorem pieces_resolve (config : Config) (ctx : Context) (scope : Scope) (c : Clause) :
    (c.resolve ctx).pieces config ctx scope = c.pieces config ctx scope := by
  induction c with
  | matching ps => rfl
  | filter e => simp only [resolve, pieces, Expr.pieces_resolve]
  | returning es =>
    cases es with
    | nil => rfl
    | cons e es =>
      have h := Expr.allItemPieces_resolve config.implicitAlias config.strictNames ctx (e :: es)
      rw [List.map_cons] at h
      simp only [resolve, List.map_cons, pieces, h]
  | orderBy o =>
    simp only [resolve, pieces, OrderBy.sortKeys_map]
    cases o.sortKeys with
    | error e => rfl
    | ok ks =>
      cases ks with
      | nil => rfl
      | cons k ks =>
        have h := SortKey.allPieces_resolve config.strictNames ctx (k :: ks)
        rw [List.map_cons] at h
        simp only [Except.map, List.map_cons, bind, Except.bind, h]
  | limit n => rfl
  | option g ih =>
    obtain ⟨v, hv, h⟩ := g.resolve_mem ctx
    rw [resolve_option, pieces_option, h]
    exact ih v hv

theorem allPieces_resolve (config : Config) (ctx : Context) (scope : Scope) (cs : List Clause) :
    allPieces config ctx scope (cs.map (resolve ctx)) = allPieces config ctx scope cs := by
  induction cs generalizing scope with
  | nil => rfl
  | cons c cs ih => simp only [List.map_cons, allPieces, pieces_resolve, ih]

end Clause

namespace Template

/-- The template without option groups that is compiled in a context. -/
def resolve (t : Template) (ctx : Context) : Template := ⟨t.clauses.map (Clause.resolve ctx)⟩

def OptionFree (t : Template) : Prop := ∀ c ∈ t.clauses, c.OptionFree

theorem optionFree_resolve (t : Template) (ctx : Context) : (t.resolve ctx).OptionFree := by
  intro c hc
  obtain ⟨c', _, rfl⟩ := List.mem_map.1 hc
  exact Clause.optionFree_resolve ctx c'

theorem compile_resolve (t : Template) (ctx : Context) (config : Config) :
    (t.resolve ctx).compile ctx config = t.compile ctx config := by
  simp only [compile, pieces, resolve, Clause.allPieces_resolve]

/-- Option groups may be resolved before the compilation, which takes the template to the same query
or to the same error. -/
theorem compile_eq_compile_resolve (t : Template) (ctx : Context) (config : Config) :
    (t.resolve ctx).OptionFree ∧
      t.compile ctx config = (t.resolve ctx).compile ctx config :=
  ⟨t.optionFree_resolve ctx, (t.compile_resolve ctx config).symm⟩

end Template

end CypherTemplate
