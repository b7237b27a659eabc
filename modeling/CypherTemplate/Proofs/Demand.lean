import CypherTemplate.Proofs.Written

/-!
Compilation in two halves. The demands of a template are all that can make it fail, in the order in
which they are met: the leaves of its expressions, the entities of its patterns and the refusals of
ill-formed parts. A template without option groups compiles if its demands are met, and then to its
written form.
-/
namespace CypherTemplate

/-- What a template asks of its context and of what stands before. -/
inductive Demand where
  | leaf (e : Expr)
  | entity (e : Entity)
  | refusal (e : Error)

namespace Demand

def entity? : Demand → Option Entity
  | .entity e => some e
  | _ => none

/-- Whether a demand is met in every scope. -/
def check (strict : Bool) (ctx : Context) : Demand → Except Error Unit
  | .leaf e => (e.pieces strict ctx).map fun _ => ()
  | .entity _ => .ok ()
  | .refusal e => .error e

/-- Meets a demand in a scope: an entity is declared there. -/
def meet (strict : Bool) (ctx : Context) (scope : Scope) : Demand → Except Error Scope
  | .entity e => e.declare strict scope
  | d => (d.check strict ctx).map fun _ => scope

/-- Checks demands until one is not met. -/
def checkAll (strict : Bool) (ctx : Context) (ds : List Demand) : Except Error Unit :=
  ds.forM (check strict ctx)

/-- Meets demands one after another. -/
def meetAll (strict : Bool) (ctx : Context) (scope : Scope) (ds : List Demand) :
    Except Error Scope :=
  ds.foldlM (meet strict ctx) scope

variable (strict : Bool) (ctx : Context)

@[simp] theorem checkAll_cons (d : Demand) (ds : List Demand) :
    checkAll strict ctx (d :: ds) = (d.check strict ctx).bind fun _ => checkAll strict ctx ds :=
  rfl

theorem checkAll_append (ds es : List Demand) :
    checkAll strict ctx (ds ++ es) =
      (checkAll strict ctx ds).bind fun _ => checkAll strict ctx es := by
  induction ds with
  | nil => rfl
  | cons d ds ih =>
    rw [List.cons_append, checkAll_cons, checkAll_cons, ih]
    cases d.check strict ctx <;> rfl

@[simp] theorem meetAll_nil (scope : Scope) : meetAll strict ctx scope [] = .ok scope := rfl

@[simp] theorem meetAll_cons (scope : Scope) (d : Demand) (ds : List Demand) :
    meetAll strict ctx scope (d :: ds) =
      (d.meet strict ctx scope).bind fun s => meetAll strict ctx s ds :=
  rfl

theorem meetAll_append (scope : Scope) (ds es : List Demand) :
    meetAll strict ctx scope (ds ++ es) =
      (meetAll strict ctx scope ds).bind fun s => meetAll strict ctx s es :=
  List.foldlM_append

/-- Without entities the scope does not matter and stays as it is. -/
theorem meetAll_eq_checkAll (scope : Scope) {ds : List Demand} (h : ∀ e, .entity e ∉ ds) :
    meetAll strict ctx scope ds = (checkAll strict ctx ds).map fun _ => scope := by
  induction ds with
  | nil => rfl
  | cons d ds ih =>
    have hd : d.meet strict ctx scope = (d.check strict ctx).map fun _ => scope := by
      cases d with
      | entity e => exact absurd List.mem_cons_self (h e)
      | _ => rfl
    rw [meetAll_cons, checkAll_cons, hd]
    cases d.check strict ctx with
    | error e => rfl
    | ok u => exact ih fun e he => h e (List.mem_cons_of_mem d he)

end Demand

namespace Expr

/-- An expression asks what its leaves ask. -/
def demands (e : Expr) : List Demand := e.leaves.map .leaf

/-- A field of a sort order must be a leaf. -/
def fieldDemands (e : Expr) : List Demand :=
  match e.unsortable? with
  | some kind => [.refusal (.invalidOrderBy (.unsortable kind))]
  | none => e.demands

variable (strict : Bool) (ctx : Context)

theorem demands_equal (left right : Expr) :
    (equal left right).demands = left.demands ++ right.demands := by
  simp [demands, leaves]

theorem demands_conj (es : List Expr) : (conj es).demands = es.flatMap demands := by
  unfold demands
  rw [leaves_conj, List.map_flatMap]

theorem entity_notMem_demands (e : Expr) (x : Entity) : .entity x ∉ e.demands := by
  simp [demands]

theorem entity_notMem_fieldDemands (e : Expr) (x : Entity) : .entity x ∉ e.fieldDemands := by
  unfold fieldDemands
  split
  · simp
  · exact e.entity_notMem_demands x

theorem checkAll_leaf {e : Expr} (h : e.isLeaf) :
    Demand.checkAll strict ctx e.demands = (e.pieces strict ctx).map fun _ => () := by
  rw [demands, leaves_of_isLeaf h, List.map_singleton, Demand.checkAll_cons, Demand.check]
  cases e.pieces strict ctx <;> rfl

theorem allPieces_eq {es : List Expr}
    (h : ∀ e ∈ es, e.pieces strict ctx =
      (Demand.checkAll strict ctx e.demands).map fun _ => e.written) :
    allPieces strict ctx es =
      (Demand.checkAll strict ctx (es.flatMap demands)).map fun _ => es.map written := by
  induction es with
  | nil => rfl
  | cons e es ih =>
    rw [allPieces, h e (by simp), ih fun e he => h e (by simp [he]), List.flatMap_cons,
      Demand.checkAll_append]
    cases Demand.checkAll strict ctx e.demands with
    | error err => rfl
    | ok u => cases Demand.checkAll strict ctx (es.flatMap demands) <;> rfl

/-- An expression is written once its leaves are checked. -/
theorem pieces_eq {e : Expr} (h : e.OptionFree) :
    e.pieces strict ctx = (Demand.checkAll strict ctx e.demands).map fun _ => e.written := by
  induction e with
  | property entity key =>
    rw [checkAll_leaf strict ctx rfl, pieces]
    cases checkVariable strict entity <;> rfl
  | literal v => rfl
  | param name =>
    rw [checkAll_leaf strict ctx rfl, pieces, paramPiece]
    split
    · rfl
    · split <;> rfl
  | aliased inner name ih =>
    have hd : (Expr.alias inner name).demands = inner.demands := rfl
    rw [pieces, ih h, hd]
    cases Demand.checkAll strict ctx inner.demands <;> rfl
  | equal left right ihl ihr =>
    rw [pieces, ihl h.1, ihr h.2, demands_equal, Demand.checkAll_append]
    cases Demand.checkAll strict ctx left.demands with
    | error err => rfl
    | ok u => cases Demand.checkAll strict ctx right.demands <;> rfl
  | like left pattern ih =>
    have hd : (like left pattern).demands = left.demands := rfl
    rw [pieces, ih h, hd]
    cases Demand.checkAll strict ctx left.demands <;> rfl
  | conj es ih =>
    have hes := allPieces_eq strict ctx fun e he => ih e he (allOptionFree_iff.1 h e he)
    rw [demands_conj]
    cases es with
    | nil => rfl
    | cons e es =>
      rw [pieces, hes, written_conj (List.cons_ne_nil e es)]
      · cases Demand.checkAll strict ctx ((e :: es).flatMap demands) <;> rfl
      · exact List.cons_ne_nil e es
  | option g => exact h.elim

theorem itemPieces_eq (implicit : Bool) {e : Expr} (h : e.OptionFree) :
    e.itemPieces implicit strict ctx =
      (Demand.checkAll strict ctx e.demands).map fun _ => e.itemWritten implicit := by
  unfold itemPieces itemWritten
  rw [pieces_eq strict ctx h, head_of_optionFree ctx h]
  cases Demand.checkAll strict ctx e.demands with
  | error err => rfl
  | ok u => cases implicit <;> cases e.implicitAlias? <;> rfl

theorem allItemPieces_eq (implicit : Bool) {es : List Expr} (h : ∀ e ∈ es, e.OptionFree) :
    allItemPieces implicit strict ctx es =
      (Demand.checkAll strict ctx (es.flatMap demands)).map fun _ =>
        es.map (itemWritten implicit) := by
  induction es with
  | nil => rfl
  | cons e es ih =>
    rw [allItemPieces, itemPieces_eq strict ctx implicit (h e (by simp)),
      ih fun e he => h e (by simp [he]), List.flatMap_cons, Demand.checkAll_append]
    cases Demand.checkAll strict ctx e.demands with
    | error err => rfl
    | ok u => cases Demand.checkAll strict ctx (es.flatMap demands) <;> rfl

theorem fieldPieces_eq {e : Expr} (h : e.OptionFree) :
    e.fieldPieces strict ctx =
      (Demand.checkAll strict ctx e.fieldDemands).map fun _ => e.written := by
  unfold fieldPieces fieldDemands
  rw [head_of_optionFree ctx h]
  cases e.unsortable? with
  | some kind => rfl
  | none => exact pieces_eq strict ctx h

end Expr

namespace SortKey

theorem allPieces_eq (strict : Bool) (ctx : Context) {ks : List SortKey}
    (h : ∀ k ∈ ks, k.1.OptionFree) :
    allPieces strict ctx ks =
      (Demand.checkAll strict ctx ((ks.map (·.1)).flatMap Expr.fieldDemands)).map fun _ =>
        ks.map written := by
  induction ks with
  | nil => rfl
  | cons k ks ih =>
    obtain ⟨e, d⟩ := k
    have he : e.OptionFree := h (e, d) (by simp)
    have hfst : ((e, d) :: ks).map (·.1) = e :: ks.map (·.1) := rfl
    rw [allPieces, pieces, Expr.fieldPieces_eq strict ctx he, ih fun k hk => h k (by simp [hk]),
      hfst, List.flatMap_cons, Demand.checkAll_append]
    cases Demand.checkAll strict ctx e.fieldDemands with
    | error err => rfl
    | ok u =>
      cases Demand.checkAll strict ctx ((ks.map (·.1)).flatMap Expr.fieldDemands) <;> cases d <;> rfl

end SortKey

namespace Entity

/-- An entity is declared once its place is right. -/
def demands (kind : EntityKind) (e : Entity) : List Demand :=
  if e.kind ≠ kind then [.refusal (.misplacedEntity e.name e.kind)] else [.entity e]

theorem pieces_eq (strict : Bool) (ctx : Context) (kind : EntityKind) (opening closing : String)
    (scope : Scope) (e : Entity) :
    e.pieces strict kind opening closing scope =
      (Demand.meetAll strict ctx scope (e.demands kind)).map (e.written opening closing, ·) := by
  unfold pieces demands
  split
  · rfl
  · rw [Demand.meetAll_cons, Demand.meet]
    cases e.declare strict scope <;> rfl

end Entity

namespace Pattern

def demands : Pattern → List Demand
  | .node e => e.demands .node
  | .path relationship start stop =>
    if relationship.kind ≠ .relationship then
      [.refusal (.misplacedEntity relationship.name relationship.kind)]
    else match start, stop with
      | none, _ => [.refusal (.incompletePattern relationship.name .start)]
      | some _, none => [.refusal (.incompletePattern relationship.name .stop)]
      | some start, some stop =>
        start.demands .node ++ relationship.demands .relationship ++ stop.demands .node

variable (strict : Bool) (ctx : Context)

theorem pieces_eq (scope : Scope) (p : Pattern) :
    p.pieces strict scope =
      (Demand.meetAll strict ctx scope p.demands).map (p.written, ·) := by
  cases p with
  | node e => exact e.pieces_eq strict ctx .node "(" ")" scope
  | path relationship start stop =>
    by_cases h : relationship.kind = .relationship
    · cases start with
      | none => simp [pieces, demands, require, h]; rfl
      | some start =>
        cases stop with
        | none => simp [pieces, demands, require, h]; rfl
        | some stop =>
          simp only [pieces, demands, h, ne_eq, not_true, if_false, require, bind, Except.bind,
            Entity.pieces_eq strict ctx, Demand.meetAll_append]
          cases Demand.meetAll strict ctx scope (start.demands .node) with
          | error err => rfl
          | ok s =>
            simp only [Except.map]
            cases Demand.meetAll strict ctx s (relationship.demands .relationship) with
            | error err => rfl
            | ok s =>
              simp only
              cases Demand.meetAll strict ctx s (stop.demands .node) with
              | error err => rfl
              | ok s => simp [written, pure, Except.pure]
    · simp [pieces, demands, h]
      rfl

theorem allPieces_eq (scope : Scope) (ps : List Pattern) :
    allPieces strict scope ps =
      (Demand.meetAll strict ctx scope (ps.flatMap demands)).map (ps.map written, ·) := by
  induction ps generalizing scope with
  | nil => rfl
  | cons p ps ih =>
    rw [allPieces, pieces_eq strict ctx, List.flatMap_cons, Demand.meetAll_append]
    cases Demand.meetAll strict ctx scope p.demands with
    | error err => rfl
    | ok s =>
      simp only [Except.map, bind, Except.bind, ih]
      cases Demand.meetAll strict ctx s (ps.flatMap demands) <;> rfl

end Pattern

namespace Clause

def demands : Clause → List Demand
  | .matching [] => [.refusal (.emptyClause .matching)]
  | .matching ps => ps.flatMap Pattern.demands
  | .filter e => e.demands
  | .returning [] => [.refusal (.emptyClause .returning)]
  | .returning es => es.flatMap Expr.demands
  | .orderBy o =>
    match o.sortKeys with
    | .error e => [.refusal e]
    | .ok [] => [.refusal (.emptyClause .orderBy)]
    | .ok _ => o.sortFields.flatMap Expr.fieldDemands
  | .limit _ => []
  | .option _ => []

variable (config : Config) (ctx : Context)

/-- A clause is written once its demands are met. -/
theorem pieces_eq (scope : Scope) {c : Clause} (h : c.OptionFree) :
    c.pieces config ctx scope =
      (Demand.meetAll config.strictNames ctx scope c.demands).map
        (c.written config.implicitAlias, ·) := by
  cases c with
  | matching ps =>
    cases ps with
    | nil => rfl
    | cons p ps =>
      rw [pieces, Pattern.allPieces_eq config.strictNames ctx, demands]
      · cases Demand.meetAll config.strictNames ctx scope ((p :: ps).flatMap Pattern.demands) <;> rfl
      · exact List.cons_ne_nil p ps
      · exact List.cons_ne_nil p ps
  | filter e =>
    rw [pieces, Expr.pieces_eq config.strictNames ctx h, demands,
      Demand.meetAll_eq_checkAll _ _ _ e.entity_notMem_demands]
    cases Demand.checkAll config.strictNames ctx e.demands <;> rfl
  | returning es =>
    cases es with
    | nil => rfl
    | cons e es =>
      have hn : ∀ x, .entity x ∉ (e :: es).flatMap Expr.demands := by
        simp [Expr.entity_notMem_demands]
      rw [pieces, Expr.allItemPieces_eq config.strictNames ctx config.implicitAlias h, demands,
        Demand.meetAll_eq_checkAll _ _ _ hn]
      · cases Demand.checkAll config.strictNames ctx ((e :: es).flatMap Expr.demands) <;> rfl
      · exact List.cons_ne_nil e es
      · exact List.cons_ne_nil e es
  | orderBy o =>
    simp only [pieces, demands, written, OrderBy.keys]
    cases hk : o.sortKeys with
    | error err => rfl
    | ok ks =>
      cases ks with
      | nil => rfl
      | cons k ks =>
        have hfields := OrderBy.map_fst_of_sortKeys hk
        have hf : ∀ k' ∈ k :: ks, k'.1.OptionFree := fun k' hk' =>
          h k'.1 (hfields ▸ List.mem_map_of_mem hk')
        have hn : ∀ x, .entity x ∉ o.sortFields.flatMap Expr.fieldDemands := by
          simp [Expr.entity_notMem_fieldDemands]
        have hp := SortKey.allPieces_eq config.strictNames ctx hf
        rw [hfields] at hp
        simp only [bind, Except.bind, hp, Demand.meetAll_eq_checkAll _ _ scope hn]
        cases Demand.checkAll config.strictNames ctx (o.sortFields.flatMap Expr.fieldDemands) <;> rfl
  | limit n => rfl
  | option g => exact h.elim

theorem allPieces_eq (scope : Scope) {cs : List Clause} (h : ∀ c ∈ cs, c.OptionFree) :
    allPieces config ctx scope cs =
      (Demand.meetAll config.strictNames ctx scope (cs.flatMap demands)).map fun _ =>
        cs.map (written config.implicitAlias) := by
  induction cs generalizing scope with
  | nil => rfl
  | cons c cs ih =>
    have hcs : ∀ d ∈ cs, d.OptionFree := fun d hd => h d (List.mem_cons_of_mem c hd)
    rw [allPieces, pieces_eq config ctx scope (h c List.mem_cons_self), List.flatMap_cons,
      Demand.meetAll_append]
    cases Demand.meetAll config.strictNames ctx scope c.demands with
    | error err => rfl
    | ok s =>
      simp only [Except.map, bind, Except.bind, ih s hcs]
      cases Demand.meetAll config.strictNames ctx s (cs.flatMap demands) <;> rfl

end Clause

namespace Template

def demands (t : Template) : List Demand := t.clauses.flatMap Clause.demands

/-- A template compiles to its written form when its demands are met, and otherwise fails as the
first of them that is not. -/
theorem compile_eq (t : Template) (ctx : Context) (config : Config) :
    t.compile ctx config =
      (Demand.meetAll config.strictNames ctx [] (t.resolve ctx).demands).map fun _ =>
        .ofPieces config.paramStyle ctx ((t.resolve ctx).written config.implicitAlias) := by
  rw [← compile_resolve, compile, pieces,
    Clause.allPieces_eq config ctx [] (t.optionFree_resolve ctx), demands, written]
  cases Demand.meetAll config.strictNames ctx []
    ((t.resolve ctx).clauses.flatMap Clause.demands) <;> rfl

end Template

end CypherTemplate
