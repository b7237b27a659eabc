import CypherTemplate.Proofs.Demand
import CypherTemplate.Proofs.ReadableExpr

/-!
Conjunctions. The expressions that are put together by constructors are those in which no
conjunction is an operand of another, whatever is built on top of what. Where a conjunction keeps
its operands as they stand, joining them instead changes nothing that is compiled, as long as none
of them is the empty conjunction: that one has a text of its own, which joining takes away.
-/
namespace CypherTemplate

namespace Expr

/-- The expressions that constructors put together. -/
inductive Constructed : Expr → Prop where
  | property (e : Entity) (key : String) : Constructed (e.property key)
  | literal (v : Value) : Constructed (.literal v)
  | param (name : String) : Constructed (.param name)
  | aliased {inner : Expr} (h : Constructed inner) (name : String) : Constructed (.alias inner name)
  | equal {left right : Expr} (hl : Constructed left) (hr : Constructed right) :
    Constructed (.equal left right)
  | like {left : Expr} (h : Constructed left) (pattern : String) : Constructed (.like left pattern)
  | and {operands : List Expr} (h : ∀ e ∈ operands, Constructed e) : Constructed (.and operands)
  | option {variants : List (String × Expr)} {e : Expr} (h : ∀ v ∈ variants, Constructed v.2)
    (he : optionOf? variants = some e) : Constructed e

/-- Whether an expression stands somewhere in another. -/
inductive Part : Expr → Expr → Prop where
  | self (e : Expr) : Part e e
  | aliased {p inner : Expr} {name : String} (h : Part p inner) : Part p (.alias inner name)
  | left {p left right : Expr} (h : Part p left) : Part p (.equal left right)
  | right {p left right : Expr} (h : Part p right) : Part p (.equal left right)
  | like {p left : Expr} {pattern : String} (h : Part p left) : Part p (.like left pattern)
  | operand {p e : Expr} {operands : List Expr} (he : e ∈ operands) (h : Part p e) :
    Part p (.conj operands)
  | variant {p : Expr} {v : String × Expr} {group : OptionGroup Expr} (hv : v ∈ group.toList)
    (h : Part p v.2) : Part p (.option group)

def isConj : Expr → Bool
  | .conj _ => true
  | _ => false

/-- Whether no conjunction in an expression is an operand of another. -/
def Flattened (e : Expr) : Prop :=
  ∀ operands, Part (.conj operands) e → ∀ x ∈ operands, ¬x.isConj

theorem conjuncts_of_not_isConj {e : Expr} (h : ¬e.isConj) : e.conjuncts = [e] := by
  cases e with
  | conj operands => exact absurd rfl h
  | _ => rfl

/-- Operands that are no conjunctions are kept as they stand. -/
theorem and_eq_conj {operands : List Expr} (h : ∀ x ∈ operands, ¬x.isConj) :
    and operands = .conj operands := by
  have hself : operands.flatMap conjuncts = operands := by
    rw [List.flatMap_congr fun x hx => conjuncts_of_not_isConj (h x hx)]
    exact List.flatMap_singleton' operands
  rw [and, hself]

/-- What a conjunction joins in is an operand, or an operand of one. -/
theorem part_of_mem_conjuncts {e x : Expr} (h : x ∈ e.conjuncts) : Part x e := by
  cases e with
  | conj operands => exact .operand h (.self x)
  | _ => exact List.mem_singleton.1 h ▸ .self _

theorem Part.trans {p e f : Expr} (h : Part p e) (h' : Part e f) : Part p f := by
  induction h' with
  | self => exact h
  | aliased _ ih => exact .aliased ih
  | left _ ih => exact .left ih
  | right _ ih => exact .right ih
  | like _ ih => exact .like ih
  | operand he _ ih => exact .operand he ih
  | variant hv _ ih => exact .variant hv ih

theorem Flattened.part {p e : Expr} (h : Flattened e) (hp : Part p e) : Flattened p :=
  fun operands hconj => h operands (hconj.trans hp)

theorem not_isConj_of_mem_conjuncts {e x : Expr} (h : Flattened e) (hx : x ∈ e.conjuncts) :
    ¬x.isConj := by
  cases e with
  | conj operands => exact h operands (.self _) x hx
  | _ =>
    rw [List.mem_singleton.1 hx]
    exact Bool.false_ne_true

theorem Flattened.and {operands : List Expr} (h : ∀ e ∈ operands, Flattened e) :
    Flattened (and operands) := by
  intro es hpart
  cases hpart with
  | self =>
    intro x hx
    obtain ⟨e, he, hxe⟩ := List.mem_flatMap.1 hx
    exact not_isConj_of_mem_conjuncts (h e he) hxe
  | operand hx hpart =>
    obtain ⟨e, he, hxe⟩ := List.mem_flatMap.1 hx
    exact h e he es (hpart.trans (part_of_mem_conjuncts hxe))

theorem exists_group_of_optionOf? {variants : List (String × Expr)} {e : Expr}
    (h : optionOf? variants = some e) :
    ∃ g : OptionGroup Expr, g.toList = variants ∧ e = .option g := by
  obtain ⟨g, hg, rfl⟩ := Option.map_eq_some_iff.1 h
  exact ⟨g, OptionGroup.toList_of_ofList? hg, rfl⟩

theorem Constructed.flattened {e : Expr} (h : Constructed e) : Flattened e := by
  induction h with
  | property e key => rintro es ⟨⟩
  | literal v => rintro es ⟨⟩
  | param name => rintro es ⟨⟩
  | aliased _ _ ih =>
    intro es hpart
    cases hpart with
    | aliased hpart => exact ih es hpart
  | equal _ _ ihl ihr =>
    intro es hpart
    cases hpart with
    | left hpart => exact ihl es hpart
    | right hpart => exact ihr es hpart
  | like _ _ ih =>
    intro es hpart
    cases hpart with
    | like hpart => exact ih es hpart
  | and _ ih => exact .and ih
  | option _ he ih =>
    obtain ⟨g, rfl, rfl⟩ := exists_group_of_optionOf? he
    intro es hpart
    cases hpart with
    | variant hv hpart => exact ih _ hv es hpart

/-- Constructors miss no flattened expression. -/
theorem Flattened.constructed {e : Expr} (h : Flattened e) : Constructed e := by
  induction e with
  | property entity key => exact .property (.node entity) key
  | literal v => exact .literal v
  | param name => exact .param name
  | aliased inner name ih => exact .aliased (ih (h.part (.aliased (.self inner)))) name
  | equal left right ihl ihr =>
    exact .equal (ihl (h.part (.left (.self left)))) (ihr (h.part (.right (.self right))))
  | like left pattern ih => exact .like (ih (h.part (.like (.self left)))) pattern
  | conj es ih =>
    rw [← and_eq_conj (h es (.self _))]
    exact .and fun e he => ih e he (h.part (.operand he (.self e)))
  | option g ih =>
    have hgroup : optionOf? g.toList = some (.option g) := by rw [optionOf?, g.ofList?_toList]; rfl
    exact .option (fun v hv => ih v hv (h.part (.variant hv (.self v.2)))) hgroup

/-- A conjunction among the operands of another one is the same as its operands in its place. -/
theorem and_and (xs ys zs : List Expr) : and (xs ++ [and ys] ++ zs) = and (xs ++ ys ++ zs) := by
  simp [and, conjuncts]

/-! Conjunctions that are joined where they stand. -/

/-- Whether an expression becomes another when some of its conjunctions, none of them with an empty
one among its operands, are joined. -/
inductive Joins : Expr → Expr → Prop where
  | refl (e : Expr) : Joins e e
  | trans {e f g : Expr} (h : Joins e f) (h' : Joins f g) : Joins e g
  | joined {operands : List Expr} (h : .conj [] ∉ operands) : Joins (.conj operands) (.and operands)
  | aliased {inner inner' : Expr} (h : Joins inner inner') (name : String) :
    Joins (.alias inner name) (.alias inner' name)
  | equal {left left' right right' : Expr} (hl : Joins left left') (hr : Joins right right') :
    Joins (.equal left right) (.equal left' right')
  | like {left left' : Expr} (h : Joins left left') (pattern : String) :
    Joins (.like left pattern) (.like left' pattern)
  | conj (operands : List (Expr × Expr)) (h : ∀ p ∈ operands, Joins p.1 p.2) :
    Joins (.conj (operands.map (·.1))) (.conj (operands.map (·.2)))
  | option (group : OptionGroup (Expr × Expr)) (h : ∀ v ∈ group.toList, Joins v.2.1 v.2.2) :
    Joins (.option (group.map (·.1))) (.option (group.map (·.2)))

theorem pieces_head (strict : Bool) (ctx : Context) (e : Expr) :
    (e.head ctx).pieces strict ctx = e.pieces strict ctx := by
  rw [← pieces_resolve, resolve_head, pieces_resolve]

variable (ctx : Context)

/-- The pieces of the parts that an expression adds to a conjunction. -/
def partsWritten (e : Expr) : List (List Piece) := e.conjuncts.map fun x => (x.resolve ctx).written

theorem written_conj_resolve {operands : List Expr} (h : operands ≠ []) :
    ((conj operands).resolve ctx).written =
      [.word " AND "].intercalate (operands.map fun x => (x.resolve ctx).written) := by
  rw [resolve_conj, written_conj (mt List.map_eq_nil_iff.1 h), List.map_map]
  rfl

theorem written_resolve_eq {e : Expr} (h : e ≠ .conj []) :
    (e.resolve ctx).written = [.word " AND "].intercalate (e.partsWritten ctx) := by
  cases e with
  | conj operands => exact written_conj_resolve ctx fun hnil => h (hnil ▸ rfl)
  | _ => exact (List.append_nil _).symm

theorem conjuncts_ne_nil {e : Expr} (h : e ≠ .conj []) : e.conjuncts ≠ [] := by
  cases e with
  | conj operands => exact fun hnil => h (congrArg conj hnil)
  | _ => exact List.cons_ne_nil _ _

/-- Operands of operands are written one after another, if each operand has some. -/
theorem written_resolve_and {operands : List Expr} (h : .conj [] ∉ operands) :
    ((and operands).resolve ctx).written = ((conj operands).resolve ctx).written := by
  have hne : ∀ e ∈ operands, e ≠ .conj [] := fun e he heq => h (heq ▸ he)
  cases operands with
  | nil => rfl
  | cons x xs =>
    have hflat : (x :: xs).flatMap conjuncts ≠ [] := fun hnil =>
      conjuncts_ne_nil (hne x List.mem_cons_self)
        (List.flatMap_eq_nil_iff.1 hnil x List.mem_cons_self)
    have hparts : ∀ e ∈ x :: xs, e.partsWritten ctx ≠ [] := fun e he =>
      mt List.map_eq_nil_iff.1 (conjuncts_ne_nil (hne e he))
    rw [and, written_conj_resolve ctx hflat, written_conj_resolve ctx (List.cons_ne_nil x xs),
      List.map_congr_left fun e he => written_resolve_eq ctx (hne e he),
      intercalate_map_intercalate _ hparts, List.map_flatMap]
    rfl

theorem leaves_resolve_eq (e : Expr) :
    (e.resolve ctx).leaves = e.conjuncts.flatMap fun x => (x.resolve ctx).leaves := by
  cases e with
  | conj operands => rw [resolve_conj, leaves_conj, List.flatMap_map]; rfl
  | _ => exact (List.append_nil _).symm

theorem leaves_resolve_and (operands : List Expr) :
    ((and operands).resolve ctx).leaves = ((conj operands).resolve ctx).leaves := by
  rw [and, resolve_conj, resolve_conj, leaves_conj, leaves_conj, List.flatMap_map,
    List.flatMap_map, List.flatMap_assoc]
  exact List.flatMap_congr fun e _ => (leaves_resolve_eq ctx e).symm

/-- A conjunction may be joined before it is compiled. -/
theorem pieces_and (strict : Bool) {operands : List Expr} (h : .conj [] ∉ operands) :
    (and operands).pieces strict ctx = (conj operands).pieces strict ctx := by
  have hparts : ∀ e : Expr, e.pieces strict ctx = _ := fun e =>
    (pieces_resolve strict ctx e).symm.trans (pieces_eq strict ctx (optionFree_resolve ctx e))
  rw [hparts, hparts, demands, demands, leaves_resolve_and, written_resolve_and ctx h]

/-- An empty operand has a text of its own, which joining takes away. -/
example : (conj [conj [], literal (.bool false)]).written =
      [.word "true", .word " AND ", .word "false"] ∧
    (and [conj [], literal (.bool false)]).written = [.word "false"] :=
  ⟨rfl, rfl⟩

/-- Whether two expressions are compiled alike wherever they stand. -/
structure Alike (e e' : Expr) : Prop where
  pieces : ∀ strict, e.pieces strict ctx = e'.pieces strict ctx
  implicitAlias : (e.head ctx).implicitAlias? = (e'.head ctx).implicitAlias?
  unsortable : (e.head ctx).unsortable? = (e'.head ctx).unsortable?

variable {ctx} {e e' : Expr}

theorem allPieces_congr (strict : Bool) {operands : List (Expr × Expr)}
    (h : ∀ p ∈ operands, p.1.pieces strict ctx = p.2.pieces strict ctx) :
    allPieces strict ctx (operands.map (·.1)) = allPieces strict ctx (operands.map (·.2)) := by
  induction operands with
  | nil => rfl
  | cons p ps ih =>
    obtain ⟨hp, hps⟩ := List.forall_mem_cons.1 h
    simp only [List.map_cons, allPieces, hp, ih hps]

theorem pieces_conj_congr (strict : Bool) {operands : List (Expr × Expr)}
    (h : ∀ p ∈ operands, p.1.pieces strict ctx = p.2.pieces strict ctx) :
    (conj (operands.map (·.1))).pieces strict ctx =
      (conj (operands.map (·.2))).pieces strict ctx := by
  have hall := allPieces_congr strict h
  cases operands with
  | nil => rfl
  | cons p ps =>
    simp only [List.map_cons] at hall ⊢
    simp only [Expr.pieces, hall]

theorem Joins.alike (ctx : Context) (h : Joins e e') : Alike ctx e e' := by
  induction h with
  | refl e => exact ⟨fun _ => rfl, rfl, rfl⟩
  | trans _ _ ih ih' =>
    exact ⟨fun strict => (ih.pieces strict).trans (ih'.pieces strict),
      ih.implicitAlias.trans ih'.implicitAlias, ih.unsortable.trans ih'.unsortable⟩
  | joined h => exact ⟨fun strict => (pieces_and ctx strict h).symm, rfl, rfl⟩
  | aliased _ name ih => exact ⟨fun strict => by simp only [Expr.pieces, ih.pieces], rfl, rfl⟩
  | equal _ _ ihl ihr =>
    exact ⟨fun strict => by simp only [Expr.pieces, ihl.pieces, ihr.pieces], rfl, rfl⟩
  | like _ pattern ih => exact ⟨fun strict => by simp only [Expr.pieces, ih.pieces], rfl, rfl⟩
  | conj operands _ ih =>
    exact ⟨fun strict => pieces_conj_congr strict fun p hp => (ih p hp).pieces strict, rfl, rfl⟩
  | option g _ ih =>
    -- Both groups take the same variant, which stands in both forms in the group of pairs.
    obtain ⟨v, hv, htaken⟩ := g.resolve_mem ctx
    have hv' := ih v hv
    constructor
    · intro strict
      rw [pieces_option, pieces_option, OptionGroup.resolve_map, OptionGroup.resolve_map, htaken]
      exact hv'.pieces strict
    · rw [head_option, head_option, OptionGroup.resolve_map, OptionGroup.resolve_map, htaken]
      exact hv'.implicitAlias
    · rw [head_option, head_option, OptionGroup.resolve_map, OptionGroup.resolve_map, htaken]
      exact hv'.unsortable

theorem Alike.itemPieces (h : Alike ctx e e') (implicit strict : Bool) :
    e.itemPieces implicit strict ctx = e'.itemPieces implicit strict ctx := by
  rw [Expr.itemPieces, Expr.itemPieces, h.pieces, h.implicitAlias]

theorem Alike.fieldPieces (h : Alike ctx e e') (strict : Bool) :
    e.fieldPieces strict ctx = e'.fieldPieces strict ctx := by
  rw [Expr.fieldPieces, Expr.fieldPieces, h.unsortable, pieces_head, pieces_head, h.pieces]

theorem allItemPieces_congr {es es' : List Expr} (h : List.Forall₂ (Alike ctx) es es')
    (implicit strict : Bool) :
    allItemPieces implicit strict ctx es = allItemPieces implicit strict ctx es' := by
  induction h with
  | nil => rfl
  | cons he _ ih => rw [allItemPieces, allItemPieces, he.itemPieces, ih]

end Expr

namespace OrderToken

inductive Joins : OrderToken → OrderToken → Prop where
  | field {e e' : Expr} (h : e.Joins e') : Joins (.field e) (.field e')
  | direction (d : Direction) : Joins (.direction d) (.direction d)

end OrderToken

namespace SortKey

def Joins (k k' : SortKey) : Prop := k.1.Joins k'.1 ∧ k.2 = k'.2

theorem allPieces_congr (ctx : Context) {ks ks' : List SortKey} (h : List.Forall₂ Joins ks ks')
    (strict : Bool) : allPieces strict ctx ks = allPieces strict ctx ks' := by
  induction h with
  | nil => rfl
  | cons hk _ ih =>
    rw [allPieces, allPieces, ih, pieces, pieces, (hk.1.alike ctx).fieldPieces, hk.2]

end SortKey

namespace OrderBy

/-- Whether two orders have keys that join, or fail alike. -/
inductive KeysJoin : Except Error (List SortKey) → Except Error (List SortKey) → Prop where
  | ok {ks ks' : List SortKey} (h : List.Forall₂ SortKey.Joins ks ks') : KeysJoin (.ok ks) (.ok ks')
  | error (err : Error) : KeysJoin (.error err) (.error err)

theorem KeysJoin.append {ks ks' : List SortKey} {r r' : Except Error (List SortKey)}
    (h : List.Forall₂ SortKey.Joins ks ks') (hr : KeysJoin r r') :
    KeysJoin (do return ks ++ (← r)) (do return ks' ++ (← r')) := by
  cases hr with
  | ok hrest => exact .ok (List.rel_append h hrest)
  | error err => exact .error err

/-- The fields of an order have no say in how its directions are attached. -/
theorem keysAfter_joins {last last' : Option SortKey} {ts ts' : List OrderToken}
    (hlast : Option.Rel SortKey.Joins last last') (h : List.Forall₂ OrderToken.Joins ts ts') :
    KeysJoin (keysAfter last ts) (keysAfter last' ts') := by
  have hkeys : ∀ {last last' : Option SortKey}, Option.Rel SortKey.Joins last last' →
      List.Forall₂ SortKey.Joins last.toList last'.toList := by
    rintro _ _ (⟨hk⟩ | _)
    · exact .cons hk .nil
    · exact .nil
  induction h generalizing last last' with
  | nil => exact .ok (hkeys hlast)
  | cons ht _ ih =>
    cases ht with
    | field he => exact .append (hkeys hlast) (ih (.some ⟨he, rfl⟩))
    | direction d =>
      cases hlast with
      | none => exact .error _
      | @some k k' hk =>
        obtain ⟨e, d₁⟩ := k
        obtain ⟨e', d₂⟩ := k'
        obtain ⟨he, rfl⟩ : e.Joins e' ∧ d₁ = d₂ := hk
        cases d₁ with
        | none => exact ih (.some ⟨he, rfl⟩)
        | some d' => exact .error _

end OrderBy

namespace Clause

inductive Joins : Clause → Clause → Prop where
  | refl (c : Clause) : Joins c c
  | filter {e e' : Expr} (h : e.Joins e') : Joins (.filter e) (.filter e')
  | returning {es es' : List Expr} (h : List.Forall₂ Expr.Joins es es') :
    Joins (.returning es) (.returning es')
  | orderBy {o o' : OrderBy} (h : List.Forall₂ OrderToken.Joins o.tokens o'.tokens) :
    Joins (.orderBy o) (.orderBy o')
  | option (group : OptionGroup (Clause × Clause)) (h : ∀ v ∈ group.toList, Joins v.2.1 v.2.2) :
    Joins (.option (group.map (·.1))) (.option (group.map (·.2)))

variable (config : Config) (ctx : Context)

theorem pieces_congr {c c' : Clause} (h : Joins c c') (scope : Scope) :
    c.pieces config ctx scope = c'.pieces config ctx scope := by
  induction h with
  | refl c => rfl
  | filter h => rw [pieces, pieces, (h.alike ctx).pieces]
  | returning h =>
    have hitems := Expr.allItemPieces_congr (h.imp fun _ _ he => he.alike ctx)
      config.implicitAlias config.strictNames
    cases h with
    | nil => rfl
    | cons he hes => simp only [pieces, hitems]
  | @orderBy o o' h =>
    have hkeys : OrderBy.KeysJoin o.sortKeys o'.sortKeys := OrderBy.keysAfter_joins .none h
    rw [pieces, pieces]
    generalize o.sortKeys = keys at hkeys ⊢
    generalize o'.sortKeys = keys' at hkeys ⊢
    cases hkeys with
    | error err => rfl
    | ok hks =>
      have hall := SortKey.allPieces_congr ctx hks config.strictNames
      cases hks with
      | nil => rfl
      | cons hk hks => simp only [bind, Except.bind, hall]
  | option g _ ih =>
    obtain ⟨v, hv, htaken⟩ := g.resolve_mem ctx
    rw [pieces_option, pieces_option, OptionGroup.resolve_map, OptionGroup.resolve_map, htaken]
    exact ih v hv

theorem allPieces_congr {cs cs' : List Clause} (h : List.Forall₂ Joins cs cs') (scope : Scope) :
    allPieces config ctx scope cs = allPieces config ctx scope cs' := by
  induction h generalizing scope with
  | nil => rfl
  | cons hc _ ih => simp only [allPieces, pieces_congr config ctx hc, ih]

end Clause

namespace Template

/-- Whether a template becomes another when conjunctions anywhere in it are joined. -/
def Joins (t t' : Template) : Prop := List.Forall₂ Clause.Joins t.clauses t'.clauses

theorem compile_eq_of_joins {t t' : Template} (h : t.Joins t') (ctx : Context) (config : Config) :
    t.compile ctx config = t'.compile ctx config := by
  rw [compile, compile, pieces, pieces, Clause.allPieces_congr config ctx h]

/-- Constructors put together just the expressions in which no conjunction is an operand of another;
joining is associative, whether or not conjunctions are empty; and raw conjunctions without empty
ones among their operands may be joined anywhere in a template, which compiles to the same query or
fails with the same error. -/
theorem conjunctions_joined :
    (∀ e : Expr, e.Constructed ↔ e.Flattened) ∧
    (∀ xs ys zs : List Expr, Expr.and (xs ++ [.and ys] ++ zs) = .and (xs ++ ys ++ zs)) ∧
    (∀ xs : List Expr, (∀ x ∈ xs, ¬x.isConj) → Expr.and xs = .conj xs) ∧
    ∀ t t' : Template, t.Joins t' → ∀ (ctx : Context) (config : Config),
      t.compile ctx config = t'.compile ctx config :=
  ⟨fun _ => ⟨Expr.Constructed.flattened, Expr.Flattened.constructed⟩, Expr.and_and,
    fun _ => Expr.and_eq_conj, fun _ _ => compile_eq_of_joins⟩

def nested : Template := ⟨[.filter (.conj [.conj [.param "a"], .param "b"])]⟩

def unnested : Template := ⟨[.filter (.conj [.param "a", .param "b"])]⟩

def bothBound : Context := .ofList [("a", .bool true), ("b", .null)]

theorem compile_nested :
    nested.Joins unnested ∧ nested.compile bothBound {} = unnested.compile bothBound {} ∧
    (unnested.compile bothBound {}).map (·.text) = .ok "WHERE \x7ba\x7d AND \x7bb\x7d" := by
  have hjoined : Expr.Joins (.conj [.conj [.param "a"], .param "b"])
      (.conj [.param "a", .param "b"]) :=
    .joined (by simp)
  have hjoins : nested.Joins unnested := .cons (.filter hjoined) .nil
  exact ⟨hjoins, conjunctions_joined.2.2.2 _ _ hjoins _ _, rfl⟩

end Template

end CypherTemplate
