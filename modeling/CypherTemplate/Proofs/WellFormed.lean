import Mathlib.Data.List.Chain
import CypherTemplate.Proofs.Demand

/-!
Which templates compile. A template is well-formed when its clauses have their items, its patterns
their entities and its orders their fields, when no name stands for two entities, when its parameters
are bound and, where names are strict, when its names are plain. Exactly the templates whose
resolution is well-formed compile. The scope during the compilation holds the entities met so far,
all of them agreeing.
-/
namespace CypherTemplate

namespace OrderToken

def isDirection : OrderToken → Bool
  | .field _ => false
  | .direction _ => true

end OrderToken

/-- An order that starts with a field, has no two directions in a row and sorts by leaves only. -/
structure OrderBy.WellFormed (o : OrderBy) : Prop where
  starts : ∃ e ts, o.tokens = .field e :: ts
  apart : o.tokens.IsChain fun a b => ¬(a.isDirection ∧ b.isDirection)
  sortable : ∀ e ∈ o.sortFields, e.isLeaf

/-- A node, or a path along a relationship from one node to another. -/
def Pattern.WellFormed : Pattern → Prop
  | .node e => e.kind = .node
  | .path relationship start stop =>
    relationship.kind = .relationship ∧ (∃ e, start = some e ∧ e.kind = .node) ∧
      ∃ e, stop = some e ∧ e.kind = .node

/-- A clause with all its items, each of the right shape. -/
def Clause.WellFormed : Clause → Prop
  | .matching ps => ps ≠ [] ∧ ∀ p ∈ ps, p.WellFormed
  | .returning es => es ≠ []
  | .orderBy o => o.WellFormed
  | _ => True

/-- Whether a name stands for the same labels and kind wherever it is. -/
def Entity.Agreeing (es : List Entity) : Prop :=
  ∀ d ∈ es, ∀ e ∈ es, d.name = e.name → d = e

/-- What a template without option groups must be like to compile. -/
structure Template.WellFormed (strict : Bool) (ctx : Context) (t : Template) : Prop where
  clauses : ∀ c ∈ t.clauses, c.WellFormed
  entities : Entity.Agreeing t.entities
  bound : ∀ name ∈ t.params, (ctx.get? name).isSome
  entityNames : strict → ∀ e ∈ t.entities, Identifier.isVariable e.name.toList
  variableNames : strict → ∀ name ∈ t.variableNames, Identifier.isVariable name.toList
  paramNames : strict → ∀ name ∈ t.params, Identifier.isPlain name.toList

namespace OrderBy

/-- Whether a direction may come next. -/
def isOpen : Option SortKey → Bool
  | some (_, none) => true
  | _ => false

/-- Directions find their fields if none comes behind another one, and none first unless a field
before it is open. -/
theorem exists_keysAfter_iff (last : Option SortKey) (ts : List OrderToken) :
    (∃ ks, keysAfter last ts = .ok ks) ↔
      ts.IsChain (fun a b => ¬(a.isDirection ∧ b.isDirection)) ∧
        (isOpen last ∨ ∀ t ∈ ts.head?, ¬t.isDirection) := by
  fun_induction keysAfter last ts with
  | case1 last => simp
  | case2 last e ts ih =>
    have hopen : isOpen (some (e, none)) = true := rfl
    have hmap : (∃ ks, (do return last.toList ++ (← keysAfter (some (e, none)) ts)) = .ok ks) ↔
        ∃ ks, keysAfter (some (e, none)) ts = .ok ks := by
      cases keysAfter (some (e, none)) ts <;> simp [bind, Except.bind, pure, Except.pure]
    rw [hmap, ih, List.isChain_cons]
    simp [hopen, OrderToken.isDirection]
  | case3 d ts => simp [isOpen, OrderToken.isDirection]
  | case4 e d ts ih =>
    rw [ih, List.isChain_cons]
    simp [isOpen, OrderToken.isDirection, and_comm]
  | case5 e d' d ts => simp [isOpen, OrderToken.isDirection]

/-- There are sort keys, and their directions are in place, if an order starts with a field and has
no two directions in a row. -/
theorem exists_sortKeys_iff (o : OrderBy) :
    (∃ k ks, o.sortKeys = .ok (k :: ks)) ↔
      (∃ e ts, o.tokens = .field e :: ts) ∧
        o.tokens.IsChain fun a b => ¬(a.isDirection ∧ b.isDirection) := by
  constructor
  · rintro ⟨k, ks, h⟩
    have hfields := map_fst_of_sortKeys h
    obtain ⟨hchain, hhead⟩ := (exists_keysAfter_iff none o.tokens).1 ⟨_, h⟩
    refine ⟨?_, hchain⟩
    cases ht : o.tokens with
    | nil => simp [sortFields, ht] at hfields
    | cons t ts =>
      cases t with
      | field e => exact ⟨e, ts, rfl⟩
      | direction d => simp [isOpen, OrderToken.isDirection, ht] at hhead
  · rintro ⟨⟨e, ts, ht⟩, hchain⟩
    have hhead : ∀ t ∈ o.tokens.head?, ¬t.isDirection := by simp [ht, OrderToken.isDirection]
    obtain ⟨ks, hks⟩ := (exists_keysAfter_iff none o.tokens).2 ⟨hchain, .inr hhead⟩
    have hfields := map_fst_of_keysAfter hks
    cases ks with
    | nil => simp [ht, OrderToken.field?] at hfields
    | cons k ks => exact ⟨k, ks, hks⟩

end OrderBy

namespace Expr

/-- Whether a leaf has a good name and, as a parameter, a value. -/
def Allowed (strict : Bool) (ctx : Context) : Expr → Prop
  | .property entity _ => strict → Identifier.isVariable entity.toList
  | .param name => (ctx.get? name).isSome ∧ (strict → Identifier.isPlain name.toList)
  | _ => True

variable (strict : Bool) (ctx : Context)

theorem check_leaf_iff {l : Expr} (h : l.isLeaf) :
    (Demand.leaf l).check strict ctx = .ok () ↔ l.Allowed strict ctx := by
  cases l with
  | property entity key =>
    simp only [Demand.check, pieces, checkVariable, Allowed]
    cases strict <;> cases Identifier.isVariable entity.toList <;>
      simp [bind, Except.bind, Except.map, pure, Except.pure]
  | literal v => simp [Demand.check, pieces, Allowed, Except.map, pure, Except.pure]
  | param name =>
    simp only [Demand.check, pieces, paramPiece, Allowed]
    cases strict <;> cases Identifier.isPlain name.toList <;> cases (ctx.get? name).isSome <;>
      simp [bind, Except.bind, Except.map, pure, Except.pure]
  | _ => simp [isLeaf] at h

theorem forall_check_demands_iff (e : Expr) :
    (∀ d ∈ e.demands, d.check strict ctx = .ok ()) ↔ ∀ l ∈ e.leaves, l.Allowed strict ctx := by
  simp only [demands, List.forall_mem_map]
  exact forall₂_congr fun l hl => check_leaf_iff strict ctx (isLeaf_of_mem_leaves hl)

theorem forall_check_fieldDemands_iff (e : Expr) :
    (∀ d ∈ e.fieldDemands, d.check strict ctx = .ok ()) ↔
      e.isLeaf ∧ ∀ l ∈ e.leaves, l.Allowed strict ctx := by
  unfold fieldDemands
  cases h : e.unsortable? with
  | some kind =>
    have hl : e.isLeaf = false := by
      rw [← Bool.not_eq_true, ← unsortable?_eq_none_iff, h]
      simp
    simp [Demand.check, hl]
  | none => simp [forall_check_demands_iff, unsortable?_eq_none_iff.1 h]

end Expr

namespace Pattern

/-- A pattern of the right shape asks for its entities. -/
theorem demands_of_wellFormed {p : Pattern} (h : p.WellFormed) :
    p.demands = p.entities.map .entity := by
  cases p with
  | node e =>
    have he : e.kind = .node := h
    simp [demands, Entity.demands, entities, he]
  | path relationship start stop =>
    obtain ⟨hr, ⟨a, rfl, ha⟩, b, rfl, hb⟩ := h
    simp [demands, Entity.demands, entities, hr, ha, hb]

theorem forall_check_demands_iff (strict : Bool) (ctx : Context) (p : Pattern) :
    (∀ d ∈ p.demands, d.check strict ctx = .ok ()) ↔ p.WellFormed := by
  refine ⟨fun h => ?_, fun h => ?_⟩
  · cases p with
    | node e =>
      by_contra hn
      have he : ¬e.kind = .node := hn
      simp [demands, Entity.demands, he, Demand.check] at h
    | path relationship start stop =>
      by_cases hr : relationship.kind = .relationship
      · cases start with
        | none => simp [demands, hr, Demand.check] at h
        | some a =>
          cases stop with
          | none => simp [demands, hr, Demand.check] at h
          | some b =>
            refine ⟨hr, ⟨a, rfl, ?_⟩, b, rfl, ?_⟩
            · by_contra ha
              simpa [Entity.demands, ha, Demand.check] using
                h (.refusal (.misplacedEntity a.name a.kind))
                  (by simp [demands, Entity.demands, hr, ha])
            · by_contra hb
              simpa [Entity.demands, hb, Demand.check] using
                h (.refusal (.misplacedEntity b.name b.kind))
                  (by simp [demands, Entity.demands, hr, hb])
      · simp [demands, hr, Demand.check] at h
  · rw [demands_of_wellFormed h]
    simp [Demand.check]

end Pattern

namespace Clause

variable (strict : Bool) (ctx : Context)

theorem forall_check_demands_iff {c : Clause} (h : c.OptionFree) :
    (∀ d ∈ c.demands, d.check strict ctx = .ok ()) ↔
      c.WellFormed ∧ ∀ l ∈ c.leaves, l.Allowed strict ctx := by
  cases c with
  | matching ps =>
    cases ps with
    | nil => simp [demands, WellFormed, Demand.check]
    | cons p ps =>
      simp only [demands, WellFormed, leaves, List.forall_mem_flatMap,
        Pattern.forall_check_demands_iff]
      simp
  | filter e => simp [demands, WellFormed, leaves, Expr.forall_check_demands_iff]
  | returning es =>
    cases es with
    | nil => simp [demands, WellFormed, Demand.check]
    | cons e es =>
      simp only [demands, WellFormed, leaves, List.forall_mem_flatMap,
        Expr.forall_check_demands_iff]
      simp
  | orderBy o =>
    have hkeys := o.exists_sortKeys_iff
    simp only [demands, WellFormed, leaves]
    cases hk : o.sortKeys with
    | error err =>
      have hn : ¬o.WellFormed := fun hw => by
        obtain ⟨k, ks, h⟩ := hkeys.2 ⟨hw.starts, hw.apart⟩
        simp [hk] at h
      simp [Demand.check, hn]
    | ok ks =>
      cases ks with
      | nil =>
        have hn : ¬o.WellFormed := fun hw => by
          obtain ⟨k, ks, h⟩ := hkeys.2 ⟨hw.starts, hw.apart⟩
          simp [hk] at h
        simp [Demand.check, hn]
      | cons k ks =>
        obtain ⟨hs, ha⟩ := hkeys.1 ⟨k, ks, hk⟩
        have hw : o.WellFormed ↔ ∀ e ∈ o.sortFields, e.isLeaf :=
          ⟨fun hw => hw.sortable, fun hl => ⟨hs, ha, hl⟩⟩
        simp only [List.forall_mem_flatMap, Expr.forall_check_fieldDemands_iff, hw]
        exact forall₂_and
  | limit n => simp [demands, WellFormed, leaves]
  | option g => exact h.elim

/-- The entities that a clause asks for are those of its patterns. -/
theorem entities_demands {c : Clause} (h : c.WellFormed) :
    c.demands.filterMap Demand.entity? = c.entities := by
  have hleaf : ∀ es : List Expr, (es.flatMap Expr.demands).filterMap Demand.entity? = [] := by
    simp [List.filterMap_flatMap, Expr.demands, Demand.entity?]
  cases c with
  | matching ps =>
    obtain ⟨hne, hps⟩ := h
    have hd : ps.flatMap Pattern.demands = ps.flatMap fun p => p.entities.map .entity :=
      List.flatMap_congr fun p hp => Pattern.demands_of_wellFormed (hps p hp)
    cases ps with
    | nil => exact absurd rfl hne
    | cons p ps =>
      rw [demands, hd, entities, List.filterMap_flatMap]
      · refine List.flatMap_congr fun p _ => ?_
        rw [List.filterMap_map]
        exact List.filterMap_some
      · exact hne
  | filter e =>
    have he := hleaf [e]
    rwa [List.flatMap_singleton] at he
  | returning es =>
    cases es with
    | nil => rfl
    | cons e es => exact hleaf (e :: es)
  | orderBy o =>
    obtain ⟨k, ks, hk⟩ := o.exists_sortKeys_iff.2 ⟨h.starts, h.apart⟩
    have hd : o.sortFields.flatMap Expr.fieldDemands = o.sortFields.flatMap Expr.demands := by
      refine List.flatMap_congr fun e he => ?_
      rw [Expr.fieldDemands, Expr.unsortable?_eq_none_iff.2 (h.sortable e he)]
    simp only [demands, hk, hd, hleaf, entities]
  | limit n => rfl
  | option g => rfl

end Clause

namespace Entity

/-- Whether entities may be in scope together. -/
def Sound (strict : Bool) (es : List Entity) : Prop :=
  Agreeing es ∧ (strict → ∀ e ∈ es, Identifier.isVariable e.name.toList)

variable {strict : Bool}

theorem Sound.subset {es ds : List Entity} (h : Sound strict es) (hd : ∀ d ∈ ds, d ∈ es) :
    Sound strict ds :=
  ⟨fun d hd' e he => h.1 d (hd d hd') e (hd e he), fun hs e he => h.2 hs e (hd e he)⟩

theorem sound_congr {es ds : List Entity} (h : ∀ d, d ∈ ds ↔ d ∈ es) :
    Sound strict ds ↔ Sound strict es :=
  ⟨fun hd => hd.subset fun e he => (h e).2 he, fun he => he.subset fun d hd => (h d).1 hd⟩

/-- The scope grows by the entity that is declared. -/
theorem mem_of_declare {scope s : Scope} {e : Entity} (h : e.declare strict scope = .ok s)
    (d : Entity) : d ∈ s ↔ d ∈ e :: scope := by
  unfold declare at h
  split at h
  · rename_i d' hd'
    split at h
    · rename_i heq
      subst heq
      cases h
      have he : d' ∈ scope := List.mem_of_find?_eq_some hd'
      constructor
      · exact List.mem_cons_of_mem d'
      · intro hd
        rcases List.mem_cons.1 hd with rfl | hd
        · exact he
        · exact hd
    · cases h
  · unfold checkVariable at h
    split at h
    · cases h
    · cases h
      exact Iff.rfl

/-- In a sound scope, an entity can be declared if the scope stays sound with it. -/
theorem exists_declare_iff {scope : Scope} (hscope : Sound strict scope) (e : Entity) :
    (∃ s, e.declare strict scope = .ok s) ↔ Sound strict (e :: scope) := by
  constructor
  · rintro ⟨s, h⟩
    unfold declare at h
    split at h
    · rename_i d hd
      split at h
      · rename_i heq
        subst heq
        have hmem : d ∈ scope := List.mem_of_find?_eq_some hd
        exact hscope.subset fun x hx => (List.mem_cons.1 hx).elim (fun hx => hx ▸ hmem) id
      · cases h
    · rename_i hnone
      have hname : ∀ d ∈ scope, ¬d.name = e.name := by
        simpa [find?, List.find?_eq_none] using hnone
      have hvar : strict → Identifier.isVariable e.name.toList := by
        unfold checkVariable at h
        split at h
        · cases h
        · rename_i hc
          intro hs
          simpa [hs] using hc
      refine ⟨fun a ha b hb hab => ?_, fun hs x hx => ?_⟩
      · rcases List.mem_cons.1 ha with rfl | ha'
        · rcases List.mem_cons.1 hb with rfl | hb'
          · rfl
          · exact absurd hab.symm (hname b hb')
        · rcases List.mem_cons.1 hb with rfl | hb'
          · exact absurd hab (hname a ha')
          · exact hscope.1 a ha' b hb' hab
      · rcases List.mem_cons.1 hx with rfl | hx
        · exact hvar hs
        · exact hscope.2 hs x hx
  · intro h
    unfold declare
    split
    · rename_i d hd
      have hmem : d ∈ scope := List.mem_of_find?_eq_some hd
      have hname : d.name = e.name := by simpa [find?] using List.find?_some hd
      have heq : d = e := h.1 d (List.mem_cons_of_mem e hmem) e List.mem_cons_self hname
      exact ⟨scope, by rw [if_pos heq]⟩
    · have hvar : checkVariable strict e.name = .ok () := by
        unfold checkVariable
        cases strict with
        | false => rfl
        | true => simp [h.2 rfl e List.mem_cons_self]
      exact ⟨e :: scope, by rw [hvar]; rfl⟩

end Entity

namespace Demand

/-- Demands are met from a sound scope if each is met by itself and the scope stays sound with all
the entities among them. -/
theorem exists_meetAll_iff {strict : Bool} (ctx : Context) {scope : Scope}
    (hscope : Entity.Sound strict scope) (ds : List Demand) :
    (∃ s, meetAll strict ctx scope ds = .ok s) ↔
      (∀ d ∈ ds, d.check strict ctx = .ok ()) ∧
        Entity.Sound strict (ds.filterMap entity? ++ scope) := by
  induction ds generalizing scope with
  | nil => simp [hscope]
  | cons d ds ih =>
    rw [meetAll_cons]
    by_cases he : ∃ e, d = .entity e
    · obtain ⟨e, rfl⟩ := he
      have hcheck : (entity e).check strict ctx = .ok () := rfl
      have hmeet : (entity e).meet strict ctx scope = e.declare strict scope := rfl
      have hlist : (entity e :: ds).filterMap entity? ++ scope =
          e :: (ds.filterMap entity? ++ scope) := rfl
      rw [hmeet, hlist]
      cases hd : e.declare strict scope with
      | error err =>
        have hn : ¬Entity.Sound strict (e :: scope) := fun h => by
          obtain ⟨s, hs⟩ := (Entity.exists_declare_iff hscope e).2 h
          simp [hd] at hs
        have hn' : ¬Entity.Sound strict (e :: (ds.filterMap entity? ++ scope)) := fun h =>
          hn (h.subset (by simp only [List.mem_cons, List.mem_append]; tauto))
        simp [Except.bind, hn']
      | ok s =>
        have hs : Entity.Sound strict s := by
          rw [Entity.sound_congr (Entity.mem_of_declare hd)]
          exact (Entity.exists_declare_iff hscope e).1 ⟨s, hd⟩
        have hmem : ∀ d, d ∈ ds.filterMap entity? ++ s ↔
            d ∈ e :: (ds.filterMap entity? ++ scope) := by
          intro d
          simp only [List.mem_append, List.mem_cons, Entity.mem_of_declare hd]
          tauto
        simp only [Except.bind, ih hs, Entity.sound_congr hmem, List.forall_mem_cons, hcheck,
          true_and]
    · have hmeet : d.meet strict ctx scope = (d.check strict ctx).map fun _ => scope := by
        cases d with
        | entity e => exact absurd ⟨e, rfl⟩ he
        | _ => rfl
      have hlist : (d :: ds).filterMap entity? = ds.filterMap entity? := by
        cases d with
        | entity e => exact absurd ⟨e, rfl⟩ he
        | _ => rfl
      rw [hmeet, hlist]
      cases hd : d.check strict ctx with
      | error err => simp [Except.bind, Except.map, hd]
      | ok u => simp [Except.bind, Except.map, hd, ih hscope]

end Demand

namespace Template

/-- What the leaves of a template ask for, put together by kind. -/
theorem forall_allowed_iff (strict : Bool) (ctx : Context) (t : Template) :
    (∀ l ∈ t.leaves, l.Allowed strict ctx) ↔
      (∀ name ∈ t.params, (ctx.get? name).isSome) ∧
        (strict → ∀ name ∈ t.variableNames, Identifier.isVariable name.toList) ∧
          (strict → ∀ name ∈ t.params, Identifier.isPlain name.toList) := by
  have hparam : ∀ name, name ∈ t.params ↔ .param name ∈ t.leaves := fun name => by
    simp only [params, List.mem_filterMap]
    constructor
    · rintro ⟨l, hl, h⟩
      cases l <;> cases h
      exact hl
    · exact fun h => ⟨_, h, rfl⟩
  have hvariable : ∀ name, name ∈ t.variableNames ↔ ∃ key, .property name key ∈ t.leaves :=
    fun name => by
      simp only [variableNames, List.mem_filterMap]
      constructor
      · rintro ⟨l, hl, h⟩
        cases l <;> cases h
        exact ⟨_, hl⟩
      · rintro ⟨key, h⟩
        exact ⟨_, h, rfl⟩
  simp only [hparam, hvariable]
  constructor
  · intro h
    refine ⟨fun name hn => (h _ hn).1, fun hs name hn => ?_, fun hs name hn => (h _ hn).2 hs⟩
    obtain ⟨key, hn⟩ := hn
    exact h _ hn hs
  · rintro ⟨hb, hv, hp⟩ l hl
    cases l with
    | property entity key => exact fun hs => hv hs entity ⟨key, hl⟩
    | param name => exact ⟨hb name hl, fun hs => hp hs name hl⟩
    | _ => trivial

theorem exists_meetAll_iff {strict : Bool} (ctx : Context) {t : Template} (h : t.OptionFree) :
    (∃ s, Demand.meetAll strict ctx [] t.demands = .ok s) ↔ t.WellFormed strict ctx := by
  have hnil : Entity.Sound strict [] := ⟨nofun, fun _ => nofun⟩
  have hcheck : (∀ d ∈ t.demands, d.check strict ctx = .ok ()) ↔
      (∀ c ∈ t.clauses, c.WellFormed) ∧ ∀ l ∈ t.leaves, l.Allowed strict ctx := by
    simp only [demands, leaves, List.forall_mem_flatMap]
    rw [← forall₂_and]
    exact forall₂_congr fun c hc => Clause.forall_check_demands_iff strict ctx (h c hc)
  rw [Demand.exists_meetAll_iff ctx hnil, hcheck, forall_allowed_iff, List.append_nil]
  have hentities : (∀ c ∈ t.clauses, c.WellFormed) →
      t.demands.filterMap Demand.entity? = t.entities := fun hc => by
    rw [demands, List.filterMap_flatMap, entities]
    exact List.flatMap_congr fun c hc' => Clause.entities_demands (hc c hc')
  constructor
  · rintro ⟨⟨hc, hb, hv, hp⟩, hs⟩
    rw [hentities hc] at hs
    exact ⟨hc, hs.1, hb, hs.2, hv, hp⟩
  · intro hw
    rw [hentities hw.clauses]
    exact ⟨⟨hw.clauses, hw.bound, hw.variableNames, hw.paramNames⟩, hw.entities, hw.entityNames⟩

theorem exists_compile_iff_meetAll (t : Template) (ctx : Context) (config : Config) :
    (∃ q, t.compile ctx config = .ok q) ↔
      ∃ s, Demand.meetAll config.strictNames ctx [] (t.resolve ctx).demands = .ok s := by
  rw [compile_eq]
  cases Demand.meetAll config.strictNames ctx [] (t.resolve ctx).demands <;> simp [Except.map]

theorem wellFormed_of_compile {t : Template} {ctx : Context} {config : Config} {q : Query}
    (h : t.compile ctx config = .ok q) : (t.resolve ctx).WellFormed config.strictNames ctx := by
  have hmet := (exists_compile_iff_meetAll t ctx config).1 ⟨q, h⟩
  exact (exists_meetAll_iff ctx (t.optionFree_resolve ctx)).1 hmet

theorem wellFormed_of_compile_strict {t : Template} {ctx : Context} {config : Config} {q : Query}
    (hstrict : config.strictNames) (h : t.compile ctx config = .ok q) :
    (t.resolve ctx).WellFormed true ctx := by
  have hwf := wellFormed_of_compile h
  rwa [hstrict] at hwf

theorem exists_compile_of_wellFormed {t : Template} {ctx : Context} {config : Config}
    (h : (t.resolve ctx).WellFormed config.strictNames ctx) :
    ∃ q, t.compile ctx config = .ok q := by
  rw [exists_compile_iff_meetAll]
  exact (exists_meetAll_iff ctx (t.optionFree_resolve ctx)).2 h

/-- A template compiles in a context exactly when its resolution there is well-formed. -/
theorem exists_compile_iff_wellFormed (t : Template) (ctx : Context) (config : Config) :
    (∃ q, t.compile ctx config = .ok q) ↔
      (t.resolve ctx).WellFormed config.strictNames ctx := by
  constructor
  · rintro ⟨q, h⟩
    exact wellFormed_of_compile h
  · exact exists_compile_of_wellFormed

end Template

end CypherTemplate
