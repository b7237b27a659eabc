import CypherTemplate.Proofs.Parameters

/-!
What of a context reaches a compiled query. Which variants are taken hangs on the selecting keys among
those declared, and whether the template compiles, and to which text, on the names that are bound; the
values only get into the map of parameters.
-/
namespace CypherTemplate

namespace OptionGroup

variable {α : Type} {c₁ c₂ : Context}

theorem selected?_congr {g : OptionGroup α}
    (h : ∀ v ∈ g.toList, c₁.selects v.1 = c₂.selects v.1) : g.selected? c₁ = g.selected? c₂ := by
  induction g with
  | last key a =>
    have hkey : c₁.selects key = c₂.selects key := h (key, a) (by simp [toList])
    rw [selected?, selected?, hkey]
  | cons key a rest ih =>
    have hkey : c₁.selects key = c₂.selects key := h (key, a) (by simp [toList])
    have hrest := ih fun v hv => h v (by simp [toList, hv])
    rw [selected?, selected?, hkey, hrest]

/-- Contexts that select the same keys take the same variant. -/
theorem resolve_congr {g : OptionGroup α} (h : ∀ v ∈ g.toList, c₁.selects v.1 = c₂.selects v.1) :
    g.resolve c₁ = g.resolve c₂ := by
  rw [resolve_eq, resolve_eq, selected?_congr h]

end OptionGroup

namespace Expr

mutual
/-- The keys declared in the option groups of an expression, those inside variants included. -/
def optionKeys : Expr → List String
  | .property _ _ | .literal _ | .param _ => []
  | .alias inner _ => inner.optionKeys
  | .equal left right => left.optionKeys ++ right.optionKeys
  | .like left _ => left.optionKeys
  | .conj operands => allOptionKeys operands
  | .option g => groupOptionKeys g

def allOptionKeys : List Expr → List String
  | [] => []
  | e :: es => e.optionKeys ++ allOptionKeys es

def groupOptionKeys : OptionGroup Expr → List String
  | .last key e => key :: e.optionKeys
  | .cons key e rest => key :: e.optionKeys ++ groupOptionKeys rest
end

theorem allOptionKeys_eq (es : List Expr) : allOptionKeys es = es.flatMap optionKeys := by
  induction es with
  | nil => rfl
  | cons e es ih => rw [allOptionKeys, ih, List.flatMap_cons]

theorem groupOptionKeys_eq (g : OptionGroup Expr) :
    groupOptionKeys g = g.toList.flatMap fun v => v.1 :: v.2.optionKeys := by
  induction g with
  | last key e => simp [groupOptionKeys, OptionGroup.toList]
  | cons key e rest ih => rw [groupOptionKeys, ih, OptionGroup.toList, List.flatMap_cons]

@[simp] theorem optionKeys_conj (es : List Expr) :
    (conj es).optionKeys = es.flatMap optionKeys := by
  rw [optionKeys, allOptionKeys_eq]

@[simp] theorem optionKeys_option (g : OptionGroup Expr) :
    (option g).optionKeys = g.toList.flatMap fun v => v.1 :: v.2.optionKeys := by
  rw [optionKeys, groupOptionKeys_eq]

variable {c₁ c₂ : Context}

/-- An expression is resolved by the selecting keys among those it declares. -/
theorem resolve_congr {e : Expr} (h : ∀ key ∈ e.optionKeys, c₁.selects key = c₂.selects key) :
    e.resolve c₁ = e.resolve c₂ := by
  induction e with
  | property entity key => rfl
  | literal v => rfl
  | param name => rfl
  | aliased inner name ih => rw [resolve, resolve, ih h]
  | equal left right ihl ihr =>
    obtain ⟨hl, hr⟩ := List.forall_mem_append.1 h
    rw [resolve, resolve, ihl hl, ihr hr]
  | like left pattern ih => rw [resolve, resolve, ih h]
  | conj es ih =>
    rw [optionKeys_conj, List.forall_mem_flatMap] at h
    rw [resolve_conj, resolve_conj]
    exact congrArg conj (List.map_congr_left fun e he => ih e he (h e he))
  | option g ih =>
    rw [optionKeys_option, List.forall_mem_flatMap] at h
    have hkeys : ∀ v ∈ g.toList, c₁.selects v.1 = c₂.selects v.1 := fun v hv =>
      h v hv v.1 List.mem_cons_self
    obtain ⟨v, hv, htaken⟩ := g.resolve_mem c₂
    rw [resolve_option, resolve_option, OptionGroup.resolve_congr hkeys, htaken]
    exact ih v hv fun key hk => h v hv key (List.mem_cons_of_mem v.1 hk)

theorem map_resolve_congr {es : List Expr}
    (h : ∀ key ∈ es.flatMap optionKeys, c₁.selects key = c₂.selects key) :
    es.map (resolve c₁) = es.map (resolve c₂) :=
  List.map_congr_left fun _ he => resolve_congr (List.forall_mem_flatMap.1 h _ he)

end Expr

namespace Clause

mutual
/-- The keys declared in a clause, of groups of clauses as well as of expressions. -/
def optionKeys : Clause → List String
  | .matching _ => []
  | .filter e => e.optionKeys
  | .returning es => es.flatMap Expr.optionKeys
  | .orderBy o => o.sortFields.flatMap Expr.optionKeys
  | .limit _ => []
  | .option g => groupOptionKeys g

def groupOptionKeys : OptionGroup Clause → List String
  | .last key c => key :: c.optionKeys
  | .cons key c rest => key :: c.optionKeys ++ groupOptionKeys rest
end

theorem groupOptionKeys_eq (g : OptionGroup Clause) :
    groupOptionKeys g = g.toList.flatMap fun v => v.1 :: v.2.optionKeys := by
  induction g with
  | last key c => simp [groupOptionKeys, OptionGroup.toList]
  | cons key c rest ih => rw [groupOptionKeys, ih, OptionGroup.toList, List.flatMap_cons]

@[simp] theorem optionKeys_option (g : OptionGroup Clause) :
    (option g).optionKeys = g.toList.flatMap fun v => v.1 :: v.2.optionKeys := by
  rw [optionKeys, groupOptionKeys_eq]

variable {c₁ c₂ : Context}

theorem resolve_congr {c : Clause} (h : ∀ key ∈ c.optionKeys, c₁.selects key = c₂.selects key) :
    c.resolve c₁ = c.resolve c₂ := by
  induction c with
  | matching ps => rfl
  | filter e => rw [resolve, resolve, Expr.resolve_congr h]
  | returning es => rw [resolve, resolve, Expr.map_resolve_congr h]
  | orderBy o =>
    have htoken : ∀ t ∈ o.tokens,
        t.map (Expr.resolve c₁) = t.map (Expr.resolve c₂) := by
      intro t ht
      cases t with
      | field e =>
        have he : e ∈ o.sortFields := List.mem_filterMap.2 ⟨.field e, ht, rfl⟩
        exact congrArg OrderToken.field
          (Expr.resolve_congr (List.forall_mem_flatMap.1 h e he))
      | direction d => rfl
    rw [resolve, resolve, OrderBy.map, OrderBy.map, List.map_congr_left htoken]
  | limit n => rfl
  | option g ih =>
    rw [optionKeys_option, List.forall_mem_flatMap] at h
    have hkeys : ∀ v ∈ g.toList, c₁.selects v.1 = c₂.selects v.1 := fun v hv =>
      h v hv v.1 List.mem_cons_self
    obtain ⟨v, hv, htaken⟩ := g.resolve_mem c₂
    rw [resolve_option, resolve_option, OptionGroup.resolve_congr hkeys, htaken]
    exact ih v hv fun key hk => h v hv key (List.mem_cons_of_mem v.1 hk)

end Clause

namespace Demand

variable {c₁ c₂ : Context} (strict : Bool)

/-- A leaf is checked without a look at any value. -/
theorem check_leaf_congr {l : Expr} (hl : l.isLeaf)
    (h : ∀ name ∈ l.paramName?, (c₁.get? name).isSome = (c₂.get? name).isSome) :
    (leaf l).check strict c₁ = (leaf l).check strict c₂ := by
  cases l with
  | property entity key => simp only [check, Expr.pieces]
  | literal v => simp only [check, Expr.pieces]
  | param name =>
    have hname : (c₁.get? name).isSome = (c₂.get? name).isSome := h name rfl
    simp only [check, Expr.pieces, paramPiece, hname]
  | _ => cases hl

/-- Demands whose leaves are checked alike are met alike. -/
theorem meetAll_congr {ds : List Demand}
    (h : ∀ l, leaf l ∈ ds → (leaf l).check strict c₁ = (leaf l).check strict c₂) (scope : Scope) :
    meetAll strict c₁ scope ds = meetAll strict c₂ scope ds := by
  induction ds generalizing scope with
  | nil => rfl
  | cons d ds ih =>
    have hd : d.meet strict c₁ scope = d.meet strict c₂ scope := by
      cases d with
      | leaf l => simp only [meet, h l List.mem_cons_self]
      | entity e => rfl
      | refusal e => rfl
    have hds : ∀ s, meetAll strict c₁ s ds = meetAll strict c₂ s ds :=
      ih fun l hl => h l (List.mem_cons_of_mem d hl)
    rw [meetAll_cons, meetAll_cons, hd]
    exact congrArg _ (funext hds)

end Demand

namespace Expr

theorem mem_leaves_of_demand {e l : Expr} (h : .leaf l ∈ e.demands) : l ∈ e.leaves := by
  obtain ⟨l', hl, heq⟩ := List.mem_map.1 h
  cases heq
  exact hl

theorem mem_leaves_of_fieldDemand {e l : Expr} (h : .leaf l ∈ e.fieldDemands) : l ∈ e.leaves := by
  unfold fieldDemands at h
  split at h
  · simp at h
  · exact mem_leaves_of_demand h

end Expr

theorem Pattern.leaf_notMem_demands (p : Pattern) (l : Expr) : .leaf l ∉ p.demands := by
  have hentity : ∀ (kind : EntityKind) (e : Entity), .leaf l ∉ e.demands kind := by
    intro kind e
    unfold Entity.demands
    split <;> simp
  cases p with
  | node e => exact hentity .node e
  | path relationship start stop =>
    by_cases hkind : relationship.kind = .relationship
    · cases start <;> cases stop <;> simp [demands, hkind, hentity]
    · simp [demands, hkind]

theorem Clause.isLeaf_of_mem_leaves {c : Clause} {l : Expr} (h : l ∈ c.leaves) : l.isLeaf := by
  have hexprs : ∀ es : List Expr, l ∈ es.flatMap Expr.leaves → l.isLeaf := by
    intro es hes
    obtain ⟨e, _, hl⟩ := List.mem_flatMap.1 hes
    exact Expr.isLeaf_of_mem_leaves hl
  induction c with
  | matching ps => cases h
  | filter e => exact Expr.isLeaf_of_mem_leaves h
  | returning es => exact hexprs es h
  | orderBy o => exact hexprs o.sortFields h
  | limit n => cases h
  | option g ih =>
    rw [leaves_option] at h
    obtain ⟨v, hv, hl⟩ := List.mem_flatMap.1 h
    exact ih v hv hl

/-- A clause asks of its leaves and of no others. -/
theorem Clause.mem_leaves_of_demand {c : Clause} {l : Expr} (h : .leaf l ∈ c.demands) :
    l ∈ c.leaves := by
  cases c with
  | matching ps =>
    cases ps with
    | nil => simp [demands] at h
    | cons p ps =>
      obtain ⟨p', _, hp⟩ := List.mem_flatMap.1 h
      exact absurd hp (p'.leaf_notMem_demands l)
  | filter e => exact Expr.mem_leaves_of_demand h
  | returning es =>
    cases es with
    | nil => simp [demands] at h
    | cons e es =>
      obtain ⟨e', he, hl⟩ := List.mem_flatMap.1 h
      exact List.mem_flatMap.2 ⟨e', he, Expr.mem_leaves_of_demand hl⟩
  | orderBy o =>
    rw [demands] at h
    split at h
    · simp at h
    · simp at h
    · obtain ⟨e, he, hl⟩ := List.mem_flatMap.1 h
      exact List.mem_flatMap.2 ⟨e, he, Expr.mem_leaves_of_fieldDemand hl⟩
  | limit n => cases h
  | option g => cases h

namespace Template

/-- The keys declared in the option groups of a template, at any depth. -/
def optionKeys (t : Template) : List String := t.clauses.flatMap Clause.optionKeys

variable {t : Template} {c₁ c₂ : Context} (config : Config)

theorem resolve_congr (h : ∀ key ∈ t.optionKeys, c₁.selects key = c₂.selects key) :
    t.resolve c₁ = t.resolve c₂ := by
  have hclauses : t.clauses.map (Clause.resolve c₁) = t.clauses.map (Clause.resolve c₂) :=
    List.map_congr_left fun c hc => Clause.resolve_congr (List.forall_mem_flatMap.1 h c hc)
  rw [resolve, resolve, hclauses]

theorem mem_leaves_of_demand {l : Expr} (h : .leaf l ∈ t.demands) : l ∈ t.leaves := by
  obtain ⟨c, hc, hdemand⟩ := List.mem_flatMap.1 h
  exact List.mem_flatMap.2 ⟨c, hc, Clause.mem_leaves_of_demand hdemand⟩

theorem isLeaf_of_demand {l : Expr} (h : .leaf l ∈ t.demands) : l.isLeaf := by
  obtain ⟨c, _, hleaf⟩ := List.mem_flatMap.1 (mem_leaves_of_demand h)
  exact Clause.isLeaf_of_mem_leaves hleaf

theorem meetAll_congr (h : ∀ name ∈ t.params, (c₁.get? name).isSome = (c₂.get? name).isSome) :
    Demand.meetAll config.strictNames c₁ [] t.demands =
      Demand.meetAll config.strictNames c₂ [] t.demands := by
  refine Demand.meetAll_congr config.strictNames (fun l hl => ?_) []
  have hname : ∀ name ∈ l.paramName?, name ∈ t.params := fun name hn =>
    List.mem_filterMap.2 ⟨l, mem_leaves_of_demand hl, hn⟩
  exact Demand.check_leaf_congr config.strictNames (isLeaf_of_demand hl) fun name hn =>
    h name (hname name hn)

/-- Contexts that agree on the keys that a template declares and on which of its parameters are bound
take it to queries of one text, or to one error. -/
theorem compile_cases (hkeys : ∀ key ∈ t.optionKeys, c₁.selects key = c₂.selects key)
    (hbound : ∀ name ∈ (t.resolve c₁).params, (c₁.get? name).isSome = (c₂.get? name).isSome) :
    (∃ e, t.compile c₁ config = .error e ∧ t.compile c₂ config = .error e) ∨
      ∃ ps, t.compile c₁ config = .ok (.ofPieces config.paramStyle c₁ ps) ∧
        t.compile c₂ config = .ok (.ofPieces config.paramStyle c₂ ps) := by
  rw [compile_eq, compile_eq, ← resolve_congr hkeys, meetAll_congr config hbound]
  cases Demand.meetAll config.strictNames c₂ [] (t.resolve c₁).demands with
  | error e => exact .inl ⟨e, rfl, rfl⟩
  | ok s => exact .inr ⟨_, rfl, rfl⟩

/-- Contexts that agree on the declared keys and on the parameters of the resolved template compile it
to the same query. -/
theorem compile_congr (hkeys : ∀ key ∈ t.optionKeys, c₁.selects key = c₂.selects key)
    (hvalues : ∀ name ∈ (t.resolve c₁).params, c₁.get? name = c₂.get? name) :
    t.compile c₁ config = t.compile c₂ config := by
  have hbound : ∀ name ∈ (t.resolve c₁).params,
      (c₁.get? name).isSome = (c₂.get? name).isSome := fun name hn => by
    rw [hvalues name hn]
  rcases compile_cases config hkeys hbound with ⟨e, h₁, h₂⟩ | ⟨ps, h₁, h₂⟩
  · rw [h₁, h₂]
  · have hparams : c₁.restrict (t.resolve c₁).params = c₂.restrict (t.resolve c₁).params := by
      have hentry : ∀ name ∈ (t.resolve c₁).params,
          (c₁.get? name).map (name, ·) = (c₂.get? name).map (name, ·) := fun name hn => by
        rw [hvalues name hn]
      rw [Context.restrict, Context.restrict, List.filterMap_congr hentry]
    have hq₁ := parameters_of_compile h₁
    have hq₂ := parameters_of_compile h₂
    rw [← resolve_congr hkeys, ← hparams, ← hq₁] at hq₂
    rw [h₁, h₂]
    exact congrArg Except.ok (congrArg (Query.mk _ · _) hq₂.symm)

/-- Of a context only two things steer a compilation: which declared keys select, and which parameters
of the resolved template are bound. Contexts that agree on them give one text with one set of bound
names, or one error; those that give the parameters equal values give one query. An entry that is no
declared key and no such parameter changes nothing. -/
theorem compile_eq_of_agreement (hkeys : ∀ key ∈ t.optionKeys, c₁.selects key = c₂.selects key)
    (hbound : ∀ name ∈ (t.resolve c₁).params, (c₁.get? name).isSome = (c₂.get? name).isSome) :
    t.resolve c₁ = t.resolve c₂ ∧
    ((∃ e, t.compile c₁ config = .error e ∧ t.compile c₂ config = .error e) ∨
      ∃ q₁ q₂, t.compile c₁ config = .ok q₁ ∧ t.compile c₂ config = .ok q₂ ∧ q₁.text = q₂.text ∧
        ∀ name, (q₁.parameters.get? name).isSome = (q₂.parameters.get? name).isSome) ∧
    ((∀ name ∈ (t.resolve c₁).params, c₁.get? name = c₂.get? name) →
      t.compile c₁ config = t.compile c₂ config) ∧
    ∀ key v, key ∉ t.optionKeys → key ∉ (t.resolve c₁).params →
      t.compile (c₁.insert key v) config = t.compile c₁ config := by
  refine ⟨resolve_congr hkeys, ?_, compile_congr config hkeys, fun key v hkey hparam => ?_⟩
  · rcases compile_cases config hkeys hbound with he | ⟨ps, h₁, h₂⟩
    · exact .inl he
    · refine .inr ⟨_, _, h₁, h₂, rfl, fun name => ?_⟩
      rw [Bool.eq_iff_iff, isSome_parameters_of_compile h₁, isSome_parameters_of_compile h₂,
        resolve_congr hkeys]
  · have hget : ∀ name, name ≠ key → (c₁.insert key v).get? name = c₁.get? name := by
      intro name hne
      rw [KeyMap.get?_insert, if_neg hne]
    refine (compile_congr config (fun k hk => ?_) fun name hn => ?_).symm
    · have hne : k ≠ key := fun heq => hkey (heq ▸ hk)
      rw [Context.selects, Context.selects, hget k hne]
    · exact (hget name fun heq => hparam (heq ▸ hn)).symm

/-- A template with a choice and a parameter in each variant. -/
def chosen : Template := ⟨[
  .option (.cons "byName" (.filter (.equal (.property "u" "name") (.param "name")))
    (.last "byAge" (.filter (.equal (.property "u" "age") (.param "age")))))]⟩

/-- Two contexts that select the same variant and bind its parameter, to different values. -/
def quoting : Context := .ofList [("byName", .int 0), ("name", .string "x\" OR 1"), ("age", .int 3)]

def nulling : Context := .ofList [("byName", .string ""), ("name", .null), ("other", .int 1)]

theorem compile_chosen :
    chosen.compile quoting {} =
      .ok ⟨"WHERE u.name = \x7bname\x7d", .ofList [("name", .string "x\" OR 1")], .braces⟩ ∧
    ∃ q, chosen.compile nulling {} = .ok q ∧ q.text = "WHERE u.name = \x7bname\x7d" := by
  have hquoting : chosen.compile quoting {} =
      .ok ⟨"WHERE u.name = \x7bname\x7d", .ofList [("name", .string "x\" OR 1")], .braces⟩ := by rfl
  obtain ⟨_, hcases, _⟩ :=
    @compile_eq_of_agreement chosen quoting nulling {} (by decide) (by decide)
  rw [hquoting] at hcases
  rcases hcases with ⟨e, he, _⟩ | ⟨q₁, q₂, hq₁, hq₂, htext, _⟩
  · cases he
  · cases hq₁
    exact ⟨hquoting, q₂, hq₂, htext.symm⟩

end Template

end CypherTemplate
