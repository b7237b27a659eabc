import CypherTemplate.Proofs.Groups

/-!
Templates that are put together from parts. A draft says how, and asks for option groups of any
variants, none included. It is built exactly when each of its groups has a variant, at every depth; the
template then has the groups that were asked for, and else an empty group is reported.
-/
namespace CypherTemplate

/-- Whether something is built with the groups that are asked for: it is if each of them has a
variant, and else an empty one is reported. -/
inductive Builds {α : Type} (keys : α → List (List String)) (asked : List (List String)) :
    Except Error α → Prop where
  | built {a : α} (hkeys : keys a = asked) (hfull : [] ∉ asked) : Builds keys asked (.ok a)
  | refused (hempty : [] ∈ asked) : Builds keys asked (.error .emptyOptionGroup)

/-- Whether variants of some names are built with the groups that are asked for in them. -/
inductive BuildsVariants {α : Type} (keys : α → List (List String)) (names : List String)
    (asked : List (List String)) : Except Error (List (String × α)) → Prop where
  | built {vs : List (String × α)} (hnames : vs.map (·.1) = names)
      (hkeys : (vs.flatMap fun v => keys v.2) = asked) (hfull : [] ∉ asked) :
      BuildsVariants keys names asked (.ok vs)
  | refused (hempty : [] ∈ asked) :
      BuildsVariants keys names asked (.error .emptyOptionGroup)

/-- What a builder gives that needs variants. -/
def orRefuse {α : Type} : Option α → Except Error α
  | some a => .ok a
  | none => .error .emptyOptionGroup

section

variable {α β γ : Type} {keysA : α → List (List String)} {keysB : β → List (List String)}
  {keysC : γ → List (List String)} {askedA askedB : List (List String)} {x : Except Error α}
  {y : Except Error β}

theorem Builds.exists_ok_iff (h : Builds keysA askedA x) : (∃ a, x = .ok a) ↔ [] ∉ askedA := by
  cases h with
  | built hkeys hfull => exact iff_of_true ⟨_, rfl⟩ hfull
  | refused hempty => exact iff_of_false nofun (not_not_intro hempty)

theorem Builds.keys_eq (h : Builds keysA askedA x) {a : α} (hx : x = .ok a) : keysA a = askedA := by
  cases h with
  | built hkeys hfull =>
    cases hx
    exact hkeys
  | refused hempty => cases hx

theorem Builds.error_eq (h : Builds keysA askedA x) {err : Error} (hx : x = .error err) :
    err = .emptyOptionGroup := by
  cases h with
  | built hkeys hfull => cases hx
  | refused hempty =>
    cases hx
    rfl

theorem Builds.map {f : α → β} (h : Builds keysA askedA x) (hf : ∀ a, keysB (f a) = keysA a) :
    Builds keysB askedA (f <$> x) := by
  cases h with
  | built hkeys hfull => exact .built ((hf _).trans hkeys) hfull
  | refused hempty => exact .refused hempty

/-- What is built in two steps asks for no less than the first of them. -/
theorem Builds.bind {f : α → Except Error β} (h : Builds keysA askedA x)
    (hsub : [] ∈ askedA → [] ∈ askedB)
    (hf : ∀ a, keysA a = askedA → [] ∉ askedA → Builds keysB askedB (f a)) :
    Builds keysB askedB (x >>= f) := by
  cases h with
  | built hkeys hfull => exact hf _ hkeys hfull
  | refused hempty => exact .refused (hsub hempty)

theorem Builds.both {f : α → β → γ} (hx : Builds keysA askedA x) (hy : Builds keysB askedB y)
    (hf : ∀ a b, keysC (f a b) = keysA a ++ keysB b) :
    Builds keysC (askedA ++ askedB) (do let a ← x; let b ← y; return f a b) := by
  refine hx.bind (List.mem_append_left _) fun a hkeysA hfullA => ?_
  refine hy.bind (List.mem_append_right _) fun b hkeysB hfullB => ?_
  refine .built ?_ (List.not_mem_append hfullA hfullB)
  rw [hf, hkeysA, hkeysB]

theorem Builds.variant {names : List String} {vs : Except Error (List (String × α))}
    (name : String) (h : Builds keysA askedA x) (hvs : BuildsVariants keysA names askedB vs) :
    BuildsVariants keysA (name :: names) (askedA ++ askedB)
      (do let a ← x; let vs ← vs; return (name, a) :: vs) := by
  cases h with
  | refused hempty => exact .refused (List.mem_append_left _ hempty)
  | built hkeys hfull =>
    cases hvs with
    | refused hempty => exact .refused (List.mem_append_right _ hempty)
    | built hnames hkeysVs hfullVs =>
      refine .built ?_ ?_ (List.not_mem_append hfull hfullVs)
      · rw [List.map_cons, hnames]
      · rw [List.flatMap_cons, hkeys, hkeysVs]

/-- A group is built of its variants unless there are none. -/
theorem BuildsVariants.option {names : List String} {vs : Except Error (List (String × α))}
    {make : OptionGroup α → α} (h : BuildsVariants keysA names askedA vs)
    (hmake : ∀ g, keysA (make g) = g.keys :: g.toList.flatMap fun v => keysA v.2) :
    Builds keysA (names :: askedA)
      (do let vs ← vs; orRefuse ((OptionGroup.ofList? vs).map make)) := by
  cases h with
  | refused hempty => exact .refused (List.mem_cons_of_mem _ hempty)
  | @built vs hnames hkeys hfull =>
    change Builds keysA (names :: askedA) (orRefuse ((OptionGroup.ofList? vs).map make))
    cases hg : OptionGroup.ofList? vs with
    | none =>
      obtain rfl := OptionGroup.eq_nil_of_ofList? hg
      obtain rfl := hnames
      exact .refused List.mem_cons_self
    | some g =>
      have hlist := OptionGroup.toList_of_ofList? hg
      have hgroup : g.keys = names := by rw [OptionGroup.keys, hlist, hnames]
      refine .built ?_ (List.not_mem_cons_of_ne_of_not_mem ?_ hfull)
      · rw [hmake, hgroup, hlist, hkeys]
      · exact hgroup ▸ g.keys_ne_nil.symm

end

namespace Expr

/-- How an expression is put together. A conjunction is joined from its operands or keeps them as they
stand; an option group is asked for with any variants, none included. -/
inductive Draft where
  | property (entity key : String)
  | literal (v : Value)
  | param (name : String)
  | aliased (inner : Draft) (name : String)
  | equal (left right : Draft)
  | like (left : Draft) (pattern : String)
  | and (operands : List Draft)
  | conj (operands : List Draft)
  | option (variants : List (String × Draft))

namespace Draft

mutual
def build : Draft → Except Error Expr
  | .property entity key => .ok (.property entity key)
  | .literal v => .ok (.literal v)
  | .param name => .ok (.param name)
  | .aliased inner name => (Expr.alias · name) <$> inner.build
  | .equal left right => do
    let l ← left.build
    let r ← right.build
    return .equal l r
  | .like left pattern => (Expr.like · pattern) <$> left.build
  | .and operands => Expr.and <$> buildAll operands
  | .conj operands => Expr.conj <$> buildAll operands
  | .option variants => do
    let vs ← buildVariants variants
    orRefuse (optionOf? vs)

def buildAll : List Draft → Except Error (List Expr)
  | [] => .ok []
  | d :: ds => do
    let e ← d.build
    let es ← buildAll ds
    return e :: es

def buildVariants : List (String × Draft) → Except Error (List (String × Expr))
  | [] => .ok []
  | (key, d) :: vs => do
    let e ← d.build
    let es ← buildVariants vs
    return (key, e) :: es
end

mutual
/-- The keys of every option group that is asked for. -/
def groupKeys : Draft → List (List String)
  | .property _ _ | .literal _ | .param _ => []
  | .aliased inner _ => inner.groupKeys
  | .equal left right => left.groupKeys ++ right.groupKeys
  | .like left _ => left.groupKeys
  | .and operands | .conj operands => allGroupKeys operands
  | .option variants => variants.map (·.1) :: variantGroupKeys variants

def allGroupKeys : List Draft → List (List String)
  | [] => []
  | d :: ds => d.groupKeys ++ allGroupKeys ds

def variantGroupKeys : List (String × Draft) → List (List String)
  | [] => []
  | (_, d) :: vs => d.groupKeys ++ variantGroupKeys vs
end

mutual
theorem builds_build (d : Draft) : Builds Expr.groupKeys d.groupKeys d.build := by
  cases d with
  | property entity key => exact .built rfl List.not_mem_nil
  | literal v => exact .built rfl List.not_mem_nil
  | param name => exact .built rfl List.not_mem_nil
  | aliased inner name => exact (builds_build inner).map fun _ => rfl
  | equal left right => exact (builds_build left).both (builds_build right) fun _ _ => rfl
  | like left pattern => exact (builds_build left).map fun _ => rfl
  | and operands => exact (builds_buildAll operands).map groupKeys_and
  | conj operands => exact (builds_buildAll operands).map groupKeys_conj
  | option variants => exact (buildsVariants_buildVariants variants).option groupKeys_option

theorem builds_buildAll (ds : List Draft) :
    Builds (List.flatMap Expr.groupKeys) (allGroupKeys ds) (buildAll ds) := by
  cases ds with
  | nil => exact .built rfl List.not_mem_nil
  | cons d ds => exact (builds_build d).both (builds_buildAll ds) fun _ _ => rfl

theorem buildsVariants_buildVariants (vs : List (String × Draft)) :
    BuildsVariants Expr.groupKeys (vs.map (·.1)) (variantGroupKeys vs) (buildVariants vs) := by
  cases vs with
  | nil => exact .built rfl rfl List.not_mem_nil
  | cons v vs => exact (builds_build v.2).variant v.1 (buildsVariants_buildVariants vs)
end

end Draft

end Expr

/-- A field that is put together, or a direction. -/
inductive OrderToken.Draft where
  | field (e : Expr.Draft)
  | direction (d : Direction)

def OrderToken.Draft.groupKeys : OrderToken.Draft → List (List String)
  | .field e => e.groupKeys
  | .direction _ => []

namespace OrderBy

/-- The sort order with fields and directions put behind the others. -/
def buildOn (o : OrderBy) : List OrderToken.Draft → Except Error OrderBy
  | [] => .ok o
  | .field d :: ts => do
    let e ← d.build
    (o.field e).buildOn ts
  | .direction d :: ts => (o.direction d).buildOn ts

theorem builds_buildOn (o : OrderBy) (ts : List OrderToken.Draft) :
    Builds groupKeys (o.groupKeys ++ ts.flatMap OrderToken.Draft.groupKeys) (o.buildOn ts) := by
  induction ts generalizing o with
  | nil => exact .built (List.append_nil _).symm (by simpa using o.nil_notMem_groupKeys)
  | cons t ts ih =>
    cases t with
    | field d =>
      refine d.builds_build.bind (fun hempty => ?_) fun e hkeys _ => ?_
      · simp [OrderToken.Draft.groupKeys, hempty]
      · have hrest := ih (o.field e)
        rwa [groupKeys_field, hkeys, List.append_assoc] at hrest
    | direction d =>
      have hrest := ih (o.direction d)
      rwa [groupKeys_direction] at hrest

end OrderBy

namespace Clause

/-- How a clause is put together. -/
inductive Draft where
  | matching (patterns : List Pattern)
  | filter (predicate : Expr.Draft)
  | returning (items : List Expr.Draft)
  | orderBy (tokens : List OrderToken.Draft)
  | limit (n : UInt64)
  | option (variants : List (String × Draft))

namespace Draft

mutual
def build : Draft → Except Error Clause
  | .matching patterns => .ok (.matching patterns)
  | .filter predicate => Clause.filter <$> predicate.build
  | .returning items => Clause.returning <$> Expr.Draft.buildAll items
  | .orderBy tokens => Clause.orderBy <$> OrderBy.empty.buildOn tokens
  | .limit n => .ok (.limit n)
  | .option variants => do
    let vs ← buildVariants variants
    orRefuse (optionOf? vs)

def buildVariants : List (String × Draft) → Except Error (List (String × Clause))
  | [] => .ok []
  | (key, d) :: vs => do
    let c ← d.build
    let cs ← buildVariants vs
    return (key, c) :: cs
end

mutual
/-- The keys of every option group that is asked for. -/
def groupKeys : Draft → List (List String)
  | .matching _ => []
  | .filter predicate => predicate.groupKeys
  | .returning items => Expr.Draft.allGroupKeys items
  | .orderBy tokens => tokens.flatMap OrderToken.Draft.groupKeys
  | .limit _ => []
  | .option variants => variants.map (·.1) :: variantGroupKeys variants

def variantGroupKeys : List (String × Draft) → List (List String)
  | [] => []
  | (_, d) :: vs => d.groupKeys ++ variantGroupKeys vs
end

mutual
theorem builds_build (d : Draft) : Builds Clause.groupKeys d.groupKeys d.build := by
  cases d with
  | matching patterns => exact .built rfl List.not_mem_nil
  | filter predicate => exact predicate.builds_build.map fun _ => rfl
  | returning items => exact (Expr.Draft.builds_buildAll items).map fun _ => rfl
  | orderBy tokens => exact (OrderBy.empty.builds_buildOn tokens).map fun _ => rfl
  | limit n => exact .built rfl List.not_mem_nil
  | option variants => exact (buildsVariants_buildVariants variants).option groupKeys_option

theorem buildsVariants_buildVariants (vs : List (String × Draft)) :
    BuildsVariants Clause.groupKeys (vs.map (·.1)) (variantGroupKeys vs) (buildVariants vs) := by
  cases vs with
  | nil => exact .built rfl rfl List.not_mem_nil
  | cons v vs => exact (builds_build v.2).variant v.1 (buildsVariants_buildVariants vs)
end

end Draft

end Clause

namespace Template

/-- The template with clauses put behind the others. -/
def buildOn (t : Template) : List Clause.Draft → Except Error Template
  | [] => .ok t
  | d :: ds => do
    let c ← d.build
    (t.add c).buildOn ds

theorem builds_buildOn (t : Template) (ds : List Clause.Draft) :
    Builds groupKeys (t.groupKeys ++ ds.flatMap Clause.Draft.groupKeys) (t.buildOn ds) := by
  induction ds generalizing t with
  | nil => exact .built (List.append_nil _).symm (by simpa using t.nil_notMem_groupKeys)
  | cons d ds ih =>
    refine d.builds_build.bind (fun hempty => ?_) fun c hkeys _ => ?_
    · simp [hempty]
    · have hrest := ih (t.add c)
      rwa [groupKeys_add, hkeys, List.append_assoc] at hrest

/-- The template of some clauses, put together from nothing. -/
def build (ds : List Clause.Draft) : Except Error Template :=
  empty.buildOn ds

theorem builds_build (ds : List Clause.Draft) :
    Builds groupKeys (ds.flatMap Clause.Draft.groupKeys) (build ds) :=
  empty.builds_buildOn ds

end Template

end CypherTemplate
