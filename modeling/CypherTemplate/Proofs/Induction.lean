import CypherTemplate.Query.Clause

/-!
Induction over values, expressions and clauses. These types hold lists and option groups of
themselves, so each induction has a hypothesis for every item, entry or variant. What an option group
leads to is one of its variants, and the compilation of a group is that of this variant.
-/
namespace CypherTemplate

namespace OptionGroup

variable {α β : Type}

/-- The group with its variants changed and its keys kept. -/
def map (f : α → β) : OptionGroup α → OptionGroup β
  | .last key a => .last key (f a)
  | .cons key a rest => .cons key (f a) (rest.map f)

@[simp] theorem toList_map (f : α → β) (g : OptionGroup α) :
    (g.map f).toList = g.toList.map fun v => (v.1, f v.2) := by
  induction g with
  | last key a => rfl
  | cons key a rest ih => simp [map, toList, ih]

@[simp] theorem first_map (f : α → β) (g : OptionGroup α) :
    (g.map f).first = (g.first.1, f g.first.2) := by
  cases g <;> rfl

@[simp] theorem selected?_map (f : α → β) (g : OptionGroup α) (ctx : Context) :
    (g.map f).selected? ctx = (g.selected? ctx).map fun v => (v.1, f v.2) := by
  induction g with
  | last key a => simp only [map, selected?]; split <;> rfl
  | cons key a rest ih => simp only [map, selected?, ih]; split <;> rfl

/-- The variant taken in a context: the first that a key selects, or else the first of all. -/
theorem resolve_eq (g : OptionGroup α) (ctx : Context) :
    g.resolve ctx = ((g.selected? ctx).getD g.first).2 := by
  unfold resolve select
  cases g.selected? ctx <;> rfl

/-- A group takes the same variant before and after a change of its variants. -/
@[simp] theorem resolve_map (f : α → β) (g : OptionGroup α) (ctx : Context) :
    (g.map f).resolve ctx = f (g.resolve ctx) := by
  simp only [resolve_eq, selected?_map, first_map]
  cases g.selected? ctx <;> rfl

theorem first_mem (g : OptionGroup α) : g.first ∈ g.toList := by
  cases g <;> simp [first, toList]

/-- The variant taken is one of those declared. -/
theorem resolve_mem (g : OptionGroup α) (ctx : Context) : ∃ v ∈ g.toList, g.resolve ctx = v.2 := by
  rw [resolve_eq, selected?_eq_find?]
  cases h : g.toList.find? fun v => ctx.selects v.1 with
  | none => exact ⟨g.first, g.first_mem, rfl⟩
  | some v => exact ⟨v, List.mem_of_find?_eq_some h, rfl⟩

theorem map_id_of_forall {f : α → α} {g : OptionGroup α} (hg : ∀ v ∈ g.toList, f v.2 = v.2) :
    g.map f = g := by
  induction g with
  | last key a => simp only [map, hg (key, a) (by simp [toList])]
  | cons key a rest ih =>
    have hr := ih fun v hv => hg v (by simp [toList, hv])
    simp only [map, hr, hg (key, a) (by simp [toList])]

end OptionGroup

/-- Induction over values, with a hypothesis for every item of a list and every entry of a map. -/
@[elab_as_elim, induction_eliminator]
theorem Value.induction {motive : Value → Prop} (null : motive .null)
    (bool : ∀ b, motive (.bool b)) (int : ∀ i, motive (.int i)) (double : ∀ d, motive (.double d))
    (string : ∀ s, motive (.string s))
    (list : ∀ items, (∀ v ∈ items, motive v) → motive (.list items))
    (map : ∀ entries, (∀ e ∈ entries, motive e.2) → motive (.map entries)) (v : Value) :
    motive v := by
  refine @Value.rec motive (fun items => ∀ v ∈ items, motive v)
    (fun entries => ∀ e ∈ entries, motive e.2) (fun e => motive e.2) null bool int double string
    list map ?_ ?_ ?_ ?_ ?_ v
  · simp
  · intro v vs hv hvs
    simpa using ⟨hv, hvs⟩
  · simp
  · intro e es he hes
    simpa only [List.mem_cons, forall_eq_or_imp] using ⟨he, hes⟩
  · intro key v hv
    exact hv

/-- Induction over expressions, with a hypothesis for every operand and every variant. -/
@[elab_as_elim, induction_eliminator]
theorem Expr.induction {motive : Expr → Prop} (property : ∀ entity key, motive (.property entity key))
    (literal : ∀ v, motive (.literal v)) (param : ∀ name, motive (.param name))
    (aliased : ∀ inner name, motive inner → motive (.alias inner name))
    (equal : ∀ left right, motive left → motive right → motive (.equal left right))
    (like : ∀ left pattern, motive left → motive (.like left pattern))
    (conj : ∀ operands, (∀ e ∈ operands, motive e) → motive (.conj operands))
    (option : ∀ group : OptionGroup Expr, (∀ v ∈ group.toList, motive v.2) →
      motive (.option group)) (e : Expr) :
    motive e := by
  refine @Expr.rec motive (fun es => ∀ e ∈ es, motive e) (fun g => ∀ v ∈ g.toList, motive v.2)
    property literal param aliased equal like conj option ?_ ?_ ?_ ?_ e
  · simp
  · intro e es he hes
    simpa using ⟨he, hes⟩
  · intro key e he
    simpa [OptionGroup.toList] using he
  · intro key e rest he hrest
    simpa only [OptionGroup.toList, List.mem_cons, forall_eq_or_imp] using ⟨he, hrest⟩

/-- Induction over clauses, with a hypothesis for every variant. -/
@[elab_as_elim, induction_eliminator]
theorem Clause.induction {motive : Clause → Prop} (matching : ∀ ps, motive (.matching ps))
    (filter : ∀ e, motive (.filter e)) (returning : ∀ es, motive (.returning es))
    (orderBy : ∀ o, motive (.orderBy o)) (limit : ∀ n, motive (.limit n))
    (option : ∀ group : OptionGroup Clause, (∀ v ∈ group.toList, motive v.2) →
      motive (.option group)) (c : Clause) :
    motive c := by
  refine @Clause.rec motive (fun g => ∀ v ∈ g.toList, motive v.2) matching filter returning orderBy
    limit option ?_ ?_ c
  · intro key c hc
    simpa [OptionGroup.toList] using hc
  · intro key c rest hc hrest
    simpa only [OptionGroup.toList, List.mem_cons, forall_eq_or_imp] using ⟨hc, hrest⟩

namespace Expr

theorem headSelected?_eq (ctx : Context) (g : OptionGroup Expr) :
    headSelected? ctx g = (g.selected? ctx).map fun v => v.2.head ctx := by
  induction g with
  | last key e => simp only [headSelected?, OptionGroup.selected?]; split <;> rfl
  | cons key e rest ih => simp only [headSelected?, OptionGroup.selected?, ih]; split <;> rfl

theorem headFirst_eq (ctx : Context) (g : OptionGroup Expr) :
    headFirst ctx g = g.first.2.head ctx := by
  cases g <;> rfl

/-- An option group leads where the variant taken leads. -/
@[simp] theorem head_option (ctx : Context) (g : OptionGroup Expr) :
    (option g).head ctx = (g.resolve ctx).head ctx := by
  rw [head, headSelected?_eq, headFirst_eq, OptionGroup.resolve_eq]
  cases g.selected? ctx <;> rfl

theorem selectedPieces?_eq (strict : Bool) (ctx : Context) (g : OptionGroup Expr) :
    selectedPieces? strict ctx g = (g.selected? ctx).map fun v => v.2.pieces strict ctx := by
  induction g with
  | last key e => simp only [selectedPieces?, OptionGroup.selected?]; split <;> rfl
  | cons key e rest ih => simp only [selectedPieces?, OptionGroup.selected?, ih]; split <;> rfl

theorem firstPieces_eq (strict : Bool) (ctx : Context) (g : OptionGroup Expr) :
    firstPieces strict ctx g = g.first.2.pieces strict ctx := by
  cases g <;> rfl

/-- An option group is compiled as the variant taken. -/
@[simp] theorem pieces_option (strict : Bool) (ctx : Context) (g : OptionGroup Expr) :
    (option g).pieces strict ctx = (g.resolve ctx).pieces strict ctx := by
  rw [pieces, selectedPieces?_eq, firstPieces_eq, OptionGroup.resolve_eq]
  cases g.selected? ctx <;> rfl

end Expr

namespace Clause

variable (config : Config) (ctx : Context) (scope : Scope)

theorem selectedPieces?_eq (g : OptionGroup Clause) :
    selectedPieces? config ctx scope g =
      (g.selected? ctx).map fun v => v.2.pieces config ctx scope := by
  induction g with
  | last key c => simp only [selectedPieces?, OptionGroup.selected?]; split <;> rfl
  | cons key c rest ih => simp only [selectedPieces?, OptionGroup.selected?, ih]; split <;> rfl

theorem firstPieces_eq (g : OptionGroup Clause) :
    firstPieces config ctx scope g = g.first.2.pieces config ctx scope := by
  cases g <;> rfl

@[simp] theorem pieces_option (g : OptionGroup Clause) :
    (option g).pieces config ctx scope = (g.resolve ctx).pieces config ctx scope := by
  rw [pieces, selectedPieces?_eq, firstPieces_eq, OptionGroup.resolve_eq]
  cases g.selected? ctx <;> rfl

end Clause

end CypherTemplate
