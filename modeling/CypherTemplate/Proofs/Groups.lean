import CypherTemplate.Proofs.Induction

/-!
The option groups of a template and what they take. A group takes the variant of the first key that the
context selects, or its first variant, as a default, when no key does; this variant always stands at a
place that there is. The groups of a template, at every depth, are told by their keys.
-/
namespace CypherTemplate

namespace OptionGroup

variable {α : Type}

theorem eq_nil_of_ofList? {vs : List (String × α)} (h : ofList? vs = none) : vs = [] := by
  cases vs with
  | nil => rfl
  | cons v vs =>
    rw [ofList?] at h
    split at h <;> cases h

theorem keys_ne_nil (g : OptionGroup α) : g.keys ≠ [] := by
  simp [keys]

/-- The place of the key that is taken in a context: the first that selects, or else the first of
all. -/
def index (ctx : Context) (keys : List String) : Nat :=
  (keys.findIdx? ctx.selects).getD 0

theorem index_lt {ctx : Context} {keys : List String} (h : keys ≠ []) :
    index ctx keys < keys.length := by
  rw [index]
  cases hfind : keys.findIdx? ctx.selects with
  | none => exact List.length_pos_iff.2 h
  | some i => exact (List.findIdx?_eq_some_iff_getElem.1 hfind).1

/-- Whether what is taken of a group in a context is the variant of the first key that selects, or
the first variant of all, as a default, when no key selects. -/
structure Takes (g : OptionGroup α) (ctx : Context) (s : Selection α) : Prop where
  stands : g.toList[index ctx g.keys]? = some (s.key, s.value)
  defaulted_iff : s.defaulted = true ↔ ∀ key ∈ g.keys, ctx.selects key = false
  first : s.defaulted = true → (s.key, s.value) = g.first
  selected : s.defaulted = false →
    ctx.selects s.key = true ∧ ∀ key ∈ g.keys.take (index ctx g.keys), ctx.selects key = false

theorem takes_first {g : OptionGroup α} {ctx : Context}
    (h : ∀ key ∈ g.keys, ctx.selects key = false) : g.Takes ctx ⟨g.first.1, g.first.2, true⟩ where
  stands := by
    rw [index, List.findIdx?_eq_none_iff.2 h]
    cases g <;> rfl
  defaulted_iff := iff_of_true rfl h
  first := fun _ => rfl
  selected := nofun

theorem takes_selected {g : OptionGroup α} {ctx : Context} {v : String × α}
    (h : g.selected? ctx = some v) : g.Takes ctx ⟨v.1, v.2, false⟩ := by
  rw [selected?_eq_find?, List.find?_eq_some_iff_getElem] at h
  obtain ⟨hselects, i, hi, hv, hbefore⟩ := h
  have hfind : g.toList.findIdx? (ctx.selects ∘ Prod.fst) = some i := by
    rw [List.findIdx?_eq_some_iff_getElem]
    refine ⟨hi, by rwa [Function.comp, hv], fun j hj => ?_⟩
    simpa using hbefore j hj
  have hindex : index ctx g.keys = i := by
    rw [index, keys, List.findIdx?_map, hfind]
    rfl
  refine ⟨?_, iff_of_false nofun fun hnone => ?_, nofun, fun _ => ⟨hselects, ?_⟩⟩
  · rw [hindex, List.getElem?_eq_getElem hi, hv]
  · have hkey : v.1 ∈ g.keys := List.mem_map_of_mem (hv ▸ List.getElem_mem hi)
    simp [hnone v.1 hkey] at hselects
  · intro key hkey
    rw [hindex, keys, ← List.map_take] at hkey
    obtain ⟨w, hw, rfl⟩ := List.mem_map.1 hkey
    obtain ⟨j, hj, rfl⟩ := List.mem_take_iff_getElem.1 hw
    simpa using hbefore j (by omega)

/-- A group takes a variant that it has. -/
theorem takes_select (g : OptionGroup α) (ctx : Context) : g.Takes ctx (g.select ctx) := by
  rw [select]
  cases h : g.selected? ctx with
  | some v => exact takes_selected h
  | none =>
    rw [selected?_eq_find?, List.find?_eq_none] at h
    exact takes_first (List.forall_mem_map.2 fun v hv => Bool.eq_false_iff.2 (h v hv))

end OptionGroup

namespace Expr

mutual
/-- The keys of every option group of an expression, of those inside variants too. -/
def groupKeys : Expr → List (List String)
  | .property _ _ | .literal _ | .param _ => []
  | .alias inner _ => inner.groupKeys
  | .equal left right => left.groupKeys ++ right.groupKeys
  | .like left _ => left.groupKeys
  | .conj operands => allGroupKeys operands
  | .option g => g.keys :: variantGroupKeys g

def allGroupKeys : List Expr → List (List String)
  | [] => []
  | e :: es => e.groupKeys ++ allGroupKeys es

def variantGroupKeys : OptionGroup Expr → List (List String)
  | .last _ e => e.groupKeys
  | .cons _ e rest => e.groupKeys ++ variantGroupKeys rest
end

theorem allGroupKeys_eq (es : List Expr) : allGroupKeys es = es.flatMap groupKeys := by
  induction es with
  | nil => rfl
  | cons e es ih => rw [allGroupKeys, ih, List.flatMap_cons]

theorem variantGroupKeys_eq (g : OptionGroup Expr) :
    variantGroupKeys g = g.toList.flatMap fun v => v.2.groupKeys := by
  induction g with
  | last key e => simp [variantGroupKeys, OptionGroup.toList]
  | cons key e rest ih => rw [variantGroupKeys, ih, OptionGroup.toList, List.flatMap_cons]

@[simp] theorem groupKeys_conj (es : List Expr) : (conj es).groupKeys = es.flatMap groupKeys := by
  rw [groupKeys, allGroupKeys_eq]

@[simp] theorem groupKeys_option (g : OptionGroup Expr) :
    (option g).groupKeys = g.keys :: g.toList.flatMap fun v => v.2.groupKeys := by
  rw [groupKeys, variantGroupKeys_eq]

theorem flatMap_groupKeys_conjuncts (e : Expr) :
    e.conjuncts.flatMap groupKeys = e.groupKeys := by
  cases e <;> simp [conjuncts]

/-- The groups of a conjunction are those of the expressions it is built of. -/
theorem groupKeys_and (es : List Expr) : (and es).groupKeys = es.flatMap groupKeys := by
  rw [and, groupKeys_conj, List.flatMap_assoc]
  simp only [flatMap_groupKeys_conjuncts]

theorem nil_notMem_groupKeys (e : Expr) : [] ∉ e.groupKeys := by
  induction e with
  | property entity key => exact List.not_mem_nil
  | literal v => exact List.not_mem_nil
  | param name => exact List.not_mem_nil
  | aliased inner name ih => exact ih
  | equal left right ihl ihr => exact List.not_mem_append ihl ihr
  | like left pattern ih => exact ih
  | conj es ih =>
    rw [groupKeys_conj, List.mem_flatMap]
    rintro ⟨e, he, hmem⟩
    exact ih e he hmem
  | option g ih =>
    rw [groupKeys_option, List.mem_cons, List.mem_flatMap]
    rintro (hempty | ⟨v, hv, hmem⟩)
    · exact g.keys_ne_nil hempty.symm
    · exact ih v hv hmem

end Expr

def OrderToken.groupKeys : OrderToken → List (List String)
  | .field e => e.groupKeys
  | .direction _ => []

namespace OrderBy

def groupKeys (o : OrderBy) : List (List String) :=
  o.tokens.flatMap OrderToken.groupKeys

theorem groupKeys_field (o : OrderBy) (e : Expr) :
    (o.field e).groupKeys = o.groupKeys ++ e.groupKeys := by
  simp [groupKeys, field, OrderToken.groupKeys]

theorem groupKeys_direction (o : OrderBy) (d : Direction) :
    (o.direction d).groupKeys = o.groupKeys := by
  simp [groupKeys, direction, OrderToken.groupKeys]

theorem nil_notMem_groupKeys (o : OrderBy) : [] ∉ o.groupKeys := by
  rw [groupKeys, List.mem_flatMap]
  rintro ⟨t, _, hmem⟩
  cases t with
  | field e => exact e.nil_notMem_groupKeys hmem
  | direction d => cases hmem

end OrderBy

namespace Clause

mutual
/-- The keys of every option group of a clause, be it one of clauses or one of expressions. -/
def groupKeys : Clause → List (List String)
  | .matching _ => []
  | .filter e => e.groupKeys
  | .returning es => es.flatMap Expr.groupKeys
  | .orderBy o => o.groupKeys
  | .limit _ => []
  | .option g => g.keys :: variantGroupKeys g

def variantGroupKeys : OptionGroup Clause → List (List String)
  | .last _ c => c.groupKeys
  | .cons _ c rest => c.groupKeys ++ variantGroupKeys rest
end

theorem variantGroupKeys_eq (g : OptionGroup Clause) :
    variantGroupKeys g = g.toList.flatMap fun v => v.2.groupKeys := by
  induction g with
  | last key c => simp [variantGroupKeys, OptionGroup.toList]
  | cons key c rest ih => rw [variantGroupKeys, ih, OptionGroup.toList, List.flatMap_cons]

@[simp] theorem groupKeys_option (g : OptionGroup Clause) :
    (option g).groupKeys = g.keys :: g.toList.flatMap fun v => v.2.groupKeys := by
  rw [groupKeys, variantGroupKeys_eq]

theorem nil_notMem_groupKeys (c : Clause) : [] ∉ c.groupKeys := by
  induction c with
  | matching ps => exact List.not_mem_nil
  | filter e => exact e.nil_notMem_groupKeys
  | returning es =>
    rw [groupKeys, List.mem_flatMap]
    rintro ⟨e, _, hmem⟩
    exact e.nil_notMem_groupKeys hmem
  | orderBy o => exact o.nil_notMem_groupKeys
  | limit n => exact List.not_mem_nil
  | option g ih =>
    rw [groupKeys_option, List.mem_cons, List.mem_flatMap]
    rintro (hempty | ⟨v, hv, hmem⟩)
    · exact g.keys_ne_nil hempty.symm
    · exact ih v hv hmem

end Clause

namespace Template

def groupKeys (t : Template) : List (List String) :=
  t.clauses.flatMap Clause.groupKeys

theorem groupKeys_add (t : Template) (c : Clause) :
    (t.add c).groupKeys = t.groupKeys ++ c.groupKeys := by
  simp [groupKeys, add]

/-- No group of a template is empty. -/
theorem nil_notMem_groupKeys (t : Template) : [] ∉ t.groupKeys := by
  rw [groupKeys, List.mem_flatMap]
  rintro ⟨c, _, hmem⟩
  exact c.nil_notMem_groupKeys hmem

end Template

end CypherTemplate
