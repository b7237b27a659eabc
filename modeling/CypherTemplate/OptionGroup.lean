import CypherTemplate.Context

/-!
Option groups: one or more variants under keys, of which a context selects one. The first variant
whose key selects is taken, and the first of all when no key does.
-/
namespace CypherTemplate

/-- Variants in declared order; there is always a first one. -/
inductive OptionGroup (α : Type) where
  | last (key : String) (value : α)
  | cons (key : String) (value : α) (rest : OptionGroup α)

/-- The variant that was taken. -/
structure Selection (α : Type) where
  key : String
  value : α
  /-- Whether no key selected. -/
  defaulted : Bool

namespace OptionGroup

variable {α : Type}

/-- The group of some variants, if there are any. -/
def ofList? : List (String × α) → Option (OptionGroup α)
  | [] => none
  | (key, value) :: vs =>
    match ofList? vs with
    | none => some (.last key value)
    | some rest => some (.cons key value rest)

def toList : OptionGroup α → List (String × α)
  | .last key value => [(key, value)]
  | .cons key value rest => (key, value) :: rest.toList

def first : OptionGroup α → String × α
  | .last key value => (key, value)
  | .cons key value _ => (key, value)

def keys (g : OptionGroup α) : List String :=
  g.toList.map (·.1)

/-- The first variant whose key the context selects. -/
def selected? (ctx : Context) : OptionGroup α → Option (String × α)
  | .last key value => if ctx.selects key then some (key, value) else none
  | .cons key value rest => if ctx.selects key then some (key, value) else rest.selected? ctx

/-- The variant taken in a context. -/
def select (g : OptionGroup α) (ctx : Context) : Selection α :=
  match g.selected? ctx with
  | some (key, value) => ⟨key, value, false⟩
  | none => ⟨g.first.1, g.first.2, true⟩

/-- The value of the variant taken in a context. -/
def resolve (g : OptionGroup α) (ctx : Context) : α := (g.select ctx).value

@[simp] theorem toList_ne_nil (g : OptionGroup α) : g.toList ≠ [] := by
  cases g <;> simp [toList]

@[simp] theorem ofList?_nil : (ofList? [] : Option (OptionGroup α)) = none := rfl

theorem ofList?_toList (g : OptionGroup α) : ofList? g.toList = some g := by
  induction g with
  | last key value => rfl
  | cons key value rest ih => simp [toList, ofList?, ih]

theorem toList_of_ofList? {vs : List (String × α)} {g : OptionGroup α} (h : ofList? vs = some g) :
    g.toList = vs := by
  induction vs generalizing g with
  | nil => simp at h
  | cons v vs ih =>
    simp only [ofList?] at h
    split at h
    · rename_i hn
      cases vs with
      | nil => cases h; rfl
      | cons w ws =>
        simp only [ofList?] at hn
        split at hn <;> simp at hn
    · rename_i hs
      cases h
      rw [toList, ih hs]

theorem selected?_eq_find? (g : OptionGroup α) (ctx : Context) :
    g.selected? ctx = g.toList.find? fun v => ctx.selects v.1 := by
  induction g with
  | last key value => simp [selected?, toList, List.find?_cons]; split <;> simp_all
  | cons key value rest ih => simp [selected?, toList, List.find?_cons, ih]; split <;> simp_all

end OptionGroup

end CypherTemplate
