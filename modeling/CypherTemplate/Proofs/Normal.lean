import CypherTemplate.Proofs.Readable

/-!
The normal form of templates without option groups: implicit aliases are written out, conjunctions
flattened and names sanitized, in this order. The predicates of a regular template compare leaves, and
only its returned items have aliases; such a predicate is written as its flat operands one after
another.
-/
namespace CypherTemplate

namespace Expr

/-- The conjunction of some operands: none are true and one stands for itself. -/
def joined : List Expr → Expr
  | [] => .literal (.bool true)
  | [e] => e
  | es => .conj es

mutual
/-- The expression with its conjunctions flattened from the inside out. -/
def flat : Expr → Expr
  | .alias inner name => .alias inner.flat name
  | .equal left right => .equal left.flat right.flat
  | .like left pattern => .like left.flat pattern
  | .conj operands => joined (flatOperands operands)
  | e => e

def flatOperands : List Expr → List Expr
  | [] => []
  | e :: es => e.flat.conjuncts ++ flatOperands es
end

mutual
/-- The expression with its keys, its alias names and the keys in its literals sanitized. -/
def sanitized : Expr → Expr
  | .property entity key => .property entity (Name.sanitized key)
  | .literal v => .literal v.sanitized
  | .alias inner name => .alias inner.sanitized (Name.sanitized name)
  | .equal left right => .equal left.sanitized right.sanitized
  | .like left pattern => .like left.sanitized pattern
  | .conj operands => .conj (sanitizedAll operands)
  | e => e

def sanitizedAll : List Expr → List Expr
  | [] => []
  | e :: es => e.sanitized :: sanitizedAll es
end

/-- A returned expression with its alias, also where it gets one of its own. -/
def explicit (implicit : Bool) (e : Expr) : Expr :=
  match implicit, e.implicitAlias? with
  | true, some key => .alias e key
  | _, _ => e

def normal (e : Expr) : Expr := e.flat.sanitized

/-- What stands between the conjunctions of a regular predicate. -/
inductive Comparison : Expr → Prop where
  | leaf {e : Expr} : e.isLeaf → Comparison e
  | equal {left right : Expr} : left.isLeaf → right.isLeaf → Comparison (.equal left right)
  | like {left : Expr} {pattern : String} : left.isLeaf → Comparison (.like left pattern)

/-- A comparison or a conjunction of predicates. -/
inductive Predicate : Expr → Prop where
  | comparison {e : Expr} : e.Comparison → Predicate e
  | conj {es : List Expr} : (∀ e ∈ es, e.Predicate) → Predicate (.conj es)

/-- A predicate behind any number of aliases. -/
inductive Item : Expr → Prop where
  | predicate {e : Expr} : e.Predicate → Item e
  | aliased {inner : Expr} {name : String} : inner.Item → Item (.alias inner name)

theorem flatOperands_eq (es : List Expr) :
    flatOperands es = es.flatMap fun e => e.flat.conjuncts := by
  induction es with
  | nil => rfl
  | cons e es ih => rw [flatOperands, ih, List.flatMap_cons]

theorem sanitizedAll_eq (es : List Expr) : sanitizedAll es = es.map sanitized := by
  induction es with
  | nil => rfl
  | cons e es ih => rw [sanitizedAll, ih, List.map_cons]

@[simp] theorem flat_conj (es : List Expr) :
    (conj es).flat = joined (es.flatMap fun e => e.flat.conjuncts) := by
  rw [flat, flatOperands_eq]

@[simp] theorem sanitized_conj (es : List Expr) :
    (conj es).sanitized = .conj (es.map sanitized) := by
  rw [sanitized, sanitizedAll_eq]

theorem sanitized_joined (es : List Expr) : (joined es).sanitized = joined (es.map sanitized) := by
  cases es with
  | nil => rfl
  | cons e es =>
    cases es with
    | nil => rfl
    | cons f fs => exact sanitized_conj (e :: f :: fs)

theorem flat_of_isLeaf {e : Expr} (h : e.isLeaf) : e.flat = e := by
  cases e with
  | property entity key => rfl
  | literal v => rfl
  | param name => rfl
  | _ => cases h

theorem flat_of_comparison {e : Expr} (h : e.Comparison) : e.flat = e := by
  cases h with
  | leaf hl => exact flat_of_isLeaf hl
  | equal hl hr => rw [flat, flat_of_isLeaf hl, flat_of_isLeaf hr]
  | like hl => rw [flat, flat_of_isLeaf hl]

theorem conjuncts_of_comparison {e : Expr} (h : e.Comparison) : e.conjuncts = [e] := by
  cases h with
  | leaf hl =>
    cases e with
    | conj es => cases hl
    | _ => rfl
  | equal _ _ => rfl
  | like _ => rfl

/-- Joining loses no operand that is no conjunction, but an empty conjunction is true. -/
theorem conjuncts_joined {es : List Expr} (h : ∀ e ∈ es, e.conjuncts = [e]) :
    (joined es).conjuncts = if es = [] then [.literal (.bool true)] else es := by
  cases es with
  | nil => rfl
  | cons e es =>
    rw [if_neg (List.cons_ne_nil e es)]
    cases es with
    | nil => exact h e List.mem_cons_self
    | cons f fs => rfl

theorem joined_conjuncts_joined {es : List Expr} (h : ∀ e ∈ es, e.conjuncts = [e]) :
    joined (joined es).conjuncts = joined es := by
  rw [conjuncts_joined h]
  split
  · rename_i hes
    rw [hes]
    rfl
  · rfl

/-- A flat expression joins its operands, of which there is at least one and none is a conjunction. -/
theorem conjuncts_flat (e : Expr) :
    (∀ c ∈ e.flat.conjuncts, c.conjuncts = [c]) ∧ e.flat.conjuncts ≠ [] ∧
      joined e.flat.conjuncts = e.flat := by
  induction e with
  | conj es ih =>
    have hall : ∀ c ∈ es.flatMap fun e => e.flat.conjuncts, c.conjuncts = [c] :=
      List.forall_mem_flatMap.2 fun e he => (ih e he).1
    rw [flat_conj, joined_conjuncts_joined hall, conjuncts_joined hall]
    split
    · exact ⟨List.forall_mem_singleton.2 rfl, List.cons_ne_nil _ _, rfl⟩
    · rename_i hne
      exact ⟨hall, hne, rfl⟩
  | _ => exact ⟨List.forall_mem_singleton.2 rfl, List.cons_ne_nil _ _, rfl⟩

theorem conjuncts_flat_conj (es : List Expr) :
    (conj es).flat.conjuncts =
      if (es.flatMap fun e => e.flat.conjuncts) = [] then [.literal (.bool true)]
      else es.flatMap fun e => e.flat.conjuncts := by
  rw [flat_conj, conjuncts_joined (List.forall_mem_flatMap.2 fun e _ => (conjuncts_flat e).1)]

/-- The operands of a flat predicate are comparisons. -/
theorem comparison_of_mem_conjuncts_flat {e : Expr} (h : e.Predicate) :
    ∀ c ∈ e.flat.conjuncts, c.Comparison := by
  induction h with
  | comparison hc =>
    rw [flat_of_comparison hc, conjuncts_of_comparison hc]
    exact List.forall_mem_singleton.2 hc
  | @conj es _ ih =>
    rw [conjuncts_flat_conj]
    split
    · exact List.forall_mem_singleton.2 (.leaf rfl)
    · exact List.forall_mem_flatMap.2 ih

/-- A returned expression is written with its alias, however it comes by it. -/
theorem itemWritten_eq (implicit : Bool) (e : Expr) :
    e.itemWritten implicit = (e.explicit implicit).written := by
  unfold itemWritten explicit
  cases implicit <;> cases e.implicitAlias? <;> rfl

theorem item_explicit (implicit : Bool) {e : Expr} (h : e.Item) : (e.explicit implicit).Item := by
  unfold explicit
  split
  · exact .aliased h
  · exact h

end Expr

/-- The entity with its labels sanitized. -/
def Entity.sanitized (e : Entity) : Entity := { e with labels := e.labels.map Name.sanitized }

def Pattern.sanitized : Pattern → Pattern
  | .node e => .node e.sanitized
  | .path relationship start stop =>
    .path relationship.sanitized (start.map Entity.sanitized) (stop.map Entity.sanitized)

namespace Clause

/-- The clause with its expressions in normal form and its labels sanitized. -/
def normal (implicit : Bool) : Clause → Clause
  | .matching ps => .matching (ps.map Pattern.sanitized)
  | .filter e => .filter e.normal
  | .returning es => .returning (es.map fun e => (e.explicit implicit).normal)
  | .orderBy o => .orderBy (o.map Expr.normal)
  | c => c

/-- A clause whose predicates compare leaves and have no aliases in them. -/
def Regular : Clause → Prop
  | .filter e => e.Predicate
  | .returning es => ∀ e ∈ es, e.Item
  | _ => True

end Clause

/-- A template of regular clauses. -/
def Template.Regular (t : Template) : Prop := ∀ c ∈ t.clauses, c.Regular

end CypherTemplate
