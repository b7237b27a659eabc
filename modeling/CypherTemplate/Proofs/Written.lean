import CypherTemplate.Proofs.Resolution

/-!
The parts and the text of a template. Its leaves, parameters, variables and entities are listed in the
order of the text; its written form is the text that a template without option groups has whatever
is wrong with it.
-/
namespace CypherTemplate

namespace Expr

/-- Whether an expression has no parts: only these sort. -/
def isLeaf : Expr → Bool
  | .property _ _ | .literal _ | .param _ => true
  | _ => false

mutual
/-- The properties, literals and parameters of an expression, in the order of the text. Those of all
variants count. -/
def leaves : Expr → List Expr
  | .property entity key => [.property entity key]
  | .literal v => [.literal v]
  | .param name => [.param name]
  | .alias inner _ => inner.leaves
  | .equal left right => left.leaves ++ right.leaves
  | .like left _ => left.leaves
  | .conj operands => allLeaves operands
  | .option g => groupLeaves g

def allLeaves : List Expr → List Expr
  | [] => []
  | e :: es => e.leaves ++ allLeaves es

def groupLeaves : OptionGroup Expr → List Expr
  | .last _ e => e.leaves
  | .cons _ e rest => e.leaves ++ groupLeaves rest
end

mutual
/-- The pieces of an expression without option groups, whether or not its names are good. -/
def written : Expr → List Piece
  | .property entity key => [.text (entity.toList ++ '.' :: Name.escape key)]
  | .literal v => [.text v.literal]
  | .param name => [.param name]
  | .alias inner name => inner.written ++ aliasPieces name
  | .equal left right => left.written ++ .word " = " :: right.written
  | .like left pattern =>
    left.written ++ [.word " LIKE ", .text (Quoted.quote pattern.toList)]
  | .conj [] => [.word "true"]
  | .conj operands => [.word " AND "].intercalate (allWritten operands)
  | .option _ => []

def allWritten : List Expr → List (List Piece)
  | [] => []
  | e :: es => e.written :: allWritten es
end

/-- The pieces of a returned expression. -/
def itemWritten (implicit : Bool) (e : Expr) : List Piece :=
  match implicit, e.implicitAlias? with
  | true, some key => e.written ++ aliasPieces key
  | _, _ => e.written

theorem allLeaves_eq (es : List Expr) : allLeaves es = es.flatMap leaves := by
  induction es with
  | nil => rfl
  | cons e es ih => rw [allLeaves, ih, List.flatMap_cons]

theorem groupLeaves_eq (g : OptionGroup Expr) :
    groupLeaves g = g.toList.flatMap fun v => v.2.leaves := by
  induction g with
  | last key e => simp [groupLeaves, OptionGroup.toList]
  | cons key e rest ih => rw [groupLeaves, ih, OptionGroup.toList, List.flatMap_cons]

theorem allWritten_eq (es : List Expr) : allWritten es = es.map written := by
  induction es with
  | nil => rfl
  | cons e es ih => rw [allWritten, ih, List.map_cons]

@[simp] theorem leaves_conj (es : List Expr) : (conj es).leaves = es.flatMap leaves := by
  rw [leaves, allLeaves_eq]

@[simp] theorem leaves_option (g : OptionGroup Expr) :
    (option g).leaves = g.toList.flatMap fun v => v.2.leaves := by
  rw [leaves, groupLeaves_eq]

theorem written_conj {es : List Expr} (h : es ≠ []) :
    (conj es).written = [.word " AND "].intercalate (es.map written) := by
  rw [← allWritten_eq]
  cases es with
  | nil => exact absurd rfl h
  | cons e es => rfl

theorem isLeaf_of_mem_leaves {e l : Expr} (h : l ∈ e.leaves) : l.isLeaf := by
  induction e with
  | property entity key => simp_all [leaves, isLeaf]
  | literal v => simp_all [leaves, isLeaf]
  | param name => simp_all [leaves, isLeaf]
  | aliased inner name ih => exact ih h
  | equal left right ihl ihr => exact (List.mem_append.1 h).elim ihl ihr
  | like left pattern ih => exact ih h
  | conj es ih =>
    rw [leaves_conj] at h
    obtain ⟨e, he, hl⟩ := List.mem_flatMap.1 h
    exact ih e he hl
  | option g ih =>
    rw [leaves_option] at h
    obtain ⟨v, hv, hl⟩ := List.mem_flatMap.1 h
    exact ih v hv hl

theorem leaves_of_isLeaf {e : Expr} (h : e.isLeaf) : e.leaves = [e] := by
  cases e <;> simp_all [isLeaf, leaves]

theorem unsortable?_eq_none_iff {e : Expr} : e.unsortable? = none ↔ e.isLeaf := by
  cases e <;> simp [unsortable?, isLeaf]

/-- The name of a parameter. -/
def paramName? : Expr → Option String
  | .param name => some name
  | _ => none

/-- The variable of a property. -/
def variableName? : Expr → Option String
  | .property entity _ => some entity
  | _ => none

end Expr

namespace SortKey

def written (k : SortKey) : List Piece :=
  match k.2 with
  | some d => k.1.written ++ [.word " ", .word d.token]
  | none => k.1.written

end SortKey

namespace OrderBy

/-- The sort keys of an order whose directions are in place. -/
def keys (o : OrderBy) : List SortKey :=
  match o.sortKeys with
  | .ok ks => ks
  | .error _ => []

/-- Keys have the fields of the tokens, in the same order. -/
theorem map_fst_of_keysAfter {last : Option SortKey} {ts : List OrderToken} {ks : List SortKey}
    (h : keysAfter last ts = .ok ks) :
    ks.map (·.1) = last.toList.map (·.1) ++ ts.filterMap OrderToken.field? := by
  fun_induction keysAfter last ts generalizing ks with
  | case1 last =>
    cases h
    simp
  | case2 last e ts ih =>
    cases hr : keysAfter (some (e, none)) ts with
    | error err => simp [hr, bind, Except.bind] at h
    | ok ks' =>
      simp only [hr, bind, Except.bind, pure, Except.pure, Except.ok.injEq] at h
      simp [← h, ih hr, OrderToken.field?]
  | case3 d ts => cases h
  | case4 e d ts ih => exact ih h
  | case5 e d' d ts => cases h

theorem map_fst_of_sortKeys {o : OrderBy} {ks : List SortKey} (h : o.sortKeys = .ok ks) :
    ks.map (·.1) = o.sortFields :=
  map_fst_of_keysAfter h

theorem fst_mem_of_mem_keys {o : OrderBy} {k : SortKey} (h : k ∈ o.keys) : k.1 ∈ o.sortFields := by
  unfold keys at h
  split at h
  · rename_i ks hks
    rw [← map_fst_of_sortKeys hks]
    exact List.mem_map_of_mem h
  · cases h

end OrderBy

namespace Entity

def written (opening closing : String) (e : Entity) : List Piece :=
  [.word opening, .text e.text, .word closing]

end Entity

namespace Pattern

def written : Pattern → List Piece
  | .node e => e.written "(" ")"
  | .path relationship start stop =>
    start.toList.flatMap (Entity.written "(" ")") ++ relationship.written "-[" "]->" ++
      stop.toList.flatMap (Entity.written "(" ")")

end Pattern

namespace Clause

/-- The pieces of a clause that is no option group. -/
def written (implicit : Bool) : Clause → List Piece
  | .matching ps => listed "MATCH" (ps.map Pattern.written)
  | .filter e => listed "WHERE" [e.written]
  | .returning es => listed "RETURN" (es.map (Expr.itemWritten implicit))
  | .orderBy o => listed "ORDER BY" (o.keys.map SortKey.written)
  | .limit n => listed "LIMIT" [[.text (Nat.toDigits 10 n.toNat)]]
  | .option _ => []

mutual
/-- The leaves of all expressions of a clause, those of all variants included. -/
def leaves : Clause → List Expr
  | .matching _ => []
  | .filter e => e.leaves
  | .returning es => es.flatMap Expr.leaves
  | .orderBy o => o.sortFields.flatMap Expr.leaves
  | .limit _ => []
  | .option g => groupLeaves g

def groupLeaves : OptionGroup Clause → List Expr
  | .last _ c => c.leaves
  | .cons _ c rest => c.leaves ++ groupLeaves rest
end

/-- The entities of a clause that is no option group. -/
def entities : Clause → List Entity
  | .matching ps => ps.flatMap Pattern.entities
  | _ => []

theorem groupLeaves_eq (g : OptionGroup Clause) :
    groupLeaves g = g.toList.flatMap fun v => v.2.leaves := by
  induction g with
  | last key c => simp [groupLeaves, OptionGroup.toList]
  | cons key c rest ih => rw [groupLeaves, ih, OptionGroup.toList, List.flatMap_cons]

@[simp] theorem leaves_option (g : OptionGroup Clause) :
    (option g).leaves = g.toList.flatMap fun v => v.2.leaves := by
  rw [leaves, groupLeaves_eq]

end Clause

namespace Template

/-- The pieces of a template without option groups. -/
def written (implicit : Bool) (t : Template) : List Piece :=
  [.word " "].intercalate (t.clauses.map (Clause.written implicit))

/-- The leaves of all expressions of a template, those of all variants included. -/
def leaves (t : Template) : List Expr := t.clauses.flatMap Clause.leaves

/-- The parameters that occur in a template. -/
def params (t : Template) : List String := t.leaves.filterMap Expr.paramName?

/-- The variables of the properties in a template. -/
def variableNames (t : Template) : List String := t.leaves.filterMap Expr.variableName?

/-- The entities of a template without option groups. -/
def entities (t : Template) : List Entity := t.clauses.flatMap Clause.entities

end Template

end CypherTemplate
