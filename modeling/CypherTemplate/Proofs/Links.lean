import CypherTemplate.Proofs.Normal

/-!
Expressions as they are written: a leaf and the links behind it, each an operator with the first leaf of
its next operand. Nothing is written for the grouping of operators, so an expression may be regrouped
with its links unchanged: AND is loosest then, and all other operators group to the left. An expression
that is grouped like this already stays as it is when it is flat.
-/
namespace CypherTemplate

/-- What is written behind an operand, with the first leaf of the next one. -/
inductive Link where
  | equal (leaf : Expr)
  | like (pattern : String)
  | named (name : String)
  | conj (leaf : Expr)

namespace Expr

mutual
/-- The leaf that is written first. -/
def first : Expr → Expr
  | .alias inner _ => inner.first
  | .equal left _ => left.first
  | .like left _ => left.first
  | .conj operands => firstOperand operands
  | e => e

def firstOperand : List Expr → Expr
  | [] => .literal (.bool true)
  | e :: _ => e.first
end

mutual
/-- The links behind the first leaf. -/
def links : Expr → List Link
  | .alias inner name => inner.links ++ [.named name]
  | .equal left right => left.links ++ .equal right.first :: right.links
  | .like left pattern => left.links ++ [.like pattern]
  | .conj [] => []
  | .conj (e :: es) => e.links ++ furtherLinks es
  | _ => []

/-- The links of all operands but the first of a conjunction. -/
def furtherLinks : List Expr → List Link
  | [] => []
  | e :: es => .conj e.first :: e.links ++ furtherLinks es
end

/-- The operands of a conjunction that are read from a first one and the links behind it. -/
def regroup (e : Expr) : List Link → List Expr
  | [] => [e]
  | .equal l :: ks => regroup (.equal e l) ks
  | .like pattern :: ks => regroup (.like e pattern) ks
  | .named name :: ks => regroup (.alias e name) ks
  | .conj l :: ks => e :: regroup l ks

/-- The expression as its text groups it. -/
def regrouped (e : Expr) : Expr := joined (regroup e.first e.links)

/-- Operators behind a leaf, grouped to the left. -/
inductive Chain : Expr → Prop where
  | leaf {e : Expr} : e.isLeaf → Chain e
  | equal {left right : Expr} : left.Chain → right.isLeaf → Chain (.equal left right)
  | like {left : Expr} {pattern : String} : left.Chain → Chain (.like left pattern)
  | aliased {inner : Expr} {name : String} : inner.Chain → Chain (.alias inner name)

/-- Whether an expression is grouped as its text is read: AND stands under no other operator, and an
equation has a leaf on its right. -/
def Grouped (e : Expr) : Prop := ∀ c ∈ e.conjuncts, c.Chain

theorem furtherLinks_append (es fs : List Expr) :
    furtherLinks (es ++ fs) = furtherLinks es ++ furtherLinks fs := by
  induction es with
  | nil => rfl
  | cons e es ih => simp [furtherLinks, ih]

theorem furtherLinks_eq {es : List Expr} (h : es ≠ []) :
    furtherLinks es = .conj (conj es).first :: (conj es).links := by
  cases es with
  | nil => exact absurd rfl h
  | cons e es => rfl

theorem first_links_of_isLeaf {e : Expr} (h : e.isLeaf) : e.first = e ∧ e.links = [] := by
  cases e with
  | property entity key => exact ⟨rfl, rfl⟩
  | literal v => exact ⟨rfl, rfl⟩
  | param name => exact ⟨rfl, rfl⟩
  | _ => cases h

/-- Joining is the same in the text as a conjunction. -/
theorem first_links_joined (es : List Expr) :
    (joined es).first = (conj es).first ∧ (joined es).links = (conj es).links := by
  cases es with
  | nil => exact ⟨rfl, rfl⟩
  | cons e es =>
    cases es with
    | nil => simp [joined, first, firstOperand, links, furtherLinks]
    | cons f fs => exact ⟨rfl, rfl⟩

theorem first_links_append {es : List Expr} (h : es ≠ []) (fs : List Expr) :
    (conj (es ++ fs)).first = (conj es).first ∧
      (conj (es ++ fs)).links = (conj es).links ++ furtherLinks fs := by
  cases es with
  | nil => exact absurd rfl h
  | cons e es =>
    refine ⟨rfl, ?_⟩
    rw [List.cons_append, links, links, furtherLinks_append, List.append_assoc]

theorem first_links_conjuncts_flat (e : Expr) :
    (conj e.flat.conjuncts).first = e.flat.first ∧ (conj e.flat.conjuncts).links = e.flat.links := by
  obtain ⟨hfirst, hlinks⟩ := first_links_joined e.flat.conjuncts
  rw [(conjuncts_flat e).2.2] at hfirst hlinks
  exact ⟨hfirst.symm, hlinks.symm⟩

theorem furtherLinks_flatMap {es : List Expr}
    (h : ∀ e ∈ es, e.flat.first = e.first ∧ e.flat.links = e.links) :
    furtherLinks (es.flatMap fun e => e.flat.conjuncts) = furtherLinks es := by
  induction es with
  | nil => rfl
  | cons e es ih =>
    obtain ⟨⟨hfirst, hlinks⟩, hes⟩ := List.forall_mem_cons.1 h
    obtain ⟨hcf, hcl⟩ := first_links_conjuncts_flat e
    rw [List.flatMap_cons, furtherLinks_append, ih hes, furtherLinks_eq (conjuncts_flat e).2.1, hcf,
      hcl, hfirst, hlinks]
    rfl

/-- So flattening does not show. -/
theorem first_links_flat (e : Expr) : e.flat.first = e.first ∧ e.flat.links = e.links := by
  induction e with
  | aliased inner name ih => exact ⟨ih.1, by rw [flat, links, links, ih.2]⟩
  | equal left right ihl ihr =>
    exact ⟨ihl.1, by rw [flat, links, links, ihl.2, ihr.1, ihr.2]⟩
  | like left pattern ih => exact ⟨ih.1, by rw [flat, links, links, ih.2]⟩
  | conj es ih =>
    obtain ⟨hjf, hjl⟩ := first_links_joined (es.flatMap fun e => e.flat.conjuncts)
    rw [flat_conj, hjf, hjl]
    cases es with
    | nil => exact ⟨rfl, rfl⟩
    | cons e es =>
      obtain ⟨⟨hfirst, hlinks⟩, hes⟩ := List.forall_mem_cons.1 ih
      obtain ⟨hcf, hcl⟩ := first_links_conjuncts_flat e
      obtain ⟨haf, hal⟩ := first_links_append (conjuncts_flat e).2.1
        (es.flatMap fun e => e.flat.conjuncts)
      rw [List.flatMap_cons, haf, hal, hcf, hcl, hfirst, hlinks, furtherLinks_flatMap hes]
      exact ⟨rfl, rfl⟩
  | _ => exact ⟨rfl, rfl⟩

/-- A chain is what is read of its own links. -/
theorem regroup_of_chain {e : Expr} (h : e.Chain) (ks : List Link) :
    regroup e.first (e.links ++ ks) = regroup e ks := by
  induction h generalizing ks with
  | leaf hl =>
    obtain ⟨hfirst, hlinks⟩ := first_links_of_isLeaf hl
    rw [hfirst, hlinks, List.nil_append]
  | @equal left right _ hr ih =>
    obtain ⟨hfirst, hlinks⟩ := first_links_of_isLeaf hr
    rw [first, links, hfirst, hlinks, List.append_assoc, ih]
    rfl
  | like _ ih =>
    rw [first, links, List.append_assoc, ih]
    rfl
  | aliased _ ih =>
    rw [first, links, List.append_assoc, ih]
    rfl

theorem regroup_of_chains {es : List Expr} (hne : es ≠ []) (h : ∀ e ∈ es, e.Chain) :
    regroup (conj es).first (conj es).links = es := by
  induction es with
  | nil => exact absurd rfl hne
  | cons e es ih =>
    obtain ⟨he, hes⟩ := List.forall_mem_cons.1 h
    have hread := regroup_of_chain he (furtherLinks es)
    rw [links]
    refine hread.trans ?_
    by_cases hnil : es = []
    · rw [hnil]
      rfl
    · rw [furtherLinks_eq hnil, regroup, ih hnil hes]

theorem regrouped_of_grouped {e : Expr} (h : e.flat.Grouped) : e.regrouped = e.flat := by
  obtain ⟨hfirst, hlinks⟩ := first_links_flat e
  obtain ⟨hcf, hcl⟩ := first_links_conjuncts_flat e
  rw [regrouped, ← hfirst, ← hlinks, ← hcf, ← hcl, regroup_of_chains (conjuncts_flat e).2.1 h,
    (conjuncts_flat e).2.2]

theorem regroup_ne_nil (e : Expr) (ks : List Link) : regroup e ks ≠ [] := by
  induction ks generalizing e with
  | nil => exact List.cons_ne_nil _ _
  | cons k ks ih =>
    cases k with
    | equal l => exact ih _
    | like pattern => exact ih _
    | named name => exact ih _
    | conj l => exact List.cons_ne_nil _ _

end Expr

namespace Link

/-- The leaf at the end of a link. -/
def leaf? : Link → Option Expr
  | .equal l => some l
  | .conj l => some l
  | _ => none

def sanitized : Link → Link
  | .equal l => .equal l.sanitized
  | .like pattern => .like pattern
  | .named name => .named (Name.sanitized name)
  | .conj l => .conj l.sanitized

end Link

namespace Expr

/-- Regrouping does not show either. -/
theorem first_links_regroup (e : Expr) {ks : List Link} (h : ∀ k ∈ ks, ∀ l ∈ k.leaf?, l.isLeaf) :
    (conj (regroup e ks)).first = e.first ∧ (conj (regroup e ks)).links = e.links ++ ks := by
  induction ks generalizing e with
  | nil => exact ⟨rfl, rfl⟩
  | cons k ks ih =>
    obtain ⟨hk, hks⟩ := List.forall_mem_cons.1 h
    cases k with
    | equal l =>
      obtain ⟨hfirst, hlinks⟩ := first_links_of_isLeaf (hk l rfl)
      obtain ⟨hrf, hrl⟩ := ih (.equal e l) hks
      rw [regroup, hrf, hrl, first, links, hfirst, hlinks, List.append_assoc]
      exact ⟨rfl, rfl⟩
    | like pattern =>
      obtain ⟨hrf, hrl⟩ := ih (.like e pattern) hks
      rw [regroup, hrf, hrl, first, links, List.append_assoc]
      exact ⟨rfl, rfl⟩
    | named name =>
      obtain ⟨hrf, hrl⟩ := ih (.alias e name) hks
      rw [regroup, hrf, hrl, first, links, List.append_assoc]
      exact ⟨rfl, rfl⟩
    | conj l =>
      obtain ⟨hfirst, hlinks⟩ := first_links_of_isLeaf (hk l rfl)
      obtain ⟨hrf, hrl⟩ := ih l hks
      rw [regroup, first, firstOperand, links, furtherLinks_eq (regroup_ne_nil l ks), hrf, hrl, hfirst,
        hlinks]
      exact ⟨rfl, rfl⟩

theorem furtherLinks_sanitized {es : List Expr}
    (h : ∀ e ∈ es, e.sanitized.first = e.first.sanitized ∧
      e.sanitized.links = e.links.map Link.sanitized) :
    furtherLinks (es.map sanitized) = (furtherLinks es).map Link.sanitized := by
  induction es with
  | nil => rfl
  | cons e es ih =>
    obtain ⟨⟨hfirst, hlinks⟩, hes⟩ := List.forall_mem_cons.1 h
    rw [List.map_cons, furtherLinks, furtherLinks, List.map_append, ih hes, hfirst, hlinks]
    rfl

theorem first_links_sanitized (e : Expr) :
    e.sanitized.first = e.first.sanitized ∧ e.sanitized.links = e.links.map Link.sanitized := by
  induction e with
  | aliased inner name ih => simp [sanitized, first, links, ih.1, ih.2, Link.sanitized]
  | equal left right ihl ihr =>
    simp [sanitized, first, links, ihl.1, ihl.2, ihr.1, ihr.2, Link.sanitized]
  | like left pattern ih => simp [sanitized, first, links, ih.1, ih.2, Link.sanitized]
  | conj es ih =>
    rw [sanitized_conj]
    cases es with
    | nil => exact ⟨rfl, rfl⟩
    | cons e es =>
      obtain ⟨⟨hfirst, hlinks⟩, hes⟩ := List.forall_mem_cons.1 ih
      rw [List.map_cons, links, links, List.map_append, hlinks, furtherLinks_sanitized hes]
      exact ⟨hfirst, rfl⟩
  | _ => exact ⟨rfl, rfl⟩

theorem map_sanitized_regroup (e : Expr) (ks : List Link) :
    (regroup e ks).map sanitized = regroup e.sanitized (ks.map Link.sanitized) := by
  induction ks generalizing e with
  | nil => rfl
  | cons k ks ih =>
    cases k with
    | equal l => exact ih _
    | like pattern => exact ih _
    | named name => exact ih _
    | conj l => exact congrArg (e.sanitized :: ·) (ih l)

theorem sanitized_regrouped (e : Expr) :
    e.regrouped.sanitized = joined (regroup e.first.sanitized (e.links.map Link.sanitized)) := by
  rw [regrouped, sanitized_joined, map_sanitized_regroup]

theorem first_links_regrouped {e : Expr} (hfirst : e.first.isLeaf)
    (hlinks : ∀ k ∈ e.links, ∀ l ∈ k.leaf?, l.isLeaf) :
    e.regrouped.first = e.first ∧ e.regrouped.links = e.links := by
  obtain ⟨hjf, hjl⟩ := first_links_joined (regroup e.first e.links)
  obtain ⟨hrf, hrl⟩ := first_links_regroup e.first hlinks
  obtain ⟨hf, hl⟩ := first_links_of_isLeaf hfirst
  rw [regrouped, hjf, hjl, hrf, hrl, hf, hl]
  exact ⟨rfl, rfl⟩

end Expr

end CypherTemplate
