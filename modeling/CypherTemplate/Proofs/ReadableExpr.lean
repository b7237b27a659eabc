import CypherTemplate.Proofs.Normal

/-!
Readable expressions. The leaves, predicates, items and sort keys of regular templates are told apart
by their texts, up to their normal forms, in front of the words that may follow: a comparison goes on
with its sign, a predicate with AND, an item with AS and a key with its direction.
-/
namespace CypherTemplate

namespace Piece

theorem writeAll_intercalate (s : ParamStyle) (w : String) (pss : List (List Piece)) :
    writeAll s ([word w].intercalate pss) = w.toList.intercalate (pss.map (writeAll s)) := by
  induction pss with
  | nil => rfl
  | cons ps pss ih =>
    cases pss with
    | nil => simp
    | cons qs pss =>
      have hw : writeAll s [word w] = w.toList := by simp
      simp only [List.intercalate_cons_cons, writeAll_append, ih, List.map_cons, hw]

end Piece

theorem intercalate_append {α : Type} (sep : List α) {xs ys : List (List α)} (hx : xs ≠ [])
    (hy : ys ≠ []) :
    sep.intercalate (xs ++ ys) = sep.intercalate xs ++ sep ++ sep.intercalate ys := by
  induction xs with
  | nil => exact absurd rfl hx
  | cons x xs ih =>
    cases xs with
    | nil =>
      cases ys with
      | nil => exact absurd rfl hy
      | cons y ys => simp [List.intercalate_cons_cons]
    | cons z zs =>
      have hz := ih (List.cons_ne_nil z zs)
      rw [List.cons_append] at hz
      simp only [List.cons_append, List.intercalate_cons_cons, hz, List.append_assoc]

/-- Lists of lists may be joined at once, if none of them is empty. -/
theorem intercalate_map_intercalate {α β : Type} (sep : List β) {parts : α → List (List β)}
    {xs : List α} (h : ∀ x ∈ xs, parts x ≠ []) :
    sep.intercalate (xs.map fun x => sep.intercalate (parts x)) =
      sep.intercalate (xs.flatMap parts) := by
  induction xs with
  | nil => rfl
  | cons x xs ih =>
    have hxs := ih fun y hy => h y (List.mem_cons_of_mem x hy)
    cases xs with
    | nil => simp
    | cons y ys =>
      have hflat : (y :: ys).flatMap parts ≠ [] := by
        intro hnil
        have hy := h y (List.mem_cons_of_mem x List.mem_cons_self)
        exact hy (List.flatMap_eq_nil_iff.1 hnil y List.mem_cons_self)
      have hcons : (x :: y :: ys).flatMap parts = parts x ++ (y :: ys).flatMap parts := rfl
      rw [hcons, intercalate_append sep (h x List.mem_cons_self) hflat, ← hxs]
      exact List.intercalate_cons_cons

/-- The letters or the sign that follow a space. -/
def nextWord : List Char → List Char
  | ' ' :: cs => cs.takeWhile fun c => c.isAlpha || c = '='
  | _ => []

/-- A break that none of some words follows. -/
structure Ends (stops : List String) (cs : List Char) : Prop where
  breaks : Breaks cs
  word : ∀ w ∈ stops, nextWord cs ≠ w.toList

theorem Ends.mono {stops others : List String} {cs : List Char} (h : Ends stops cs)
    (hs : ∀ w ∈ others, w ∈ stops) : Ends others cs :=
  ⟨h.breaks, fun w hw => h.word w (hs w hw)⟩

theorem ends_comma {stops : List String} (h : ∀ w ∈ stops, w.toList ≠ []) (t : List Char) :
    Ends stops (", ".toList ++ t) :=
  ⟨breaks_cons.2 rfl, fun w hw heq => h w hw heq.symm⟩

namespace Expr

variable (s : ParamStyle)

/-- The text of an expression. -/
def text (e : Expr) : List Char := Piece.writeAll s e.written

theorem text_property (entity key : String) :
    (property entity key).text s = entity.toList ++ '.' :: Name.escape key := by
  simp [text, written, Piece.writeAll, Piece.write]

theorem text_literal (v : Value) : (literal v).text s = v.literal := by
  simp [text, written, Piece.writeAll, Piece.write]

theorem text_param (name : String) : (param name).text s = s.placeholder name.toList := by
  simp [text, written, Piece.writeAll, Piece.write]

theorem text_alias (inner : Expr) (name : String) :
    (Expr.alias inner name).text s = inner.text s ++ (" AS ".toList ++ Name.escape name) := by
  simp [text, written, aliasPieces, Piece.writeAll, Piece.write, Piece.word]

theorem text_equal (left right : Expr) :
    (equal left right).text s = left.text s ++ (" = ".toList ++ right.text s) := by
  simp [text, written, Piece.writeAll_word]

theorem text_like (left : Expr) (pattern : String) :
    (like left pattern).text s = left.text s ++ (" LIKE ".toList ++ Quoted.quote pattern.toList) := by
  simp [text, written, Piece.writeAll, Piece.write, Piece.word]

theorem text_conj {es : List Expr} (h : es ≠ []) :
    (conj es).text s = " AND ".toList.intercalate (es.map (text s)) := by
  rw [text, written_conj h, Piece.writeAll_intercalate, List.map_map]
  rfl

/-- A predicate is written as its flat operands. -/
theorem text_eq_intercalate {e : Expr} (h : e.Predicate) :
    e.text s = " AND ".toList.intercalate (e.flat.conjuncts.map (text s)) := by
  induction h with
  | comparison hc =>
    rw [flat_of_comparison hc, conjuncts_of_comparison hc]
    simp
  | @conj es _ ih =>
    rw [conjuncts_flat_conj]
    cases es with
    | nil => rfl
    | cons e es =>
      have hne : ∀ x ∈ e :: es, x.flat.conjuncts.map (text s) ≠ [] := fun x _ =>
        mt List.map_eq_nil_iff.1 (conjuncts_flat x).2.1
      have hflat : (e :: es).flatMap (fun e => e.flat.conjuncts) ≠ [] := fun hnil =>
        (conjuncts_flat e).2.1 (List.flatMap_eq_nil_iff.1 hnil e List.mem_cons_self)
      rw [text_conj s (List.cons_ne_nil e es), if_neg hflat, List.map_flatMap,
        ← intercalate_map_intercalate _ hne, List.map_congr_left ih]

variable {s}

/-- A variable and a point are no literal: a word ends at a break, and no other literal begins like a
variable. -/
theorem property_ne_literal {entity key : String} {v : Value} (h : Identifier.isVariable entity.toList)
    (r : List Char) {t : List Char} (ht : Breaks t) :
    (property entity key).text s ++ r ≠ (literal v).text s ++ t := by
  intro heq
  rw [text_property, text_literal, List.append_assoc, List.cons_append] at heq
  have hpart := Identifier.isPart_of_isVariable h
  by_cases hword : v.kind = 'a'
  · have hpoint : Identifier.isPart '.' = false := by decide
    have hdot : ∀ c ∈ ('.' :: (Name.escape key ++ r)).head?, Identifier.isPart c = false := by
      simp [hpoint]
    have hbreak : ∀ c ∈ t.head?, Identifier.isPart c = false := fun c hc =>
      not_isPart_of_isBreak (ht c hc)
    obtain ⟨_, hrest⟩ := append_inj_of_forall hpart (Value.forall_isPart_literal hword) hdot hbreak heq
    rw [← hrest, breaks_cons] at ht
    exact absurd ht (by decide)
  · obtain ⟨c, cs, hv, hc⟩ := v.exists_head
    cases hentity : entity.toList with
    | nil => simp [hentity, Identifier.isVariable] at h
    | cons d ds =>
      rw [hentity, hv] at heq
      obtain ⟨rfl, _⟩ := List.cons.inj heq
      have hstart : Identifier.isStart d := by
        simp only [hentity, Identifier.isVariable, Identifier.isPlain_cons, Bool.and_eq_true] at h
        exact h.1.1
      rcases Value.kindOf_of_isStart hstart with hk | hk
      · exact hword (hc.symm.trans hk)
      · exact v.kind_ne_underscore (hc.symm.trans hk)

theorem property_ne_param {entity key name : String} (h : Identifier.isVariable entity.toList)
    (r t : List Char) : (property entity key).text s ++ r ≠ (param name).text s ++ t := by
  intro heq
  rw [text_property, text_param, List.append_assoc] at heq
  have hpart := Identifier.isPart_of_isVariable h
  cases hentity : entity.toList with
  | nil => simp [hentity, Identifier.isVariable] at h
  | cons d ds =>
    rw [hentity] at heq hpart
    have hd := hpart d List.mem_cons_self
    cases s with
    | braces =>
      obtain ⟨rfl, _⟩ := List.cons.inj heq
      exact absurd hd (by decide)
    | dollar =>
      obtain ⟨rfl, _⟩ := List.cons.inj heq
      exact absurd hd (by decide)

/-- The first segment of a literal is no placeholder. -/
theorem literal_ne_param {v : Value} {name : String} (h : Identifier.isPlain name.toList)
    {r t : List Char} (hr : Breaks r) (ht : Breaks t) :
    (literal v).text s ++ r ≠ (param name).text s ++ t := by
  intro heq
  rw [text_literal, text] at heq
  have hv := v.inert_literal s
  have hsegments := hv.append r hr
  rw [heq] at hsegments
  have hparam := (Piece.cut_param (s := s) h).append t ht
  have htext := ParamStyle.flatMap_text_segments (s := s) v.literal
  cases hseg : s.segments v.literal with
  | nil =>
    rw [hseg] at htext
    exact v.literal_ne_nil htext.symm
  | cons g gs =>
    have hg : g = .placeholder name.toList := by
      have hboth := hsegments.symm.trans hparam
      rw [hseg] at hboth
      exact (List.cons.inj hboth).1
    have hclean := hv.clean g (hseg ▸ List.mem_cons_self)
    rw [hg] at hclean
    exact hclean rfl

/-- A leaf gives itself back, with its names sanitized. -/
theorem reads_leaf {l m : Expr} (hl : l.isLeaf) (hm : m.isLeaf) (pl : l.Plain) (pm : m.Plain) :
    Reads Breaks (text s) sanitized l m := by
  have hdot : Identifier.isPart '.' = false := by decide
  intro r t hr ht heq
  cases l with
  | property entity key =>
    cases m with
    | property entity' key' =>
      rw [text_property, text_property, List.append_assoc, List.append_assoc] at heq
      obtain ⟨hentity, hrest⟩ := append_inj_of_forall (Identifier.isPart_of_isVariable pl)
        (Identifier.isPart_of_isVariable pm) (by simp [hdot]) (by simp [hdot]) heq
      obtain ⟨hkey, hrest⟩ := Name.reads_escape key key' r t hr ht (List.cons.inj hrest).2
      rw [sanitized, sanitized, String.toList_inj.1 hentity, hkey]
      exact ⟨rfl, hrest⟩
    | literal v => exact absurd heq (property_ne_literal pl r ht)
    | param name => exact absurd heq (property_ne_param pl r t)
    | _ => cases hm
  | literal v =>
    cases m with
    | property entity key => exact absurd heq.symm (property_ne_literal pm t hr)
    | literal w =>
      rw [text_literal, text_literal] at heq
      obtain ⟨hvalue, hrest⟩ := Value.reads_literal v w r t hr ht heq
      rw [sanitized, sanitized, hvalue]
      exact ⟨rfl, hrest⟩
    | param name => exact absurd heq (literal_ne_param pm hr ht)
    | _ => cases hm
  | param name =>
    cases m with
    | property entity key => exact absurd heq.symm (property_ne_param pm t r)
    | literal v => exact absurd heq.symm (literal_ne_param pl ht hr)
    | param name' =>
      rw [text_param, text_param] at heq
      have hsplit := ParamStyle.splitPlaceholder_placeholder (s := s) pl hr
      rw [heq, ParamStyle.splitPlaceholder_placeholder pm ht] at hsplit
      obtain ⟨hname, hrest⟩ := Prod.mk.inj (Option.some.inj hsplit)
      rw [String.toList_inj.1 hname]
      exact ⟨rfl, hrest.symm⟩
    | _ => cases hm
  | _ => cases hl

/-- What a comparison compares, or the leaf that stands alone. -/
def subject : Expr → Expr
  | .equal left _ => left
  | .like left _ => left
  | e => e

/-- The text of a comparison behind its subject. -/
def ending (s : ParamStyle) : Expr → List Char
  | .equal _ right => " = ".toList ++ right.text s
  | .like _ pattern => " LIKE ".toList ++ Quoted.quote pattern.toList
  | _ => []

theorem subject_of_isLeaf {e : Expr} (h : e.isLeaf) : e.subject = e := by
  cases e with
  | equal left right => cases h
  | like left pattern => cases h
  | _ => rfl

theorem ending_of_isLeaf {e : Expr} (h : e.isLeaf) : e.ending s = [] := by
  cases e with
  | equal left right => cases h
  | like left pattern => cases h
  | _ => rfl

theorem ending_equal (left right : Expr) :
    (equal left right).ending s = " = ".toList ++ right.text s :=
  rfl

theorem ending_like (left : Expr) (pattern : String) :
    (like left pattern).ending s = " LIKE ".toList ++ Quoted.quote pattern.toList :=
  rfl

theorem isLeaf_subject {e : Expr} (h : e.Comparison) : e.subject.isLeaf := by
  cases h with
  | leaf hl => rwa [subject_of_isLeaf hl]
  | equal hl _ => exact hl
  | like hl => exact hl

theorem plain_subject {e : Expr} (h : e.Comparison) (hp : ∀ l ∈ e.leaves, l.Plain) :
    e.subject.Plain := by
  cases h with
  | leaf hl =>
    rw [subject_of_isLeaf hl]
    rw [leaves_of_isLeaf hl] at hp
    exact hp e (List.mem_singleton_self e)
  | @equal left right hl _ =>
    rw [leaves, leaves_of_isLeaf hl] at hp
    exact hp left List.mem_cons_self
  | @like left pattern hl =>
    rw [leaves, leaves_of_isLeaf hl] at hp
    exact hp left List.mem_cons_self

theorem text_comparison {e : Expr} (h : e.Comparison) :
    e.text s = e.subject.text s ++ e.ending s := by
  cases h with
  | leaf hl => rw [subject_of_isLeaf hl, ending_of_isLeaf hl, List.append_nil]
  | equal _ _ => exact text_equal s _ _
  | like _ => exact text_like s _ _

theorem breaks_ending {e : Expr} (h : e.Comparison) {r : List Char} (hr : Breaks r) :
    Breaks (e.ending s ++ r) := by
  cases h with
  | leaf hl => rwa [ending_of_isLeaf hl]
  | equal _ _ => exact breaks_cons.2 rfl
  | like _ => exact breaks_cons.2 rfl

/-- A comparison ends where no sign follows. -/
theorem reads_comparison {c d : Expr} (hc : c.Comparison) (hd : d.Comparison)
    (pc : ∀ l ∈ c.leaves, l.Plain) (pd : ∀ l ∈ d.leaves, l.Plain) :
    Reads (Ends ["=", "LIKE"]) (text s) sanitized c d := by
  intro r t hr ht heq
  rw [text_comparison hc, text_comparison hd, List.append_assoc, List.append_assoc] at heq
  obtain ⟨hsubject, hrest⟩ := reads_leaf (isLeaf_subject hc) (isLeaf_subject hd)
    (plain_subject hc pc) (plain_subject hd pd) _ _ (breaks_ending hc hr.breaks)
    (breaks_ending hd ht.breaks) heq
  have hword := congrArg nextWord hrest
  cases hc with
  | leaf hl =>
    rw [ending_of_isLeaf hl] at hrest hword
    rw [subject_of_isLeaf hl] at hsubject
    cases hd with
    | leaf hm =>
      rw [ending_of_isLeaf hm] at hrest
      rw [subject_of_isLeaf hm] at hsubject
      exact ⟨hsubject, hrest⟩
    | equal _ _ => exact absurd hword (hr.word "=" (by simp))
    | like _ => exact absurd hword (hr.word "LIKE" (by simp))
  | @equal left right hl hlr =>
    cases hd with
    | leaf hm =>
      rw [ending_of_isLeaf hm] at hword
      exact absurd hword.symm (ht.word "=" (by simp))
    | @equal left' right' hm hmr =>
      rw [leaves, leaves_of_isLeaf hl, leaves_of_isLeaf hlr] at pc
      rw [leaves, leaves_of_isLeaf hm, leaves_of_isLeaf hmr] at pd
      rw [ending_equal, ending_equal, List.append_assoc, List.append_assoc] at hrest
      obtain ⟨hright, hrest⟩ := reads_leaf hlr hmr (pc right (by simp)) (pd right' (by simp)) r t
        hr.breaks ht.breaks (List.append_cancel_left hrest)
      have hleft : left.sanitized = left'.sanitized := hsubject
      rw [sanitized, sanitized, hleft, hright]
      exact ⟨rfl, hrest⟩
    | like _ =>
      have hsign : "=".toList = "LIKE".toList := hword
      exact absurd hsign (by decide)
  | @like left pattern hl =>
    cases hd with
    | leaf hm =>
      rw [ending_of_isLeaf hm] at hword
      exact absurd hword.symm (ht.word "LIKE" (by simp))
    | equal _ _ =>
      have hsign : "LIKE".toList = "=".toList := hword
      exact absurd hsign (by decide)
    | @like left' pattern' hm =>
      rw [ending_like, ending_like, List.append_assoc, List.append_assoc] at hrest
      obtain ⟨hpattern, hrest⟩ := Quoted.quote_append_inj (List.append_cancel_left hrest)
      have hleft : left.sanitized = left'.sanitized := hsubject
      rw [sanitized, sanitized, hleft, String.toList_inj.1 hpattern]
      exact ⟨rfl, hrest⟩

theorem plain_conjuncts_flat {e : Expr} (h : e.Predicate) (hp : ∀ l ∈ e.leaves, l.Plain) :
    ∀ c ∈ e.flat.conjuncts, ∀ l ∈ c.leaves, l.Plain := by
  induction h with
  | comparison hc =>
    rw [flat_of_comparison hc, conjuncts_of_comparison hc]
    exact List.forall_mem_singleton.2 hp
  | @conj es _ ih =>
    rw [leaves_conj, List.forall_mem_flatMap] at hp
    rw [conjuncts_flat_conj]
    split
    · intro c hc l hl
      rw [List.mem_singleton.1 hc, leaves, List.mem_singleton] at hl
      rw [hl]
      trivial
    · exact List.forall_mem_flatMap.2 fun e he => ih e he (hp e he)

theorem normal_eq_joined (e : Expr) : e.normal = joined (e.flat.conjuncts.map sanitized) := by
  rw [normal, ← sanitized_joined, (conjuncts_flat e).2.2]

/-- A predicate ends where neither a sign nor a further operand follows. -/
theorem reads_predicate {e f : Expr} (he : e.Predicate) (hf : f.Predicate)
    (pe : ∀ l ∈ e.leaves, l.Plain) (pf : ∀ l ∈ f.leaves, l.Plain) :
    Reads (Ends ["=", "LIKE", "AND"]) (text s) normal e f := by
  have hands : ∀ t, Ends ["=", "LIKE"] (" AND ".toList ++ t) := fun t =>
    ⟨breaks_cons.2 rfl, by
      have hword : nextWord (" AND ".toList ++ t) = "AND".toList := rfl
      rw [hword]
      decide⟩
  have hbehind : ∀ {r}, Ends ["=", "LIKE", "AND"] r → ¬" AND ".toList <+: r := by
    rintro r hr ⟨u, rfl⟩
    exact hr.word "AND" (by simp) rfl
  intro r t hr ht heq
  rw [text_eq_intercalate s he, text_eq_intercalate s hf] at heq
  have hce := comparison_of_mem_conjuncts_flat he
  have hcf := comparison_of_mem_conjuncts_flat hf
  obtain ⟨hmap, hrest⟩ := reads_intercalate (conjuncts_flat e).2.1 (conjuncts_flat f).2.1
    (fun c hc d hd => reads_comparison (hce c hc) (hcf d hd) (plain_conjuncts_flat he pe c hc)
      (plain_conjuncts_flat hf pf d hd))
    (fun _ _ _ => hands _) (fun _ _ _ => hands _) (hr.mono (by simp)) (ht.mono (by simp))
    (hbehind hr) (hbehind ht) heq
  rw [normal_eq_joined e, normal_eq_joined f, hmap]
  exact ⟨rfl, hrest⟩

/-- An expression without the aliases around it. -/
def core : Expr → Expr
  | .alias inner _ => inner.core
  | e => e

/-- The names of the aliases around an expression, the outermost last. -/
def aliasNames : Expr → List String
  | .alias inner name => inner.aliasNames ++ [name]
  | _ => []

theorem core_of_predicate {e : Expr} (h : e.Predicate) : e.core = e ∧ e.aliasNames = [] := by
  cases h with
  | comparison hc =>
    cases hc with
    | leaf hl => cases e <;> first | exact ⟨rfl, rfl⟩ | cases hl
    | equal _ _ => exact ⟨rfl, rfl⟩
    | like _ => exact ⟨rfl, rfl⟩
  | conj _ => exact ⟨rfl, rfl⟩

theorem predicate_core {e : Expr} (h : e.Item) : e.core.Predicate := by
  induction h with
  | predicate hp => rwa [(core_of_predicate hp).1]
  | aliased _ ih => exact ih

theorem leaves_core (e : Expr) : e.core.leaves = e.leaves := by
  induction e with
  | aliased inner name ih => exact ih
  | _ => rfl

theorem text_item (e : Expr) :
    e.text s = e.core.text s ++ separated " AS ".toList Name.escape e.aliasNames := by
  induction e with
  | aliased inner name ih =>
    rw [text_alias, ih, core, aliasNames, List.append_assoc]
    simp [separated]
  | _ => simp [core, aliasNames, separated]

theorem normal_item (e : Expr) :
    e.normal = (e.aliasNames.map Name.sanitized).foldl .alias e.core.normal := by
  induction e with
  | aliased inner name ih =>
    have hn : (Expr.alias inner name).normal = .alias inner.normal (Name.sanitized name) := rfl
    rw [hn, ih, aliasNames, List.map_append, List.foldl_append]
    rfl
  | _ => rfl

/-- An item ends where its predicate would and no alias follows. -/
theorem reads_item {e f : Expr} (he : e.Item) (hf : f.Item) (pe : ∀ l ∈ e.leaves, l.Plain)
    (pf : ∀ l ∈ f.leaves, l.Plain) :
    Reads (Ends ["=", "LIKE", "AND", "AS"]) (text s) normal e f := by
  have hends : ∀ {names : List String} {r}, Ends ["=", "LIKE", "AND", "AS"] r →
      Ends ["=", "LIKE", "AND"] (separated " AS ".toList Name.escape names ++ r) := fun {_ r} hr =>
    follow_separated (fun _ _ t => ⟨breaks_cons.2 rfl, by
      have hword : ∀ u, nextWord (" AS ".toList ++ u) = "AS".toList := fun _ => rfl
      rw [hword]
      decide⟩) (hr.mono (by simp))
  have hbehind : ∀ {r}, Ends ["=", "LIKE", "AND", "AS"] r → ¬" AS ".toList <+: r := by
    rintro r hr ⟨u, rfl⟩
    exact hr.word "AS" (by simp) rfl
  intro r t hr ht heq
  rw [text_item e, text_item f, List.append_assoc, List.append_assoc] at heq
  rw [← leaves_core] at pe pf
  obtain ⟨hcore, hrest⟩ := reads_predicate (predicate_core he) (predicate_core hf) pe pf _ _
    (hends hr) (hends ht) heq
  obtain ⟨hnames, hrest⟩ := reads_separated (fun a _ b _ => Name.reads_escape a b)
    (fun _ _ _ => breaks_cons.2 rfl) (fun _ _ _ => breaks_cons.2 rfl) hr.breaks ht.breaks
    (hbehind hr) (hbehind ht) hrest
  rw [normal_item e, normal_item f, hcore, hnames]
  exact ⟨rfl, hrest⟩

end Expr

end CypherTemplate
