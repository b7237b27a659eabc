import CypherTemplate.Proofs.Cut

/-!
Inlining and substitution. A parameter may be replaced by its value in the template or in the compiled
text, with the same outcome, whatever the values are: the scan of the text finds the parameters of the
template and nothing else.
-/
namespace CypherTemplate

namespace Piece

/-- The piece with the value in place of a parameter that has one. -/
def substitute (values : KeyMap Value) : Piece → Piece
  | .text cs => .text cs
  | .param name =>
    match values.get? name with
    | some v => .text v.literal
    | none => .param name

variable (values : KeyMap Value) {s : ParamStyle}

theorem flatMap_inline_of_clean {gs : List Segment} (h : ∀ g ∈ gs, ¬g.isPlaceholder) :
    gs.flatMap (Segment.inline values s) = gs.flatMap (Segment.text s) :=
  List.flatMap_congr fun g hg => Segment.inline_of_not_isPlaceholder values s (h g hg)

/-- A piece by itself is inlined by a look at what it is. -/
theorem flatMap_inline_segments {ps : List Piece} (h : Cut s ps) {p : Piece} (hp : p ∈ ps) :
    (p.segments s).flatMap (Segment.inline values s) = (p.substitute values).write s := by
  cases p with
  | text cs =>
    rw [segments, flatMap_inline_of_clean values (h.clean cs hp), ParamStyle.flatMap_text_segments]
    rfl
  | param name =>
    have hname : String.ofList name.toList = name := String.ofList_toList
    simp only [segments, List.flatMap_singleton, Segment.inline, substitute, hname]
    cases values.get? name <;> rfl

/-- Inlining into a text that is cut where its pieces end replaces the parameters among the pieces,
each once. -/
theorem inlineText_writeAll {ps : List Piece} (h : Cut s ps) :
    Query.inlineText values s (writeAll s ps) = writeAll s (ps.map (substitute values)) := by
  have hcut : s.segments (writeAll s ps) = ps.flatMap (segments s) := by
    simpa using h.append [] breaks_nil
  rw [Query.inlineText_eq_flatMap_segments, hcut, List.flatMap_assoc, writeAll, List.flatMap_map]
  exact List.flatMap_congr fun p hp => flatMap_inline_segments values h hp

@[simp] theorem substitute_word (w : String) : (word w).substitute values = word w := rfl

theorem map_substitute_intercalate (w : String) (pss : List (List Piece)) :
    ([word w].intercalate pss).map (substitute values) =
      [word w].intercalate (pss.map (List.map (substitute values))) := by
  induction pss with
  | nil => rfl
  | cons ps pss ih =>
    cases pss with
    | nil => simp
    | cons qs pss =>
      simp only [List.intercalate_cons_cons, List.map_append, ih, List.map_cons, List.map_nil,
        substitute_word]

theorem map_substitute_listed (w : String) (items : List (List Piece)) :
    (listed w items).map (substitute values) =
      listed w (items.map (List.map (substitute values))) := by
  simp [listed, map_substitute_intercalate]

@[simp] theorem map_substitute_aliasPieces (name : String) :
    (aliasPieces name).map (substitute values) = aliasPieces name := rfl

end Piece

namespace Expr

variable (values : KeyMap Value)

mutual
/-- The expression with the values in place of the parameters that have one, in all variants. -/
def substitute : Expr → Expr
  | .property entity key => .property entity key
  | .literal v => .literal v
  | .param name =>
    match values.get? name with
    | some v => .literal v
    | none => .param name
  | .alias inner name => .alias inner.substitute name
  | .equal left right => .equal left.substitute right.substitute
  | .like left pattern => .like left.substitute pattern
  | .conj operands => .conj (substituteAll operands)
  | .option g => .option (substituteVariants g)

def substituteAll : List Expr → List Expr
  | [] => []
  | e :: es => e.substitute :: substituteAll es

def substituteVariants : OptionGroup Expr → OptionGroup Expr
  | .last key e => .last key e.substitute
  | .cons key e rest => .cons key e.substitute (substituteVariants rest)
end

theorem substituteAll_eq (es : List Expr) : substituteAll values es = es.map (substitute values) := by
  induction es with
  | nil => rfl
  | cons e es ih => rw [substituteAll, ih, List.map_cons]

theorem substituteVariants_eq (g : OptionGroup Expr) :
    substituteVariants values g = g.map (substitute values) := by
  induction g with
  | last key e => rfl
  | cons key e rest ih => rw [substituteVariants, ih, OptionGroup.map]

@[simp] theorem substitute_conj (es : List Expr) :
    (conj es).substitute values = .conj (es.map (substitute values)) := by
  rw [substitute, substituteAll_eq]

@[simp] theorem substitute_option (g : OptionGroup Expr) :
    (option g).substitute values = .option (g.map (substitute values)) := by
  rw [substitute, substituteVariants_eq]

/-- A parameter becomes a literal or stays, and so stands wherever it stood. -/
theorem substitute_param_cases (name : String) :
    (param name).substitute values = .param name ∧ values.get? name = none ∨
      ∃ v, (param name).substitute values = .literal v ∧ values.get? name = some v := by
  rw [substitute]
  cases h : values.get? name with
  | none => exact .inl ⟨rfl, rfl⟩
  | some v => exact .inr ⟨v, rfl, rfl⟩

@[simp] theorem isLeaf_substitute (e : Expr) : (e.substitute values).isLeaf = e.isLeaf := by
  cases e with
  | param name =>
    rcases substitute_param_cases values name with ⟨h, _⟩ | ⟨v, h, _⟩
    · rw [h]
    · rw [h]
      rfl
  | _ => rfl

@[simp] theorem implicitAlias?_substitute (e : Expr) :
    (e.substitute values).implicitAlias? = e.implicitAlias? := by
  cases e with
  | param name =>
    rcases substitute_param_cases values name with ⟨h, _⟩ | ⟨v, h, _⟩
    · rw [h]
    · rw [h]
      rfl
  | _ => rfl

theorem leaves_substitute (e : Expr) :
    (e.substitute values).leaves = e.leaves.map (substitute values) := by
  induction e with
  | property entity key => rfl
  | literal v => rfl
  | param name => exact leaves_of_isLeaf (isLeaf_substitute values (.param name))
  | aliased inner name ih => exact ih
  | equal left right ihl ihr => rw [substitute, leaves, ihl, ihr, leaves, List.map_append]
  | like left pattern ih => exact ih
  | conj es ih =>
    rw [substitute_conj, leaves_conj, leaves_conj, List.map_flatMap, List.flatMap_map]
    exact List.flatMap_congr ih
  | option g ih =>
    rw [substitute_option, leaves_option, leaves_option, OptionGroup.toList_map, List.map_flatMap,
      List.flatMap_map]
    exact List.flatMap_congr ih

theorem resolve_substitute (ctx : Context) (e : Expr) :
    (e.substitute values).resolve ctx = (e.resolve ctx).substitute values := by
  induction e with
  | property entity key => rfl
  | literal v => rfl
  | param name =>
    rcases substitute_param_cases values name with ⟨h, _⟩ | ⟨v, h, _⟩ <;>
      rw [resolve, h] <;> rfl
  | aliased inner name ih => simp only [substitute, resolve, ih]
  | equal left right ihl ihr => simp only [substitute, resolve, ihl, ihr]
  | like left pattern ih => simp only [substitute, resolve, ih]
  | conj es ih =>
    simp only [substitute_conj, resolve_conj, List.map_map]
    exact congrArg conj (List.map_congr_left ih)
  | option g ih =>
    obtain ⟨v, hv, h⟩ := g.resolve_mem ctx
    rw [substitute_option, resolve_option, resolve_option, OptionGroup.resolve_map, h]
    exact ih v hv

/-- Without values for its parameters an expression stays as it is. -/
theorem substitute_of_unbound {e : Expr}
    (h : ∀ name, .param name ∈ e.leaves → values.get? name = none) : e.substitute values = e := by
  induction e with
  | property entity key => rfl
  | literal v => rfl
  | param name =>
    have hname := h name (List.mem_singleton_self _)
    simp only [substitute, hname]
  | aliased inner name ih => rw [substitute, ih h]
  | equal left right ihl ihr =>
    have hl := ihl fun name hn => h name (List.mem_append_left _ hn)
    have hr := ihr fun name hn => h name (List.mem_append_right _ hn)
    rw [substitute, hl, hr]
  | like left pattern ih => rw [substitute, ih h]
  | conj es ih =>
    rw [leaves_conj] at h
    have hes : es.map (substitute values) = es.map id :=
      List.map_congr_left fun e he =>
        ih e he fun name hn => h name (List.mem_flatMap.2 ⟨e, he, hn⟩)
    rw [substitute_conj, hes, List.map_id]
  | option g ih =>
    rw [leaves_option] at h
    have hg : g.map (substitute values) = g :=
      OptionGroup.map_id_of_forall fun v hv =>
        ih v hv fun name hn => h name (List.mem_flatMap.2 ⟨v, hv, hn⟩)
    rw [substitute_option, hg]

variable {strict : Bool} {ctx : Context}

theorem allowed_substitute {l : Expr} (h : l.Allowed strict ctx) :
    (l.substitute values).Allowed strict ctx := by
  cases l with
  | property entity key => exact h
  | param name =>
    rcases substitute_param_cases values name with ⟨he, _⟩ | ⟨v, he, _⟩
    · rw [he]
      exact h
    · rw [he]
      trivial
  | _ => trivial

/-- A substituted expression is written with values in place of its parameters. -/
theorem written_substitute (e : Expr) :
    (e.substitute values).written = e.written.map (Piece.substitute values) := by
  induction e with
  | property entity key => rfl
  | literal v => rfl
  | param name =>
    rcases substitute_param_cases values name with ⟨h, hv⟩ | ⟨v, h, hv⟩ <;>
      simp only [h, written, List.map_singleton, Piece.substitute, hv]
  | aliased inner name ih =>
    simp only [substitute, written, ih, List.map_append, Piece.map_substitute_aliasPieces]
  | equal left right ihl ihr =>
    simp only [substitute, written, ihl, ihr, List.map_append, List.map_cons, Piece.substitute_word]
  | like left pattern ih =>
    simp only [substitute, written, ih, List.map_append, List.map_cons, Piece.substitute_word]
    rfl
  | conj es ih =>
    rw [substitute_conj]
    cases es with
    | nil => rfl
    | cons e es =>
      have hne : (e :: es).map (substitute values) ≠ [] := by simp
      rw [written_conj hne, written_conj (List.cons_ne_nil e es), Piece.map_substitute_intercalate,
        List.map_map, List.map_map]
      exact congrArg _ (List.map_congr_left ih)
  | option g => rw [substitute_option]; rfl

theorem itemWritten_substitute (implicit : Bool) (e : Expr) :
    (e.substitute values).itemWritten implicit =
      (e.itemWritten implicit).map (Piece.substitute values) := by
  unfold itemWritten
  rw [implicitAlias?_substitute, written_substitute]
  split
  · rw [List.map_append, Piece.map_substitute_aliasPieces]
  · rfl

end Expr

/-- A key is substituted in its field. -/
theorem SortKey.written_substitute (values : KeyMap Value) (k : SortKey) :
    (k.map (Expr.substitute values)).written = k.written.map (Piece.substitute values) := by
  obtain ⟨e, d⟩ := k
  cases d <;> simp [SortKey.map, SortKey.written, Expr.written_substitute]

theorem Pattern.map_substitute_written (values : KeyMap Value) (p : Pattern) :
    p.written.map (Piece.substitute values) = p.written := by
  have hentity : ∀ (opening closing : String) (e : Entity),
      (e.written opening closing).map (Piece.substitute values) = e.written opening closing :=
    fun _ _ _ => rfl
  cases p with
  | node e => exact hentity "(" ")" e
  | path relationship start stop =>
    simp only [Pattern.written, List.map_append, List.map_flatMap, hentity]

namespace OrderBy

variable (values : KeyMap Value)

theorem keys_substitute (o : OrderBy) :
    (o.map (Expr.substitute values)).keys = o.keys.map (SortKey.map (Expr.substitute values)) := by
  unfold keys
  rw [sortKeys_map]
  cases o.sortKeys <;> rfl

theorem wellFormed_substitute {o : OrderBy} (h : o.WellFormed) :
    (o.map (Expr.substitute values)).WellFormed := by
  obtain ⟨⟨e, ts, ht⟩, happart, hsort⟩ := h
  refine ⟨⟨e.substitute values, ts.map (OrderToken.map (Expr.substitute values)), ?_⟩, ?_, ?_⟩
  · simp [OrderBy.map, ht, OrderToken.map]
  · have hdir : ∀ t : OrderToken, (t.map (Expr.substitute values)).isDirection = t.isDirection := by
      intro t
      cases t <;> rfl
    simpa only [OrderBy.map, List.isChain_map, hdir] using happart
  · intro e he
    rw [sortFields_map] at he
    obtain ⟨f, hf, rfl⟩ := List.mem_map.1 he
    rw [Expr.isLeaf_substitute]
    exact hsort f hf

end OrderBy

namespace Clause

variable (values : KeyMap Value)

mutual
/-- The clause with the values in place of the parameters that have one, in all variants. -/
def substitute : Clause → Clause
  | .matching ps => .matching ps
  | .filter e => .filter (e.substitute values)
  | .returning es => .returning (es.map (Expr.substitute values))
  | .orderBy o => .orderBy (o.map (Expr.substitute values))
  | .limit n => .limit n
  | .option g => .option (substituteVariants g)

def substituteVariants : OptionGroup Clause → OptionGroup Clause
  | .last key c => .last key c.substitute
  | .cons key c rest => .cons key c.substitute (substituteVariants rest)
end

theorem substituteVariants_eq (g : OptionGroup Clause) :
    substituteVariants values g = g.map (substitute values) := by
  induction g with
  | last key c => rfl
  | cons key c rest ih => rw [substituteVariants, ih, OptionGroup.map]

@[simp] theorem substitute_option (g : OptionGroup Clause) :
    (option g).substitute values = .option (g.map (substitute values)) := by
  rw [substitute, substituteVariants_eq]

theorem resolve_substitute (ctx : Context) (c : Clause) :
    (c.substitute values).resolve ctx = (c.resolve ctx).substitute values := by
  have hexpr : Expr.resolve ctx ∘ Expr.substitute values =
      Expr.substitute values ∘ Expr.resolve ctx :=
    funext (Expr.resolve_substitute values ctx)
  induction c with
  | matching ps => rfl
  | filter e => simp only [substitute, resolve, Expr.resolve_substitute]
  | returning es => simp only [substitute, resolve, List.map_map, hexpr]
  | orderBy o =>
    have htoken : OrderToken.map (Expr.resolve ctx) ∘ OrderToken.map (Expr.substitute values) =
        OrderToken.map (Expr.substitute values) ∘ OrderToken.map (Expr.resolve ctx) := by
      funext t
      cases t with
      | field e => exact congrArg OrderToken.field (e.resolve_substitute values ctx)
      | direction d => rfl
    simp only [substitute, resolve, OrderBy.map, List.map_map, htoken]
  | limit n => rfl
  | option g ih =>
    obtain ⟨v, hv, h⟩ := g.resolve_mem ctx
    rw [substitute_option, resolve_option, resolve_option, OptionGroup.resolve_map, h]
    exact ih v hv

theorem leaves_substitute (c : Clause) :
    (c.substitute values).leaves = c.leaves.map (Expr.substitute values) := by
  have hexprs : ∀ es : List Expr, (es.map (Expr.substitute values)).flatMap Expr.leaves =
      (es.flatMap Expr.leaves).map (Expr.substitute values) := by
    intro es
    rw [List.flatMap_map, List.map_flatMap]
    exact List.flatMap_congr fun e _ => e.leaves_substitute values
  induction c with
  | matching ps => rfl
  | filter e => exact e.leaves_substitute values
  | returning es => exact hexprs es
  | orderBy o => rw [substitute, leaves, OrderBy.sortFields_map, hexprs, leaves]
  | limit n => rfl
  | option g ih =>
    rw [substitute_option, leaves_option, leaves_option, OptionGroup.toList_map, List.map_flatMap,
      List.flatMap_map]
    exact List.flatMap_congr ih

theorem substitute_of_unbound {c : Clause}
    (h : ∀ name, .param name ∈ c.leaves → values.get? name = none) : c.substitute values = c := by
  have hexprs : ∀ es : List Expr,
      (∀ name, .param name ∈ es.flatMap Expr.leaves → values.get? name = none) →
        ∀ e ∈ es, e.substitute values = e := fun es hes e he =>
    Expr.substitute_of_unbound values fun name hn => hes name (List.mem_flatMap.2 ⟨e, he, hn⟩)
  induction c with
  | matching ps => rfl
  | filter e => rw [substitute, Expr.substitute_of_unbound values h]
  | returning es =>
    have hes : es.map (Expr.substitute values) = es.map id := List.map_congr_left (hexprs es h)
    rw [substitute, hes, List.map_id]
  | orderBy o =>
    have htokens : o.tokens.map (OrderToken.map (Expr.substitute values)) = o.tokens.map id := by
      refine List.map_congr_left fun t ht => ?_
      cases t with
      | field e =>
        have he : e ∈ o.sortFields := List.mem_filterMap.2 ⟨.field e, ht, rfl⟩
        exact congrArg OrderToken.field (hexprs o.sortFields h e he)
      | direction d => rfl
    rw [substitute, OrderBy.map, htokens, List.map_id]
  | limit n => rfl
  | option g ih =>
    rw [leaves_option] at h
    have hg : g.map (substitute values) = g :=
      OptionGroup.map_id_of_forall fun v hv =>
        ih v hv fun name hn => h name (List.mem_flatMap.2 ⟨v, hv, hn⟩)
    rw [substitute_option, hg]

@[simp] theorem entities_substitute (c : Clause) : (c.substitute values).entities = c.entities := by
  cases c <;> rfl

theorem wellFormed_substitute {c : Clause} (h : c.WellFormed) : (c.substitute values).WellFormed := by
  cases c with
  | returning es => simpa [substitute, WellFormed] using h
  | orderBy o => exact OrderBy.wellFormed_substitute values h
  | option g =>
    rw [substitute_option]
    trivial
  | _ => exact h

theorem written_substitute (implicit : Bool) (c : Clause) :
    (c.substitute values).written implicit =
      (c.written implicit).map (Piece.substitute values) := by
  cases c with
  | matching ps =>
    simp only [substitute, written, Piece.map_substitute_listed, List.map_map, Function.comp_def,
      Pattern.map_substitute_written]
  | filter e => simp [substitute, written, Piece.map_substitute_listed, Expr.written_substitute]
  | returning es =>
    simp only [substitute, written, Piece.map_substitute_listed, List.map_map, Function.comp_def,
      Expr.itemWritten_substitute]
  | orderBy o =>
    simp only [substitute, written, Piece.map_substitute_listed, OrderBy.keys_substitute,
      List.map_map, Function.comp_def, SortKey.written_substitute]
  | limit n => simp [substitute, written, Piece.map_substitute_listed, Piece.substitute]
  | option g =>
    rw [substitute_option]
    rfl

end Clause

namespace Template

variable (values : KeyMap Value)

/-- The template with the values in place of the parameters that have one, in all variants. -/
def substitute (t : Template) : Template := ⟨t.clauses.map (Clause.substitute values)⟩

theorem resolve_substitute (t : Template) (ctx : Context) :
    (t.substitute values).resolve ctx = (t.resolve ctx).substitute values := by
  simp only [resolve, substitute, List.map_map, Function.comp_def, Clause.resolve_substitute]

theorem leaves_substitute (t : Template) :
    (t.substitute values).leaves = t.leaves.map (Expr.substitute values) := by
  simp only [leaves, substitute, List.flatMap_map, List.map_flatMap, Clause.leaves_substitute]

theorem entities_substitute (t : Template) : (t.substitute values).entities = t.entities := by
  simp only [entities, substitute, List.flatMap_map, Clause.entities_substitute]

theorem written_substitute (implicit : Bool) (t : Template) :
    (t.substitute values).written implicit =
      (t.written implicit).map (Piece.substitute values) := by
  simp only [written, substitute, Piece.map_substitute_intercalate, List.map_map, Function.comp_def,
    Clause.written_substitute]

theorem substitute_of_unbound {t : Template} (h : ∀ name ∈ t.params, values.get? name = none) :
    t.substitute values = t := by
  have hcs : t.clauses.map (Clause.substitute values) = t.clauses.map id := by
    refine List.map_congr_left fun c hc => Clause.substitute_of_unbound values fun name hn => ?_
    exact h name (List.mem_filterMap.2 ⟨_, List.mem_flatMap.2 ⟨c, hc, hn⟩, rfl⟩)
  rw [substitute, hcs, List.map_id]

variable {strict : Bool} {ctx : Context}

theorem WellFormed.allowed {t : Template} (h : t.WellFormed strict ctx) :
    ∀ l ∈ t.leaves, l.Allowed strict ctx :=
  (forall_allowed_iff strict ctx t).2 ⟨h.bound, h.variableNames, h.paramNames⟩

/-- A literal is allowed wherever a parameter is. -/
theorem wellFormed_substitute {t : Template} (h : t.WellFormed strict ctx) :
    (t.substitute values).WellFormed strict ctx := by
  have hclauses : ∀ c ∈ (t.substitute values).clauses, c.WellFormed :=
    List.forall_mem_map.2 fun c hc => Clause.wellFormed_substitute values (h.clauses c hc)
  have hleaves : ∀ l ∈ (t.substitute values).leaves, l.Allowed strict ctx := by
    rw [leaves_substitute]
    exact List.forall_mem_map.2 fun l hl => Expr.allowed_substitute values (h.allowed l hl)
  obtain ⟨hb, hv, hp⟩ := (forall_allowed_iff strict ctx _).1 hleaves
  have hentities := t.entities_substitute values
  exact ⟨hclauses, hentities ▸ h.entities, hb, hentities ▸ h.entityNames, hv, hp⟩

/-- The text of a query is that of the resolved template. -/
theorem eq_ofPieces_of_compile {t : Template} {config : Config} {q : Query}
    (h : t.compile ctx config = .ok q) :
    q = .ofPieces config.paramStyle ctx ((t.resolve ctx).written config.implicitAlias) := by
  rw [compile_eq] at h
  cases hm : Demand.meetAll config.strictNames ctx [] (t.resolve ctx).demands with
  | error e => simp [hm, Except.map] at h
  | ok s =>
    rw [hm] at h
    cases h
    rfl

/-- The scan of a compiled text replaces the parameters of the resolved template. -/
theorem inline_of_compile {t : Template} {config : Config} {q : Query} (hstrict : config.strictNames)
    (h : t.compile ctx config = .ok q) :
    Query.inline ⟨q.text, values, config.paramStyle⟩ =
      String.ofList (Piece.writeAll config.paramStyle
        (((t.resolve ctx).substitute values).written config.implicitAlias)) := by
  have hwf := wellFormed_of_compile_strict hstrict h
  have hcut : Piece.Cut config.paramStyle ((t.resolve ctx).written config.implicitAlias) :=
    cut_written config.implicitAlias (fun l hl => Expr.plain_of_allowed (hwf.allowed l hl))
      (hwf.entityNames rfl)
  rw [eq_ofPieces_of_compile h]
  simp only [Query.inline, Query.ofPieces, String.toList_ofList]
  rw [Piece.inlineText_writeAll values hcut, written_substitute]

/-- Values may be put into the template before the compilation or into the text behind it: the
substituted template compiles too, and to the inlined text. Where no parameter of the template has a
value the text stays as it is. -/
theorem inline_eq_compile_substitute {t : Template} {config : Config} {q : Query}
    (hstrict : config.strictNames) (h : t.compile ctx config = .ok q) :
    (∃ q', (t.substitute values).compile ctx config = .ok q' ∧
      Query.inline ⟨q.text, values, config.paramStyle⟩ = q'.text) ∧
    ((∀ name ∈ t.params, values.get? name = none) →
      Query.inline ⟨q.text, values, config.paramStyle⟩ = q.text) := by
  have hwf : (t.resolve ctx).WellFormed config.strictNames ctx := wellFormed_of_compile h
  have hwf' : ((t.substitute values).resolve ctx).WellFormed config.strictNames ctx := by
    rw [resolve_substitute]
    exact wellFormed_substitute values hwf
  obtain ⟨q', hq'⟩ := exists_compile_of_wellFormed hwf'
  have htext : Query.inline ⟨q.text, values, config.paramStyle⟩ = q'.text := by
    rw [inline_of_compile values hstrict h, eq_ofPieces_of_compile hq', resolve_substitute]
    rfl
  refine ⟨⟨q', hq', htext⟩, fun hunbound => ?_⟩
  rw [substitute_of_unbound values hunbound, h] at hq'
  cases hq'
  exact htext

/-- A parameter beside a label and a pattern that look like it. -/
def lookalikes : Template := ⟨[
  .matching [.node ((Entity.node "u").withLabel "\x7bid\x7d")],
  .filter (.like (.param "id") "\x7bid\x7d"),
  .returning [.property "u" "id"]]⟩

theorem inline_lookalikes :
    ∃ q q', lookalikes.compile (.ofList [("id", .int 7)]) {} = .ok q ∧
      q.text = "MATCH (u:`\x7bid\x7d`) WHERE \x7bid\x7d LIKE \"\x7bid\x7d\" RETURN u.id AS id" ∧
      (lookalikes.substitute (.ofList [("id", .string "\x7bid\x7d")])).compile
        (.ofList [("id", .int 7)]) {} = .ok q' ∧
      Query.inline ⟨q.text, .ofList [("id", .string "\x7bid\x7d")], .braces⟩ = q'.text := by
  have hq : lookalikes.compile (.ofList [("id", .int 7)]) {} =
      .ok ⟨"MATCH (u:`\x7bid\x7d`) WHERE \x7bid\x7d LIKE \"\x7bid\x7d\" RETURN u.id AS id",
        .ofList [("id", .int 7)], .braces⟩ := by rfl
  obtain ⟨⟨q', hq', htext⟩, _⟩ :=
    inline_eq_compile_substitute (.ofList [("id", .string "\x7bid\x7d")]) rfl hq
  exact ⟨_, q', hq, rfl, hq', htext⟩

end Template

end CypherTemplate
