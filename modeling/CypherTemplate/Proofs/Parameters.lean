import CypherTemplate.Proofs.Substitution

/-!
The parameters of a compiled query. The map binds the names of the parameters that occur in the
resolved template and no others, each to its value in the context. Where names are strict, a scan of
the text finds the same names in the order in which they occur.
-/
namespace CypherTemplate

/-- Entries taken from one lookup are found as they were there. -/
theorem KeyMap.lookup_filterMap {α : Type} (f : String → Option α) (names : List String)
    (key : String) :
    (names.filterMap fun name => (f name).map (name, ·)).lookup key =
      if key ∈ names then f key else none := by
  induction names with
  | nil => rfl
  | cons name names ih =>
    by_cases hk : key = name
    · subst hk
      cases hf : f key with
      | none => simp [hf, ih]
      | some v => simp [hf]
    · cases hf : f name with
      | none => simp [hf, hk, ih]
      | some v => simp [hf, hk, lookup_cons_of_ne hk, ih]

/-- A context restricted to some names binds these names as before. -/
theorem Context.get?_restrict (ctx : Context) (names : List String) (key : String) :
    (ctx.restrict names).get? key = if key ∈ names then ctx.get? key else none := by
  rw [restrict, KeyMap.get?_ofList, ← List.filterMap_reverse, KeyMap.lookup_filterMap]
  simp only [List.mem_reverse]

namespace Piece

@[simp] theorem params_nil : params [] = [] := rfl

@[simp] theorem params_text_cons (cs : List Char) (ps : List Piece) :
    params (.text cs :: ps) = params ps := rfl

@[simp] theorem params_word_cons (w : String) (ps : List Piece) :
    params (.word w :: ps) = params ps := rfl

theorem params_intercalate (w : String) (pss : List (List Piece)) :
    params ([.word w].intercalate pss) = pss.flatMap params := by
  induction pss with
  | nil => rfl
  | cons ps pss ih =>
    cases pss with
    | nil => simp
    | cons qs pss =>
      rw [List.intercalate_cons_cons, params_append, params_append, ih, List.flatMap_cons]
      simp

@[simp] theorem params_listed (w : String) (items : List (List Piece)) :
    params (listed w items) = items.flatMap params := by
  rw [listed, params_word_cons, params_word_cons, params_intercalate]

@[simp] theorem params_aliasPieces (name : String) : params (aliasPieces name) = [] := rfl

end Piece

namespace Expr

/-- The parameters of an expression, in the order of the text. -/
def params (e : Expr) : List String := e.leaves.filterMap paramName?

/-- The written form of an expression references its parameters in their order. -/
theorem params_written {e : Expr} (h : e.OptionFree) : Piece.params e.written = e.params := by
  induction e with
  | property entity key => rfl
  | literal v => rfl
  | param name => rfl
  | aliased inner name ih =>
    rw [written, Piece.params_append, ih h, Piece.params_aliasPieces, List.append_nil]
    rfl
  | equal left right ihl ihr =>
    rw [written, Piece.params_append, ihl h.1, Piece.params_word_cons, ihr h.2]
    simp only [params, leaves, List.filterMap_append]
  | like left pattern ih =>
    rw [written, Piece.params_append, ih h, Piece.params_word_cons, Piece.params_text_cons,
      Piece.params_nil, List.append_nil]
    rfl
  | conj es ih =>
    have hes : (es.map written).flatMap Piece.params = es.flatMap params := by
      rw [List.flatMap_map]
      exact List.flatMap_congr fun e he => ih e he (allOptionFree_iff.1 h e he)
    have hparams : (conj es).params = es.flatMap params := by
      rw [params, leaves_conj, List.filterMap_flatMap]
      rfl
    cases es with
    | nil => rfl
    | cons e es =>
      rw [written_conj (List.cons_ne_nil e es), Piece.params_intercalate, hes, hparams]
  | option g => exact h.elim

theorem params_itemWritten (implicit : Bool) {e : Expr} (h : e.OptionFree) :
    Piece.params (e.itemWritten implicit) = e.params := by
  unfold itemWritten
  split
  · rw [Piece.params_append, params_written h, Piece.params_aliasPieces, List.append_nil]
  · exact params_written h

end Expr

theorem SortKey.params_written {k : SortKey} (h : k.1.OptionFree) :
    Piece.params k.written = k.1.params := by
  unfold SortKey.written
  split
  · rw [Piece.params_append, Expr.params_written h]
    simp
  · exact Expr.params_written h

theorem Pattern.params_written (p : Pattern) : Piece.params p.written = [] := by
  have hentity : ∀ (opening closing : String) (e : Entity),
      Piece.params (e.written opening closing) = [] := fun _ _ _ => rfl
  have hend : ∀ o : Option Entity,
      Piece.params (o.toList.flatMap (Entity.written "(" ")")) = [] := by
    intro o
    cases o with
    | none => rfl
    | some e => simp [hentity]
  cases p with
  | node e => exact hentity "(" ")" e
  | path relationship start stop =>
    rw [written, Piece.params_append, Piece.params_append, hend, hentity, hend]
    rfl

namespace Clause

theorem params_written (implicit : Bool) {c : Clause} (hfree : c.OptionFree) (h : c.WellFormed) :
    Piece.params (c.written implicit) = c.leaves.filterMap Expr.paramName? := by
  cases c with
  | matching ps =>
    rw [written, Piece.params_listed, List.flatMap_map, leaves, List.filterMap_nil,
      List.flatMap_eq_nil_iff]
    exact fun p _ => p.params_written
  | filter e =>
    rw [written, Piece.params_listed, List.flatMap_singleton]
    exact Expr.params_written hfree
  | returning es =>
    rw [written, Piece.params_listed, List.flatMap_map, leaves, List.filterMap_flatMap]
    exact List.flatMap_congr fun e he => Expr.params_itemWritten implicit (hfree e he)
  | orderBy o =>
    -- Only an order whose directions are in place is written with all its fields.
    obtain ⟨k, ks, hk⟩ := o.exists_sortKeys_iff.2 ⟨h.starts, h.apart⟩
    have hfields := OrderBy.map_fst_of_sortKeys hk
    have hkeys : o.keys = k :: ks := by
      rw [OrderBy.keys, hk]
    have hfree' : ∀ k' ∈ k :: ks, k'.1.OptionFree := fun k' hk' =>
      hfree k'.1 (hfields ▸ List.mem_map_of_mem hk')
    rw [written, Piece.params_listed, hkeys, List.flatMap_map, leaves, ← hfields,
      List.flatMap_map, List.filterMap_flatMap]
    exact List.flatMap_congr fun k' hk' => SortKey.params_written (hfree' k' hk')
  | limit n => rfl
  | option g => exact hfree.elim

end Clause

/-- The written form of a template references its parameters in their order. -/
theorem Template.params_written (implicit : Bool) {t : Template} (hfree : t.OptionFree)
    (h : ∀ c ∈ t.clauses, c.WellFormed) : Piece.params (t.written implicit) = t.params := by
  rw [written, Piece.params_intercalate, List.flatMap_map, params, leaves, List.filterMap_flatMap]
  exact List.flatMap_congr fun c hc => Clause.params_written implicit (hfree c hc) (h c hc)

/-- The name that a segment references. -/
def Segment.name? : Segment → Option String
  | .placeholder name => some (String.ofList name)
  | _ => none

/-- The names referenced by a text, found from left to right outside its quoted sections. -/
def ParamStyle.references (s : ParamStyle) (text : String) : List String :=
  (s.segments text.toList).filterMap Segment.name?

namespace Piece

variable {s : ParamStyle}

/-- A text that is cut where its pieces end references what its pieces reference. -/
theorem references_writeAll {ps : List Piece} (h : Cut s ps) :
    s.references (String.ofList (writeAll s ps)) = params ps := by
  have hcut : s.segments (writeAll s ps) = ps.flatMap (segments s) := by
    simpa using h.append [] breaks_nil
  have hpiece : ∀ p ∈ ps, (p.segments s).filterMap Segment.name? = p.param?.toList := by
    intro p hp
    cases p with
    | text cs =>
      have hnone : ∀ g ∈ s.segments cs, g.name? = none := by
        intro g hg
        have hclean := h.clean cs hp g hg
        cases g with
        | placeholder name => exact absurd rfl hclean
        | _ => rfl
      exact List.filterMap_eq_nil_iff.2 hnone
    | param name => simp [segments, Segment.name?, param?]
  rw [ParamStyle.references, String.toList_ofList, hcut, List.filterMap_flatMap,
    List.flatMap_congr hpiece, params, List.filterMap_eq_flatMap_toList]

end Piece

namespace Template

variable {t : Template} {ctx : Context} {config : Config} {q : Query}

/-- The map of a compiled query is the context restricted to the parameters of the template. -/
theorem parameters_of_compile (h : t.compile ctx config = .ok q) :
    q.parameters = ctx.restrict (t.resolve ctx).params := by
  have hwf := wellFormed_of_compile h
  rw [eq_ofPieces_of_compile h, Query.ofPieces,
    params_written config.implicitAlias (t.optionFree_resolve ctx) hwf.clauses]

/-- Exactly the parameters of the resolved template are bound. -/
theorem isSome_parameters_of_compile (h : t.compile ctx config = .ok q) (name : String) :
    (q.parameters.get? name).isSome ↔ name ∈ (t.resolve ctx).params := by
  have hwf := wellFormed_of_compile h
  rw [parameters_of_compile h, Context.get?_restrict]
  by_cases hn : name ∈ (t.resolve ctx).params
  · simp [hn, hwf.bound name hn]
  · simp [hn]

theorem references_of_compile (hstrict : config.strictNames) (h : t.compile ctx config = .ok q) :
    config.paramStyle.references q.text = (t.resolve ctx).params := by
  have hwf := wellFormed_of_compile_strict hstrict h
  have hcut : Piece.Cut config.paramStyle ((t.resolve ctx).written config.implicitAlias) :=
    cut_written config.implicitAlias (fun l hl => Expr.plain_of_allowed (hwf.allowed l hl))
      (hwf.entityNames rfl)
  rw [eq_ofPieces_of_compile h, Query.ofPieces, Piece.references_writeAll hcut,
    params_written config.implicitAlias (t.optionFree_resolve ctx) hwf.clauses]

/-- A query binds the parameters of its resolved template, each to its value in the context. Where
names are strict, its text references them one by one in the order of the template, so it references
just the names that are bound. -/
theorem bound_iff_referenced (h : t.compile ctx config = .ok q) :
    (∀ name, (q.parameters.get? name).isSome ↔ name ∈ (t.resolve ctx).params) ∧
    (∀ name ∈ (t.resolve ctx).params, q.parameters.get? name = ctx.get? name) ∧
    (config.strictNames →
      config.paramStyle.references q.text = (t.resolve ctx).params ∧
        ∀ name, name ∈ config.paramStyle.references q.text ↔
          (q.parameters.get? name).isSome) := by
  have hbound := isSome_parameters_of_compile h
  refine ⟨hbound, fun name hn => ?_, fun hstrict => ?_⟩
  · rw [parameters_of_compile h, Context.get?_restrict, if_pos hn]
  · have href := references_of_compile hstrict h
    refine ⟨href, fun name => ?_⟩
    rw [href, hbound]

/-- A parameter that occurs twice, once as a field of the order, beside texts that look like it. -/
def mentions : Template := ⟨[
  .filter (.conj [.equal (.property "u" "$p") (.param "p"), .like (.param "q") "$r \x7bq\x7d"]),
  .option (.cons "sorted" (.orderBy ⟨[.field (.param "p"), .direction .descending]⟩)
    (.last "other" (.filter (.param "r"))))]⟩

theorem bound_in_mentions :
    ∃ q, mentions.compile (.ofList [("p", .int 1), ("q", .null), ("r", .int 2), ("sorted", .int 0)])
        ({ } : Config).withDollarParams = .ok q ∧
      q.text = "WHERE u.`$p` = $p AND $q LIKE \"$r \x7bq\x7d\" ORDER BY $p desc" ∧
      ParamStyle.dollar.references q.text = ["p", "q", "p"] ∧
      ((q.parameters.get? "q").isSome ↔ "q" ∈ ["p", "q", "p"]) := by
  have hq : mentions.compile
      (.ofList [("p", .int 1), ("q", .null), ("r", .int 2), ("sorted", .int 0)])
      ({ } : Config).withDollarParams =
      .ok ⟨"WHERE u.`$p` = $p AND $q LIKE \"$r \x7bq\x7d\" ORDER BY $p desc",
        .ofList [("p", .int 1), ("q", .null)], .dollar⟩ := by rfl
  obtain ⟨hbound, _, hstrict⟩ := bound_iff_referenced hq
  exact ⟨_, hq, rfl, (hstrict rfl).1, hbound "q"⟩

end Template

end CypherTemplate
