import CypherTemplate.Proofs.ReadableExpr
import CypherTemplate.Proofs.Substitution

/-!
Compiled text is unambiguous. Regular templates that compile to one text have the same clauses, up to
their normal forms: a list goes on where a comma follows, and a clause ends where the word of another
one does. So no name, string or literal can pass for a part of the query.
-/
namespace CypherTemplate

theorem nextWord_append {w r : List Char} (hw : ∀ c ∈ w, c.isAlpha) (hr : Breaks r) :
    nextWord (' ' :: (w ++ r)) = w := by
  have hp : ∀ c ∈ w, (c.isAlpha || c = '=' : Bool) := fun c hc => by simp [hw c hc]
  have hstop : ∀ c ∈ r.head?, (c.isAlpha || c = '=' : Bool) = false := by
    intro c hc
    have hb := hr c hc
    simp only [isBreak, Bool.or_eq_true, decide_eq_true_eq] at hb
    rcases hb with ((((rfl | rfl) | rfl) | rfl) | rfl) | rfl <;> decide
  rw [nextWord, List.takeWhile_append_of_pos hp]
  cases r with
  | nil => simp
  | cons c r =>
    have hc := hstop c rfl
    rw [List.takeWhile_cons_of_neg (by simpa using hc), List.append_nil]

namespace SortKey

variable (s : ParamStyle)

def text (k : SortKey) : List Char := Piece.writeAll s k.written

theorem text_eq (k : SortKey) :
    k.text s = k.1.text s ++ (k.2.map fun d => ' ' :: d.token.toList).getD [] := by
  obtain ⟨e, d⟩ := k
  cases d <;> simp [text, written, Expr.text, Piece.writeAll_word]

variable {s}

theorem nextWord_direction (d : Direction) {r : List Char} (hr : Breaks r) :
    nextWord (' ' :: (d.token.toList ++ r)) = d.token.toList :=
  nextWord_append (List.all_eq_true.1 (by cases d <;> decide)) hr

/-- A key ends where no direction follows. -/
theorem reads_key {k l : SortKey} (hk : k.1.isLeaf) (hl : l.1.isLeaf) (pk : k.1.Plain)
    (pl : l.1.Plain) : Reads (Ends ["asc", "desc"]) (text s) (SortKey.map Expr.normal) k l := by
  obtain ⟨e, d⟩ := k
  obtain ⟨f, d'⟩ := l
  have hbreaks : ∀ {o : Option Direction} {r}, Breaks r →
      Breaks ((o.map fun d => ' ' :: d.token.toList).getD [] ++ r) := by
    intro o r hr
    cases o with
    | none => exact hr
    | some d => exact breaks_cons.2 rfl
  have hdirection : ∀ (d : Direction) {r}, Ends ["asc", "desc"] r →
      nextWord r ≠ d.token.toList := by
    intro d r hr
    cases d with
    | ascending => exact hr.word "asc" (by simp)
    | descending => exact hr.word "desc" (by simp)
  have hnormal : ∀ {x y : Expr}, x.isLeaf → y.isLeaf → x.sanitized = y.sanitized →
      x.normal = y.normal := by
    intro x y hx hy h
    rw [Expr.normal, Expr.normal, Expr.flat_of_isLeaf hx, Expr.flat_of_isLeaf hy, h]
  intro r t hr ht heq
  rw [text_eq, text_eq, List.append_assoc, List.append_assoc] at heq
  obtain ⟨hfield, hrest⟩ := Expr.reads_leaf hk hl pk pl _ _ (hbreaks hr.breaks) (hbreaks ht.breaks) heq
  have hsame := hnormal hk hl hfield
  have hword := congrArg nextWord hrest
  cases d with
  | none =>
    cases d' with
    | none => exact ⟨Prod.ext hsame rfl, hrest⟩
    | some d' => exact absurd (hword.trans (nextWord_direction d' ht.breaks)) (hdirection d' hr)
  | some d =>
    cases d' with
    | none => exact absurd (hword.symm.trans (nextWord_direction d hr.breaks)) (hdirection d ht)
    | some d' =>
      have htoken : d.token.toList = d'.token.toList :=
        (nextWord_direction d hr.breaks).symm.trans (hword.trans (nextWord_direction d' ht.breaks))
      have hd : d = d' := by cases d <;> cases d' <;> first | rfl | exact absurd htoken (by decide)
      subst hd
      exact ⟨Prod.ext hsame rfl, List.append_cancel_left hrest⟩

end SortKey

namespace Entity

/-- What an entity's text tells of it. -/
def shown (e : Entity) : String × List String := (e.name, e.labels.map Name.sanitized)

theorem sanitized_eq_of_shown {e f : Entity} (h : e.shown = f.shown) (hkind : e.kind = f.kind) :
    e.sanitized = f.sanitized := by
  obtain ⟨hname, hlabels⟩ := Prod.mk.inj h
  rw [sanitized, sanitized, hlabels]
  cases e
  cases f
  simp_all

theorem text_eq_separated (e : Entity) :
    e.text = e.name.toList ++ separated [':'] Name.escape e.labels := rfl

/-- An entity ends at the closing of its brackets. -/
theorem reads_text {e f : Entity} (he : Identifier.isVariable e.name.toList)
    (hf : Identifier.isVariable f.name.toList) :
    Reads (fun r => Breaks r ∧ ¬[':'] <+: r) text shown e f := by
  have hcolon : ∀ t, Breaks ([':'] ++ t) := fun _ => breaks_cons.2 rfl
  have hbreaks : ∀ {labels : List String} {r}, Breaks r →
      Breaks (separated [':'] Name.escape labels ++ r) := fun hr =>
    follow_separated (fun _ _ _ => hcolon _) hr
  have hstop : ∀ {r : List Char}, Breaks r → ∀ c ∈ r.head?, Identifier.isPart c = false :=
    fun hr c hc => not_isPart_of_isBreak (hr c hc)
  rintro r t ⟨hr, hnr⟩ ⟨ht, hnt⟩ heq
  rw [text_eq_separated, text_eq_separated, List.append_assoc, List.append_assoc] at heq
  obtain ⟨hname, hrest⟩ := append_inj_of_forall (Identifier.isPart_of_isVariable he)
    (Identifier.isPart_of_isVariable hf) (hstop (hbreaks hr)) (hstop (hbreaks ht)) heq
  obtain ⟨hlabels, hrest⟩ := reads_separated (fun a _ b _ => Name.reads_escape a b)
    (fun _ _ _ => hcolon _) (fun _ _ _ => hcolon _) hr ht hnr hnt hrest
  exact ⟨Prod.ext (String.toList_inj.1 hname) hlabels, hrest⟩

end Entity

namespace Pattern

/-- The text of a pattern. -/
def text (s : ParamStyle) (p : Pattern) : List Char := Piece.writeAll s p.written

variable {s : ParamStyle}

theorem text_node (e : Entity) : (node e).text s = '(' :: (e.text ++ [')']) := by
  simp [text, written, Entity.written, Piece.writeAll, Piece.write, Piece.word]

theorem text_path (relationship start stop : Entity) :
    (path relationship (some start) (some stop)).text s =
      '(' :: (start.text ++ ')' :: '-' :: '[' :: (relationship.text ++ ']' :: '-' :: '>' :: '(' ::
        (stop.text ++ [')']))) := by
  simp [text, written, Entity.written, Piece.writeAll, Piece.write, Piece.word]

theorem closed_of_break {c : Char} (hc : isBreak c) (hcolon : c ≠ ':') (t : List Char) :
    Breaks (c :: t) ∧ ¬[':'] <+: c :: t := by
  refine ⟨breaks_cons.2 hc, ?_⟩
  rintro ⟨u, hu⟩
  exact hcolon (List.cons.inj hu).1.symm

/-- A pattern ends where no relationship begins. -/
theorem reads_text {p q : Pattern} (hp : p.WellFormed) (hq : q.WellFormed)
    (np : ∀ e ∈ p.entities, Identifier.isVariable e.name.toList)
    (nq : ∀ e ∈ q.entities, Identifier.isVariable e.name.toList) :
    Reads (fun r => ∀ c ∈ r.head?, c ≠ '-') (text s) sanitized p q := by
  have hround : ∀ t, Breaks (')' :: t) ∧ ¬[':'] <+: ')' :: t := closed_of_break rfl (by decide)
  have hsquare : ∀ t, Breaks (']' :: t) ∧ ¬[':'] <+: ']' :: t := closed_of_break rfl (by decide)
  intro r t hr ht heq
  cases p with
  | node e =>
    have he := np e (by simp [entities])
    cases q with
    | node f =>
      rw [text_node, text_node] at heq
      simp only [List.cons_append, List.append_assoc, List.nil_append, List.cons.injEq, true_and] at heq
      obtain ⟨hshown, hrest⟩ := Entity.reads_text he (nq f (by simp [entities])) _ _ (hround r)
        (hround t) heq
      rw [sanitized, sanitized, Entity.sanitized_eq_of_shown hshown (hp.trans hq.symm)]
      exact ⟨rfl, (List.cons.inj hrest).2⟩
    | path relationship start stop =>
      obtain ⟨_, ⟨a, rfl, _⟩, b, rfl, _⟩ := hq
      rw [text_node, text_path] at heq
      simp only [List.cons_append, List.append_assoc, List.nil_append, List.cons.injEq, true_and] at heq
      obtain ⟨_, hrest⟩ := Entity.reads_text he (nq a (by simp [entities])) _ _ (hround r)
        (hround _) heq
      rw [(List.cons.inj hrest).2] at hr
      exact absurd rfl (hr '-' rfl)
  | path relationship start stop =>
    obtain ⟨hrel, ⟨a, rfl, ha⟩, b, rfl, hb⟩ := hp
    have ea := np a (by simp [entities])
    cases q with
    | node f =>
      rw [text_path, text_node] at heq
      simp only [List.cons_append, List.append_assoc, List.nil_append, List.cons.injEq, true_and] at heq
      obtain ⟨_, hrest⟩ := Entity.reads_text ea (nq f (by simp [entities])) _ _ (hround _)
        (hround t) heq
      rw [← (List.cons.inj hrest).2] at ht
      exact absurd rfl (ht '-' rfl)
    | path relationship' start' stop' =>
      obtain ⟨hrel', ⟨a', rfl, ha'⟩, b', rfl, hb'⟩ := hq
      rw [text_path, text_path] at heq
      simp only [List.cons_append, List.append_assoc, List.nil_append, List.cons.injEq, true_and] at heq
      obtain ⟨hstart, hrest⟩ := Entity.reads_text ea (nq a' (by simp [entities])) _ _ (hround _)
        (hround _) heq
      simp only [List.cons.injEq, true_and] at hrest
      obtain ⟨hmiddle, hrest⟩ := Entity.reads_text (np relationship (by simp [entities]))
        (nq relationship' (by simp [entities])) _ _ (hsquare _) (hsquare _) hrest
      simp only [List.cons.injEq, true_and] at hrest
      obtain ⟨hstop, hrest⟩ := Entity.reads_text (np b (by simp [entities]))
        (nq b' (by simp [entities])) _ _ (hround r) (hround t) hrest
      have hmiddle' := Entity.sanitized_eq_of_shown hmiddle (hrel.trans hrel'.symm)
      have hstart' := Entity.sanitized_eq_of_shown hstart (ha.trans ha'.symm)
      have hstop' := Entity.sanitized_eq_of_shown hstop (hb.trans hb'.symm)
      simp only [sanitized, Option.map_some, hmiddle', hstart', hstop']
      exact ⟨trivial, (List.cons.inj hrest).2⟩

end Pattern

/-- The words that clauses begin with. -/
def clauseWords : List String := ["MATCH", "WHERE", "RETURN", "ORDER", "LIMIT"]

/-- The end of a clause: nothing follows, or another clause. -/
def ClauseEnd (cs : List Char) : Prop :=
  cs = [] ∨ Breaks cs ∧ nextWord cs ∈ clauseWords.map String.toList

namespace ClauseEnd

variable {cs : List Char}

theorem breaks (h : ClauseEnd cs) : Breaks cs := by
  rcases h with rfl | ⟨hb, _⟩
  · exact breaks_nil
  · exact hb

theorem ends {stops : List String} (h : ClauseEnd cs)
    (hs : ∀ w ∈ stops, w.toList ≠ [] ∧ w.toList ∉ clauseWords.map String.toList) :
    Ends stops cs := by
  refine ⟨h.breaks, fun w hw heq => ?_⟩
  rcases h with rfl | ⟨_, hword⟩
  · exact (hs w hw).1 heq.symm
  · rw [heq] at hword
    exact (hs w hw).2 hword

theorem not_comma (h : ClauseEnd cs) : ¬", ".toList <+: cs := by
  rintro ⟨u, rfl⟩
  rcases h with h | ⟨_, hword⟩
  · cases h
  · have hnil : nextWord (", ".toList ++ u) = [] := rfl
    rw [hnil] at hword
    exact absurd hword (by decide)

theorem ne_dash (h : ClauseEnd cs) : ∀ c ∈ cs.head?, c ≠ '-' := by
  rintro c hc rfl
  exact absurd (h.breaks _ hc) (by decide)

end ClauseEnd

/-- The items of a clause are readable if each is. -/
theorem reads_listed {α β : Type} {follow : List Char → Prop} {write : α → List Char} {norm : α → β}
    {xs ys : List α} (hxs : xs ≠ []) (hys : ys ≠ [])
    (h : ∀ x ∈ xs, ∀ y ∈ ys, Reads follow write norm x y)
    (hcomma : ∀ t, follow (", ".toList ++ t)) (hend : ∀ {t}, ClauseEnd t → follow t)
    {r t : List Char} (hr : ClauseEnd r) (ht : ClauseEnd t)
    (heq : ", ".toList.intercalate (xs.map write) ++ r =
      ", ".toList.intercalate (ys.map write) ++ t) :
    xs.map norm = ys.map norm ∧ r = t :=
  reads_intercalate hxs hys h (fun _ _ _ => hcomma _) (fun _ _ _ => hcomma _) (hend hr) (hend ht)
    hr.not_comma ht.not_comma heq

namespace SortKey

/-- The tokens of a key. -/
def tokens (k : SortKey) : List OrderToken := .field k.1 :: k.2.toList.map .direction

theorem tokens_map (f : Expr → Expr) (k : SortKey) :
    (k.map f).tokens = k.tokens.map (OrderToken.map f) := by
  obtain ⟨e, d⟩ := k
  cases d <;> rfl

end SortKey

namespace OrderBy

/-- Keys keep all that is in the tokens. -/
theorem tokens_of_keysAfter {last : Option SortKey} {ts : List OrderToken} {ks : List SortKey}
    (h : keysAfter last ts = .ok ks) :
    last.toList.flatMap SortKey.tokens ++ ts = ks.flatMap SortKey.tokens := by
  fun_induction keysAfter last ts generalizing ks with
  | case1 last =>
    cases h
    simp
  | case2 last e ts ih =>
    cases hr : keysAfter (some (e, none)) ts with
    | error err => simp [hr, bind, Except.bind] at h
    | ok ks' =>
      simp only [hr, bind, Except.bind, pure, Except.pure, Except.ok.injEq] at h
      rw [← h, List.flatMap_append, ← ih hr]
      rfl
  | case3 d ts => cases h
  | case4 e d ts ih => exact ih h
  | case5 e d' d ts => cases h

/-- Orders of the same keys have the same tokens. -/
theorem map_eq_of_keys {f : Expr → Expr} {o o' : OrderBy} {ks ks' : List SortKey}
    (h : o.sortKeys = .ok ks) (h' : o'.sortKeys = .ok ks')
    (heq : ks.map (SortKey.map f) = ks'.map (SortKey.map f)) : o.map f = o'.map f := by
  have htokens : ∀ {o : OrderBy} {ks : List SortKey}, o.sortKeys = .ok ks →
      (o.map f).tokens = (ks.map (SortKey.map f)).flatMap SortKey.tokens := by
    intro o ks hks
    have ho : o.tokens = ks.flatMap SortKey.tokens := tokens_of_keysAfter hks
    rw [OrderBy.map, ho, List.map_flatMap, List.flatMap_map]
    exact List.flatMap_congr fun k _ => (k.tokens_map f).symm
  have htext : (o.map f).tokens = (o'.map f).tokens := by rw [htokens h, htokens h', heq]
  exact congrArg OrderBy.mk htext

end OrderBy

namespace Clause

variable (s : ParamStyle) (implicit : Bool)

/-- The text of a clause. -/
def text (c : Clause) : List Char := Piece.writeAll s (c.written implicit)

theorem writeAll_listed (w : String) (items : List (List Piece)) :
    Piece.writeAll s (listed w items) =
      w.toList ++ ' ' :: ", ".toList.intercalate (items.map (Piece.writeAll s)) := by
  rw [listed, Piece.writeAll_word, Piece.writeAll_word, Piece.writeAll_intercalate]
  rfl

theorem text_matching (ps : List Pattern) : (matching ps).text s implicit =
    "MATCH".toList ++ ' ' :: ", ".toList.intercalate (ps.map (Pattern.text s)) := by
  rw [text, written, writeAll_listed, List.map_map]
  rfl

theorem text_filter (e : Expr) :
    (filter e).text s implicit = "WHERE".toList ++ ' ' :: e.text s := by
  rw [text, written, writeAll_listed]
  simp [Expr.text]

theorem text_returning (es : List Expr) : (returning es).text s implicit =
    "RETURN".toList ++ ' ' ::
      ", ".toList.intercalate (es.map fun e => (e.explicit implicit).text s) := by
  rw [text, written, writeAll_listed, List.map_map]
  simp only [Function.comp_def, Expr.itemWritten_eq, Expr.text]

theorem text_orderBy (o : OrderBy) : (orderBy o).text s implicit =
    "ORDER BY".toList ++ ' ' :: ", ".toList.intercalate (o.keys.map (SortKey.text s)) := by
  rw [text, written, writeAll_listed, List.map_map]
  rfl

theorem text_limit (n : UInt64) :
    (limit n).text s implicit = "LIMIT".toList ++ ' ' :: Nat.toDigits 10 n.toNat := by
  rw [text, written, writeAll_listed]
  simp [Piece.writeAll, Piece.write]

/-- The first letter of a clause. -/
def initial : Clause → Char
  | .matching _ => 'M'
  | .filter _ => 'W'
  | .returning _ => 'R'
  | .orderBy _ => 'O'
  | .limit _ => 'L'
  | .option _ => ' '

/-- What clauses are told apart by their texts. -/
structure Readable (c : Clause) : Prop where
  optionFree : c.OptionFree
  wellFormed : c.WellFormed
  regular : c.Regular
  plain : ∀ l ∈ c.leaves, l.Plain
  names : ∀ e ∈ c.entities, Identifier.isVariable e.name.toList

variable {s implicit}

theorem head_text {c : Clause} (h : c.OptionFree) (r : List Char) :
    (c.text s implicit ++ r).head? = some c.initial := by
  cases c with
  | option g => exact h.elim
  | _ => rfl

/-- Behind a space, a clause ends the one in front. -/
theorem clauseEnd_text {c : Clause} (h : c.OptionFree) (r : List Char) :
    ClauseEnd (" ".toList ++ (c.text s implicit ++ r)) := by
  have hword : ∀ (w : String) (body : List Char), c.text s implicit = w.toList ++ ' ' :: body →
      (∀ x ∈ w.toList, x.isAlpha) → w ∈ clauseWords →
        ClauseEnd (" ".toList ++ (c.text s implicit ++ r)) := by
    intro w body ht hw hmem
    have hnext : nextWord (" ".toList ++ (w.toList ++ (' ' :: body ++ r))) = w.toList :=
      nextWord_append hw (breaks_cons.2 rfl)
    refine .inr ⟨breaks_cons.2 rfl, ?_⟩
    rw [ht, List.append_assoc, hnext]
    exact List.mem_map_of_mem hmem
  cases c with
  | matching ps =>
    exact hword "MATCH" _ (text_matching s implicit ps) (List.all_eq_true.1 (by decide)) (by decide)
  | filter e =>
    exact hword "WHERE" _ (text_filter s implicit e) (List.all_eq_true.1 (by decide)) (by decide)
  | returning es =>
    exact hword "RETURN" _ (text_returning s implicit es) (List.all_eq_true.1 (by decide)) (by decide)
  | orderBy o =>
    have htext : (orderBy o).text s implicit = "ORDER".toList ++ ' ' :: ("BY ".toList ++
        ", ".toList.intercalate (o.keys.map (SortKey.text s))) := text_orderBy s implicit o
    exact hword "ORDER" _ htext (List.all_eq_true.1 (by decide)) (by decide)
  | limit n =>
    exact hword "LIMIT" _ (text_limit s implicit n) (List.all_eq_true.1 (by decide)) (by decide)
  | option g => exact h.elim

theorem reads_matching {ps qs : List Pattern} (hp : (matching ps).Readable)
    (hq : (matching qs).Readable) :
    Reads ClauseEnd (text s implicit) (normal implicit) (matching ps) (matching qs) := by
  obtain ⟨hne, hps⟩ := hp.wellFormed
  obtain ⟨hne', hqs⟩ := hq.wellFormed
  intro r t hr ht heq
  rw [text_matching, text_matching, List.append_assoc, List.append_assoc] at heq
  obtain ⟨hpatterns, hrest⟩ := reads_listed hne hne'
    (fun p hp' q hq' => Pattern.reads_text (hps p hp') (hqs q hq')
      (fun e he => hp.names e (List.mem_flatMap.2 ⟨p, hp', he⟩))
      fun e he => hq.names e (List.mem_flatMap.2 ⟨q, hq', he⟩))
    (fun t c hc => by cases hc; decide) (fun h => h.ne_dash) hr ht
    (List.cons.inj (List.append_cancel_left heq)).2
  rw [normal, normal, hpatterns]
  exact ⟨rfl, hrest⟩

theorem reads_filter {e f : Expr} (he : (filter e).Readable) (hf : (filter f).Readable) :
    Reads ClauseEnd (text s implicit) (normal implicit) (filter e) (filter f) := by
  intro r t hr ht heq
  rw [text_filter, text_filter, List.append_assoc, List.append_assoc] at heq
  obtain ⟨hnormal, hrest⟩ := Expr.reads_predicate he.regular hf.regular he.plain hf.plain r t
    (hr.ends (by decide)) (ht.ends (by decide)) (List.cons.inj (List.append_cancel_left heq)).2
  rw [normal, normal, hnormal]
  exact ⟨rfl, hrest⟩

theorem plain_explicit {e : Expr} (h : ∀ l ∈ e.leaves, l.Plain) :
    ∀ l ∈ (e.explicit implicit).leaves, l.Plain := by
  unfold Expr.explicit
  split
  · exact h
  · exact h

theorem reads_returning {es fs : List Expr} (he : (returning es).Readable)
    (hf : (returning fs).Readable) :
    Reads ClauseEnd (text s implicit) (normal implicit) (returning es) (returning fs) := by
  intro r t hr ht heq
  rw [text_returning, text_returning, List.append_assoc, List.append_assoc] at heq
  have hitems : ∀ e ∈ es, ∀ f ∈ fs, Reads (Ends ["=", "LIKE", "AND", "AS"])
      (fun e => (e.explicit implicit).text s) (fun e => (e.explicit implicit).normal) e f :=
    fun e he' f hf' =>
      Expr.reads_item (Expr.item_explicit implicit (he.regular e he'))
        (Expr.item_explicit implicit (hf.regular f hf'))
        (plain_explicit fun l hl => he.plain l (List.mem_flatMap.2 ⟨e, he', hl⟩))
        (plain_explicit fun l hl => hf.plain l (List.mem_flatMap.2 ⟨f, hf', hl⟩))
  obtain ⟨hnormal, hrest⟩ := reads_listed he.wellFormed hf.wellFormed hitems
    (ends_comma (by decide)) (fun h => h.ends (by decide)) hr ht
    (List.cons.inj (List.append_cancel_left heq)).2
  rw [normal, normal, hnormal]
  exact ⟨rfl, hrest⟩

/-- The keys of a good order are leaves. -/
theorem exists_keys {o : OrderBy} (hwf : o.WellFormed) (hp : ∀ l ∈ (orderBy o).leaves, l.Plain) :
    ∃ ks, o.sortKeys = .ok ks ∧ o.keys = ks ∧ ks ≠ [] ∧ ∀ k ∈ ks, k.1.isLeaf ∧ k.1.Plain := by
  obtain ⟨k, ks, hks⟩ := o.exists_sortKeys_iff.2 ⟨hwf.starts, hwf.apart⟩
  have hkeys : o.keys = k :: ks := by rw [OrderBy.keys, hks]
  refine ⟨k :: ks, hks, hkeys, List.cons_ne_nil k ks, fun l hl => ?_⟩
  have hfield : l.1 ∈ o.sortFields := OrderBy.fst_mem_of_mem_keys (hkeys ▸ hl)
  have hleaf := hwf.sortable l.1 hfield
  refine ⟨hleaf, hp l.1 (List.mem_flatMap.2 ⟨l.1, hfield, ?_⟩)⟩
  rw [Expr.leaves_of_isLeaf hleaf]
  exact List.mem_singleton_self l.1

theorem reads_orderBy {o o' : OrderBy} (ho : (orderBy o).Readable) (ho' : (orderBy o').Readable) :
    Reads ClauseEnd (text s implicit) (normal implicit) (orderBy o) (orderBy o') := by
  obtain ⟨ks, hks, hke, hne, hleaf⟩ := exists_keys ho.wellFormed ho.plain
  obtain ⟨ks', hks', hke', hne', hleaf'⟩ := exists_keys ho'.wellFormed ho'.plain
  intro r t hr ht heq
  rw [text_orderBy, text_orderBy, List.append_assoc, List.append_assoc, hke, hke'] at heq
  obtain ⟨hmap, hrest⟩ := reads_listed hne hne'
    (fun k hk l hl => SortKey.reads_key (hleaf k hk).1 (hleaf' l hl).1 (hleaf k hk).2 (hleaf' l hl).2)
    (ends_comma (by decide)) (fun h => h.ends (by decide)) hr ht
    (List.cons.inj (List.append_cancel_left heq)).2
  rw [normal, normal, OrderBy.map_eq_of_keys hks hks' hmap]
  exact ⟨rfl, hrest⟩

theorem reads_limit (m n : UInt64) :
    Reads ClauseEnd (text s implicit) (normal implicit) (limit m) (limit n) := by
  intro r t hr ht heq
  rw [text_limit, text_limit, List.append_assoc, List.append_assoc] at heq
  obtain ⟨hdigits, hrest⟩ := Value.numeric_append_inj (forall_isNumeric_toDigits m.toNat)
    (forall_isNumeric_toDigits n.toNat) hr.breaks ht.breaks
    (List.cons.inj (List.append_cancel_left heq)).2
  rw [UInt64.toNat_inj.1 (Json.toDigits_injective hdigits)]
  exact ⟨rfl, hrest⟩

/-- A clause gives its normal form back where another one or nothing follows. -/
theorem reads_text {c d : Clause} (hc : c.Readable) (hd : d.Readable) :
    Reads ClauseEnd (text s implicit) (normal implicit) c d := by
  intro r t hr ht heq
  have hinitial : c.initial = d.initial := by
    have hhead := congrArg List.head? heq
    rwa [head_text hc.optionFree, head_text hd.optionFree, Option.some.injEq] at hhead
  cases c with
  | matching ps =>
    cases d with
    | matching qs => exact reads_matching hc hd r t hr ht heq
    | _ => simp [initial] at hinitial
  | filter e =>
    cases d with
    | filter f => exact reads_filter hc hd r t hr ht heq
    | _ => simp [initial] at hinitial
  | returning es =>
    cases d with
    | returning fs => exact reads_returning hc hd r t hr ht heq
    | _ => simp [initial] at hinitial
  | orderBy o =>
    cases d with
    | orderBy o' => exact reads_orderBy hc hd r t hr ht heq
    | _ => simp [initial] at hinitial
  | limit m =>
    cases d with
    | limit n => exact reads_limit m n r t hr ht heq
    | _ => simp [initial] at hinitial
  | option g => exact hc.optionFree.elim

end Clause

namespace Template

theorem text_written (s : ParamStyle) (implicit : Bool) (t : Template) :
    Piece.writeAll s (t.written implicit) =
      " ".toList.intercalate (t.clauses.map (Clause.text s implicit)) := by
  rw [written, Piece.writeAll_intercalate, List.map_map]
  rfl

/-- The text of readable clauses tells their normal forms. -/
theorem map_normal_eq_of_text {s : ParamStyle} {implicit : Bool} {t u : Template}
    (ht : ∀ c ∈ t.clauses, c.Readable) (hu : ∀ c ∈ u.clauses, c.Readable)
    (h : Piece.writeAll s (t.written implicit) = Piece.writeAll s (u.written implicit)) :
    t.clauses.map (Clause.normal implicit) = u.clauses.map (Clause.normal implicit) := by
  have hnil : ∀ {t : Template}, (∀ c ∈ t.clauses, c.Readable) →
      " ".toList.intercalate (t.clauses.map (Clause.text s implicit)) = [] → t.clauses = [] := by
    intro t ht hempty
    cases hcs : t.clauses with
    | nil => rfl
    | cons c cs =>
      rw [hcs, intercalate_map_cons] at hempty
      have hc := ht c (hcs ▸ List.mem_cons_self)
      have hhead : (c.text s implicit ++ separated " ".toList (Clause.text s implicit) cs).head? =
          some c.initial := Clause.head_text hc.optionFree _
      rw [hempty] at hhead
      cases hhead
  rw [text_written, text_written] at h
  by_cases hte : t.clauses = []
  · rw [hte] at h
    rw [hte, hnil hu h.symm]
  · by_cases hue : u.clauses = []
    · rw [hue] at h
      exact absurd (hnil ht h) hte
    · have hend : ClauseEnd [] := .inl rfl
      have hspace : ¬" ".toList <+: [] := by decide
      have hsame := reads_intercalate (r := []) (s := []) hte hue
        (fun c hc d hd => Clause.reads_text (ht c hc) (hu d hd))
        (fun c hc _ => Clause.clauseEnd_text (ht c hc).optionFree _)
        (fun c hc _ => Clause.clauseEnd_text (hu c hc).optionFree _) hend hend hspace hspace
        (by rw [h])
      exact hsame.1

/-- What the clauses of a template that compiles are like where names are strict. -/
theorem clause_of_compile {t : Template} {ctx : Context} {config : Config} {q : Query}
    (hstrict : config.strictNames) (h : t.compile ctx config = .ok q) :
    ∀ c ∈ (t.resolve ctx).clauses, c.OptionFree ∧ c.WellFormed ∧ (∀ l ∈ c.leaves, l.Plain) ∧
      ∀ e ∈ c.entities, Identifier.isVariable e.name.toList := by
  have hw := wellFormed_of_compile_strict hstrict h
  intro c hc
  refine ⟨t.optionFree_resolve ctx c hc, hw.clauses c hc, fun l hl => ?_, fun e he => ?_⟩
  · exact Expr.plain_of_allowed (hw.allowed l (List.mem_flatMap.2 ⟨c, hc, hl⟩))
  · exact hw.entityNames rfl e (List.mem_flatMap.2 ⟨c, hc, he⟩)

theorem readable_of_compile {t : Template} {ctx : Context} {config : Config} {q : Query}
    (hstrict : config.strictNames) (hr : (t.resolve ctx).Regular)
    (h : t.compile ctx config = .ok q) : ∀ c ∈ (t.resolve ctx).clauses, c.Readable := by
  intro c hc
  obtain ⟨hfree, hwf, hp, hn⟩ := clause_of_compile hstrict h c hc
  exact ⟨hfree, hwf, hr c hc, hp, hn⟩

/-- Templates that compile to the same text have the same clauses in normal form: no label, key,
alias, string or literal changes what the rest of the text stands for. -/
theorem normal_eq_of_compile_text {t u : Template} {ctx ctx' : Context} {config : Config}
    {q q' : Query} (hstrict : config.strictNames) (hrt : (t.resolve ctx).Regular)
    (hru : (u.resolve ctx').Regular) (ht : t.compile ctx config = .ok q)
    (hu : u.compile ctx' config = .ok q') (htext : q.text = q'.text) :
    (t.resolve ctx).clauses.map (Clause.normal config.implicitAlias) =
      (u.resolve ctx').clauses.map (Clause.normal config.implicitAlias) := by
  rw [eq_ofPieces_of_compile ht, eq_ofPieces_of_compile hu] at htext
  exact map_normal_eq_of_text (readable_of_compile hstrict hrt ht)
    (readable_of_compile hstrict hru hu) (String.ofList_injective htext)

/-- A lookup with an alias of its own and a conjunction of one operand. -/
def shortLookup : Template := ⟨[
  .filter (.conj [.equal (.property "u" "id") (.param "id")]),
  .returning [.property "u" "name"]]⟩

/-- The same lookup with its alias written out and a control character in it. -/
def longLookup : Template := ⟨[
  .filter (.equal (.property "u" "id") (.param "id")),
  .returning [.alias (.property "u" "name") "na\tme"]]⟩

theorem normal_eq_of_lookups :
    ∃ q q', shortLookup.compile (.ofList [("id", .int 7)]) {} = .ok q ∧
      longLookup.compile (.ofList [("id", .null)]) {} = .ok q' ∧ q.text = q'.text ∧
      (shortLookup.resolve (.ofList [("id", .int 7)])).clauses.map (Clause.normal true) =
        (longLookup.resolve (.ofList [("id", .null)])).clauses.map (Clause.normal true) := by
  have hshort : shortLookup.compile (.ofList [("id", .int 7)]) {} =
      .ok ⟨"WHERE u.id = \x7bid\x7d RETURN u.name AS name", .ofList [("id", .int 7)], .braces⟩ := by
    rfl
  have hlong : longLookup.compile (.ofList [("id", .null)]) {} =
      .ok ⟨"WHERE u.id = \x7bid\x7d RETURN u.name AS name", .ofList [("id", .null)], .braces⟩ := by
    rfl
  have hrs : (shortLookup.resolve (.ofList [("id", .int 7)])).Regular := by
    refine List.forall_mem_cons.2 ⟨?_, List.forall_mem_singleton.2 ?_⟩
    · exact .conj (List.forall_mem_singleton.2 (.comparison (.equal rfl rfl)))
    · exact List.forall_mem_singleton.2 (.predicate (.comparison (.leaf rfl)))
  have hrl : (longLookup.resolve (.ofList [("id", .null)])).Regular := by
    refine List.forall_mem_cons.2 ⟨?_, List.forall_mem_singleton.2 ?_⟩
    · exact .comparison (.equal rfl rfl)
    · exact List.forall_mem_singleton.2 (.aliased (.predicate (.comparison (.leaf rfl))))
  exact ⟨_, _, hshort, hlong, rfl, normal_eq_of_compile_text rfl hrs hrl hshort hlong rfl⟩

end Template

end CypherTemplate
