import CypherTemplate.Proofs.Segment
import CypherTemplate.Proofs.Token
import CypherTemplate.Proofs.WellFormed

/-!
The segments of a written template. Every text that is written between placeholders is inert: its
segments are the same wherever it stands in front of a break, and none looks like a placeholder. So the
placeholders among the segments of a template are its parameters, each where it is written.
-/
namespace CypherTemplate

namespace ParamStyle

/-- A text without placeholders whose segments do not reach into what follows. -/
structure Inert (s : ParamStyle) (cs : List Char) : Prop where
  append : ∀ rest, Breaks rest → s.segments (cs ++ rest) = s.segments cs ++ s.segments rest
  clean : ∀ g ∈ s.segments cs, ¬g.isPlaceholder

variable {s : ParamStyle}

theorem segments_of_ordinary {cs : List Char} (h : ∀ c ∈ cs, s.isOrdinary c) :
    s.segments cs = cs.map .char := by
  have hcs := segments_append_of_ordinary h []
  simpa using hcs

theorem Inert.ordinary_append {as bs : List Char} (ha : ∀ c ∈ as, s.isOrdinary c)
    (hb : s.Inert bs) : s.Inert (as ++ bs) := by
  constructor
  · intro rest hrest
    rw [List.append_assoc, segments_append_of_ordinary ha, segments_append_of_ordinary ha,
      hb.append rest hrest, List.append_assoc]
  · rw [segments_append_of_ordinary ha]
    intro g hg
    rcases List.mem_append.1 hg with hg | hg
    · obtain ⟨c, _, rfl⟩ := List.mem_map.1 hg
      exact nofun
    · exact hb.clean g hg

theorem inert_nil : s.Inert [] :=
  ⟨fun rest _ => by simp, by simp⟩

theorem inert_of_ordinary {cs : List Char} (h : ∀ c ∈ cs, s.isOrdinary c) : s.Inert cs := by
  have hcs := inert_nil.ordinary_append h
  rwa [List.append_nil] at hcs

theorem Inert.append_of_breaks {as bs : List Char} (ha : s.Inert as) (hb : s.Inert bs)
    (hbreak : Breaks bs) : s.Inert (as ++ bs) := by
  constructor
  · intro rest hrest
    rw [List.append_assoc, ha.append _ (hbreak.append hrest), hb.append rest hrest,
      ha.append bs hbreak, List.append_assoc]
  · rw [ha.append bs hbreak]
    intro g hg
    exact (List.mem_append.1 hg).elim (ha.clean g) (hb.clean g)

theorem isOrdinary_of_isNumeric {c : Char} (h : isNumeric c) : s.isOrdinary c := by
  rw [isOrdinary_iff]
  refine ⟨?_, ?_, ?_⟩
  · rintro rfl
    exact absurd h (by decide)
  · rintro rfl
    exact absurd h (by decide)
  · rintro rfl
    cases s <;> exact absurd h (by decide)

/-- A quoted string is one segment. -/
theorem inert_quote (cs : List Char) : s.Inert (Quoted.quote cs) := by
  have h : ∀ rest, s.segments (Quoted.quote cs ++ rest) =
      .quoted (Quoted.quote cs) :: s.segments rest := by
    intro rest
    have hend := Quoted.splitEnd_escape cs rest
    simp only [Quoted.quote, List.cons_append, List.append_assoc, List.nil_append, segments_quote,
      hend]
  have hnil : s.segments (Quoted.quote cs) = [.quoted (Quoted.quote cs)] := by
    simpa using h []
  constructor
  · intro rest _
    rw [h, hnil]
    rfl
  · simp [hnil, Segment.isPlaceholder]

theorem ne_backtick_of_breaks {cs : List Char} (h : Breaks cs) : ∀ c ∈ cs.head?, c ≠ '\x60' := by
  rintro c hc rfl
  exact absurd (h _ hc) (by decide)

/-- A backticked name is one segment. -/
theorem inert_backtick (cs : List Char) : s.Inert (Backticked.quote cs) := by
  have h : ∀ rest, Breaks rest → s.segments (Backticked.quote cs ++ rest) =
      .quoted (Backticked.quote cs) :: s.segments rest := by
    intro rest hrest
    have hend := Backticked.splitEnd_double cs (ne_backtick_of_breaks hrest)
    simp only [Backticked.quote, List.cons_append, List.append_assoc, List.nil_append,
      segments_backtick, hend]
  have hnil : s.segments (Backticked.quote cs) = [.quoted (Backticked.quote cs)] := by
    simpa using h [] breaks_nil
  constructor
  · intro rest hrest
    rw [h rest hrest, hnil]
    rfl
  · simp [hnil, Segment.isPlaceholder]

theorem isOrdinary_of_isVariable {cs : List Char} (h : Identifier.isVariable cs) :
    ∀ c ∈ cs, s.isOrdinary c := fun c hc =>
  isOrdinary_of_isPart (Identifier.isPart_of_isVariable h c hc)

theorem inert_escape (name : String) : s.Inert (Name.escape name) := by
  unfold Name.escape
  rcases Name.token_cases (Name.sanitize name.toList) with ⟨h, ht⟩ | ht
  · rw [ht]
    exact inert_of_ordinary (isOrdinary_of_isVariable h)
  · rw [ht]
    exact inert_backtick _

theorem inert_intercalate {sep : List Char} (hsep : ∀ c ∈ sep, s.isOrdinary c)
    (hbreak : ∀ rest, Breaks (sep ++ rest)) {ls : List (List Char)} (h : ∀ l ∈ ls, s.Inert l) :
    s.Inert (sep.intercalate ls) := by
  induction ls with
  | nil => exact inert_nil
  | cons l ls ih =>
    cases ls with
    | nil => simpa using h
    | cons m ls =>
      have htail := ih fun x hx => h x (List.mem_cons_of_mem l hx)
      rw [List.intercalate_cons_cons, List.append_assoc]
      exact (h l List.mem_cons_self).append_of_breaks (htail.ordinary_append hsep) (hbreak _)

/-- A brace in front of a map key begins no placeholder: a colon stands behind the key. -/
theorem splitPlaceholder_key (key : String) (cs : List Char) :
    s.splitPlaceholder ('\x7b' :: (Name.escape key ++ ':' :: cs)) = none := by
  cases s with
  | dollar => exact splitPlaceholder_of_ne (by decide) _
  | braces =>
    unfold Name.escape
    rcases Name.token_cases (Name.sanitize key.toList) with ⟨h, ht⟩ | ht
    · have hpart := Identifier.isPart_of_isVariable h
      have hcolon : Identifier.isPart ':' = false := by decide
      have hdrop : (Name.sanitize key.toList ++ ':' :: cs).dropWhile Identifier.isPart =
          ':' :: cs := by
        rw [List.dropWhile_append_of_pos hpart, List.dropWhile_cons_of_neg (by simp [hcolon])]
      rw [ht]
      simp only [splitPlaceholder, opening, if_true, hdrop]
      split <;> rfl
    · rw [ht]
      rfl

/-- A name is followed by no further part of a name, so it is read as it was written. -/
theorem splitPlaceholder_placeholder {name rest : List Char} (h : Identifier.isPlain name)
    (hrest : Breaks rest) : s.splitPlaceholder (s.placeholder name ++ rest) = some (name, rest) :=
  splitPlaceholder_append {
    ne_nil := Identifier.ne_nil_of_isPlain h
    isPart := List.all_eq_true.1 (Identifier.isPart_of_isPlain h)
    maximal := fun _ c hc => not_isPart_of_isBreak (hrest c hc) }

theorem inert_brace {cs : List Char} (h : s.Inert cs)
    (hnone : ∀ rest, s.splitPlaceholder ('\x7b' :: (cs ++ rest)) = none) :
    s.Inert ('\x7b' :: cs) := by
  have hchar : ∀ rest, s.segments ('\x7b' :: (cs ++ rest)) =
      .char '\x7b' :: s.segments (cs ++ rest) := fun rest =>
    segments_char (by decide) (by decide) (hnone rest)
  have hnil : s.segments ('\x7b' :: cs) = .char '\x7b' :: s.segments cs := by
    simpa using hchar []
  constructor
  · intro rest hrest
    rw [List.cons_append, hchar, h.append rest hrest, hnil]
    rfl
  · rw [hnil]
    simpa [Segment.isPlaceholder] using h.clean

end ParamStyle

namespace Value

theorem itemLiterals_eq (items : List Value) : itemLiterals items = items.map literal := by
  induction items with
  | nil => rfl
  | cons v vs ih => rw [itemLiterals, ih, List.map_cons]

/-- The text of an entry of a map. -/
def entryLiteral (e : String × Value) : List Char :=
  Name.escape e.1 ++ ':' :: ' ' :: e.2.literal

theorem entryLiterals_eq (es : List (String × Value)) : entryLiterals es = es.map entryLiteral := by
  induction es with
  | nil => rfl
  | cons e es ih => rw [entryLiterals, ih, List.map_cons, entryLiteral]

theorem literal_list (items : List Value) :
    (list items).literal = '[' :: [',', ' '].intercalate (items.map literal) ++ [']'] := by
  rw [literal, itemLiterals_eq]

theorem literal_map (es : List (String × Value)) :
    (map es).literal = '\x7b' :: [',', ' '].intercalate (es.map entryLiteral) ++ ['\x7d'] := by
  rw [literal, entryLiterals_eq]

/-- A map that is not empty begins with a key and a colon. -/
theorem exists_intercalate_entries (e : String × Value) (es : List (String × Value)) :
    ∃ tail, [',', ' '].intercalate ((e :: es).map entryLiteral) =
      Name.escape e.1 ++ ':' :: tail := by
  cases es with
  | nil => exact ⟨' ' :: e.2.literal, by simp [entryLiteral]⟩
  | cons f es =>
    refine ⟨' ' :: e.2.literal ++ [',', ' '] ++
      [',', ' '].intercalate ((f :: es).map entryLiteral), ?_⟩
    simp only [List.map_cons, List.intercalate_cons_cons]
    simp [entryLiteral]

theorem inert_entryLiteral {s : ParamStyle} {e : String × Value} (h : s.Inert e.2.literal) :
    s.Inert (entryLiteral e) := by
  have hcolon : ∀ c ∈ [':', ' '], s.isOrdinary c := List.all_eq_true.1 (by cases s <;> decide)
  exact (ParamStyle.inert_escape e.1).append_of_breaks (h.ordinary_append hcolon)
    (breaks_cons.2 rfl)

/-- Nothing inside a literal is taken for a placeholder. -/
theorem inert_literal (s : ParamStyle) (v : Value) : s.Inert v.literal := by
  have hsep : ∀ c ∈ [',', ' '], s.isOrdinary c := List.all_eq_true.1 (by cases s <;> decide)
  induction v with
  | null => exact ParamStyle.inert_of_ordinary (List.all_eq_true.1 (by cases s <;> decide))
  | bool b =>
    exact ParamStyle.inert_of_ordinary (List.all_eq_true.1 (by cases b <;> cases s <;> decide))
  | int i =>
    exact ParamStyle.inert_of_ordinary fun c hc =>
      ParamStyle.isOrdinary_of_isNumeric (forall_isNumeric_wholeText i.toInt c hc)
  | double d =>
    exact ParamStyle.inert_of_ordinary fun c hc =>
      ParamStyle.isOrdinary_of_isNumeric (forall_isNumeric_doubleLiteral d c hc)
  | string t => exact ParamStyle.inert_quote t.toList
  | list items ih =>
    have hopen : ∀ c ∈ ['['], s.isOrdinary c := List.all_eq_true.1 (by cases s <;> decide)
    have hclose : s.Inert [']'] :=
      ParamStyle.inert_of_ordinary (List.all_eq_true.1 (by cases s <;> decide))
    have hitems : s.Inert ([',', ' '].intercalate (items.map literal)) :=
      ParamStyle.inert_intercalate hsep (fun _ => breaks_cons.2 rfl) (List.forall_mem_map.2 ih)
    rw [literal_list, List.cons_append]
    exact (hitems.append_of_breaks hclose (breaks_cons.2 rfl)).ordinary_append hopen
  | map es ih =>
    have hclose : s.Inert ['\x7d'] :=
      ParamStyle.inert_of_ordinary (List.all_eq_true.1 (by cases s <;> decide))
    have hentry : ∀ e ∈ es, s.Inert (entryLiteral e) := fun e he => inert_entryLiteral (ih e he)
    have hentries : s.Inert ([',', ' '].intercalate (es.map entryLiteral)) :=
      ParamStyle.inert_intercalate hsep (fun _ => breaks_cons.2 rfl)
        (List.forall_mem_map.2 hentry)
    rw [literal_map, List.cons_append]
    refine ParamStyle.inert_brace (hentries.append_of_breaks hclose (breaks_cons.2 rfl)) ?_
    intro rest
    cases es with
    | nil => cases s <;> rfl
    | cons e es =>
      obtain ⟨tail, htail⟩ := exists_intercalate_entries e es
      rw [htail, List.append_assoc, List.append_assoc, List.cons_append]
      exact ParamStyle.splitPlaceholder_key e.1 _

end Value

namespace Piece

/-- The segments of a piece by itself. -/
def segments (s : ParamStyle) : Piece → List Segment
  | .text cs => s.segments cs
  | .param name => [.placeholder name.toList]

/-- Pieces whose segments are those of the text that they make up. -/
structure Cut (s : ParamStyle) (ps : List Piece) : Prop where
  append : ∀ rest, Breaks rest →
    s.segments (writeAll s ps ++ rest) = ps.flatMap (segments s) ++ s.segments rest
  clean : ∀ cs, .text cs ∈ ps → ∀ g ∈ s.segments cs, ¬g.isPlaceholder

variable {s : ParamStyle}

theorem cut_nil : Cut s [] := ⟨fun rest _ => by simp, by simp⟩

theorem cut_text {cs : List Char} (h : s.Inert cs) : Cut s [.text cs] := by
  constructor
  · intro rest hrest
    simpa [writeAll, write, segments] using h.append rest hrest
  · intro ds hds
    cases List.mem_singleton.1 hds
    exact h.clean

/-- The placeholder of a plain name is one segment. -/
theorem cut_param {name : String} (h : Identifier.isPlain name.toList) : Cut s [.param name] := by
  constructor
  · intro rest hrest
    have hsplit := ParamStyle.splitPlaceholder_placeholder (s := s) h hrest
    obtain ⟨c, cs, hc⟩ := s.exists_placeholder_eq_cons name.toList
    simp only [writeAll, write, segments, List.flatMap_cons, List.flatMap_nil, List.append_nil]
    rw [hc] at hsplit ⊢
    rw [List.cons_append] at hsplit ⊢
    rw [ParamStyle.segments_placeholder hsplit]
    rfl
  · simp

theorem Cut.append_of_breaks {ps qs : List Piece} (hp : Cut s ps) (hq : Cut s qs)
    (hbreak : Breaks (writeAll s qs)) : Cut s (ps ++ qs) := by
  constructor
  · intro rest hrest
    rw [writeAll_append, List.append_assoc, hp.append _ (hbreak.append hrest), hq.append rest hrest,
      List.flatMap_append, List.append_assoc]
  · intro cs hcs
    exact (List.mem_append.1 hcs).elim (hp.clean cs) (hq.clean cs)

@[simp] theorem writeAll_word (w : String) (ps : List Piece) :
    writeAll s (.word w :: ps) = w.toList ++ writeAll s ps := rfl

/-- Fixed words may stand in front of anything. -/
theorem Cut.word_cons {w : String} (hw : w.toList.all s.isOrdinary) {ps : List Piece}
    (hp : Cut s ps) : Cut s (.word w :: ps) := by
  rw [List.all_eq_true] at hw
  have hseg : segments s (.word w) = w.toList.map .char := ParamStyle.segments_of_ordinary hw
  constructor
  · intro rest hrest
    rw [writeAll_word, List.append_assoc, ParamStyle.segments_append_of_ordinary hw,
      hp.append rest hrest, List.flatMap_cons, hseg, List.append_assoc]
  · intro cs hcs
    rcases List.mem_cons.1 hcs with hcs | hcs
    · cases hcs
      rw [ParamStyle.segments_of_ordinary hw]
      simp [Segment.isPlaceholder]
    · exact hp.clean cs hcs

theorem cut_intercalate (w : String) (hw : w.toList.all s.isOrdinary)
    (hbreak : ∀ rest, Breaks (w.toList ++ rest)) {pss : List (List Piece)}
    (h : ∀ ps ∈ pss, Cut s ps) : Cut s ([.word w].intercalate pss) := by
  induction pss with
  | nil => exact cut_nil
  | cons ps pss ih =>
    cases pss with
    | nil => simpa using h
    | cons qs pss =>
      have htail := ih fun x hx => h x (List.mem_cons_of_mem ps hx)
      rw [List.intercalate_cons_cons, List.append_assoc]
      exact (h ps List.mem_cons_self).append_of_breaks (htail.word_cons hw) (hbreak _)

/-- Items behind the word of a clause. -/
theorem cut_listed {w : String} (hw : w.toList.all s.isOrdinary) {items : List (List Piece)}
    (h : ∀ ps ∈ items, Cut s ps) : Cut s (listed w items) := by
  have hitems : Cut s ([.word ", "].intercalate items) :=
    cut_intercalate ", " (by cases s <;> decide) (fun _ => breaks_cons.2 rfl) h
  exact (hitems.word_cons (by cases s <;> decide)).word_cons hw

end Piece

namespace Expr

/-- Whether the name in a leaf that is written as it is needs no quotes. -/
def Plain : Expr → Prop
  | .property entity _ => Identifier.isVariable entity.toList
  | .param name => Identifier.isPlain name.toList
  | _ => True

theorem plain_of_allowed {ctx : Context} {l : Expr} (h : l.Allowed true ctx) : l.Plain := by
  cases l with
  | property entity key => exact h rfl
  | param name => exact h.2 rfl
  | _ => trivial

variable {s : ParamStyle}

theorem cut_leaf {l : Expr} (hl : l.isLeaf) (h : l.Plain) : Piece.Cut s l.written := by
  cases l with
  | property entity key =>
    have hvar : Identifier.isVariable entity.toList := h
    have hpoint : ∀ c ∈ ['.'], s.isOrdinary c := List.all_eq_true.1 (by cases s <;> decide)
    have hkey : s.Inert ('.' :: Name.escape key) :=
      (ParamStyle.inert_escape key).ordinary_append hpoint
    exact Piece.cut_text (hkey.ordinary_append (ParamStyle.isOrdinary_of_isVariable hvar))
  | literal v => exact Piece.cut_text (v.inert_literal s)
  | param name => exact Piece.cut_param h
  | _ => simp [isLeaf] at hl

theorem cut_aliasPieces (name : String) : Piece.Cut s (aliasPieces name) :=
  (Piece.cut_text (ParamStyle.inert_escape name)).word_cons (by cases s <;> decide)

theorem breaks_aliasPieces (name : String) : Breaks (Piece.writeAll s (aliasPieces name)) :=
  breaks_cons.2 rfl

/-- The segments of an expression are those of its pieces: no token reaches into the next one. -/
theorem cut_written {e : Expr} (h : ∀ l ∈ e.leaves, l.Plain) :
    Piece.Cut s e.written := by
  induction e with
  | property entity key => exact cut_leaf rfl (h _ (List.mem_singleton_self _))
  | literal v => exact cut_leaf rfl (h _ (List.mem_singleton_self _))
  | param name => exact cut_leaf rfl (h _ (List.mem_singleton_self _))
  | aliased inner name ih =>
    exact (ih h).append_of_breaks (cut_aliasPieces name) (breaks_aliasPieces name)
  | equal left right ihl ihr =>
    obtain ⟨hl, hr⟩ := List.forall_mem_append.1 h
    have hright : Piece.Cut s (.word " = " :: right.written) :=
      (ihr hr).word_cons (by cases s <;> decide)
    exact (ihl hl).append_of_breaks hright (breaks_cons.2 rfl)
  | like left pattern ih =>
    have hpattern : Piece.Cut s [.word " LIKE ", .text (Quoted.quote pattern.toList)] :=
      (Piece.cut_text (ParamStyle.inert_quote pattern.toList)).word_cons (by cases s <;> decide)
    exact (ih h).append_of_breaks hpattern (breaks_cons.2 rfl)
  | conj es ih =>
    rw [leaves_conj, List.forall_mem_flatMap] at h
    cases es with
    | nil => exact Piece.cut_nil.word_cons (by cases s <;> decide)
    | cons e es =>
      rw [written_conj (List.cons_ne_nil e es)]
      exact Piece.cut_intercalate " AND " (by cases s <;> decide) (fun _ => breaks_cons.2 rfl)
        (List.forall_mem_map.2 fun x hx => ih x hx (h x hx))
  | option g => exact Piece.cut_nil

theorem cut_itemWritten (implicit : Bool) {e : Expr} (h : ∀ l ∈ e.leaves, l.Plain) :
    Piece.Cut s (e.itemWritten implicit) := by
  unfold itemWritten
  split
  · exact (cut_written h).append_of_breaks (cut_aliasPieces _) (breaks_aliasPieces _)
  · exact cut_written h

end Expr

theorem SortKey.cut_written {s : ParamStyle} {k : SortKey}
    (h : ∀ l ∈ k.1.leaves, l.Plain) : Piece.Cut s k.written := by
  have hkey := Expr.cut_written (s := s) h
  unfold SortKey.written
  split
  · rename_i d _
    have hword : Piece.Cut s [.word " ", .word d.token] :=
      (Piece.cut_nil.word_cons (by cases s <;> cases d <;> decide)).word_cons
        (by cases s <;> decide)
    exact hkey.append_of_breaks hword (breaks_cons.2 rfl)
  · exact hkey

namespace Entity

variable {s : ParamStyle}

theorem inert_labels (labels : List String) : s.Inert (labels.flatMap Name.label) := by
  induction labels with
  | nil => exact ParamStyle.inert_nil
  | cons label labels ih =>
    have hcolon : ∀ c ∈ [':'], s.isOrdinary c := List.all_eq_true.1 (by cases s <;> decide)
    have hlabel : s.Inert (Name.label label) :=
      (ParamStyle.inert_escape label).ordinary_append hcolon
    have hbreak : Breaks (labels.flatMap Name.label) := by
      cases labels with
      | nil => exact breaks_nil
      | cons m ms => exact breaks_cons.2 rfl
    rw [List.flatMap_cons]
    exact hlabel.append_of_breaks ih hbreak

/-- A closed entity may be followed by anything. -/
theorem cut_written_append (opening closing : String) (ho : opening.toList.all s.isOrdinary)
    (hc : closing.toList.all s.isOrdinary) (hbreak : ∀ rest, Breaks (closing.toList ++ rest))
    {e : Entity} (h : Identifier.isVariable e.name.toList) {ps : List Piece} (hp : Piece.Cut s ps) :
    Piece.Cut s (e.written opening closing ++ ps) := by
  have htext : Piece.Cut s [.text e.text] :=
    Piece.cut_text
      ((inert_labels e.labels).ordinary_append (ParamStyle.isOrdinary_of_isVariable h))
  exact (htext.append_of_breaks (hp.word_cons hc) (hbreak _)).word_cons ho

theorem cut_node_append {e : Entity} (h : Identifier.isVariable e.name.toList) {ps : List Piece}
    (hp : Piece.Cut s ps) : Piece.Cut s (e.written "(" ")" ++ ps) :=
  cut_written_append "(" ")" (by cases s <;> decide) (by cases s <;> decide)
    (fun _ => breaks_cons.2 rfl) h hp

end Entity

theorem Pattern.cut_written {s : ParamStyle} {p : Pattern}
    (h : ∀ e ∈ p.entities, Identifier.isVariable e.name.toList) : Piece.Cut s p.written := by
  -- The ends of a path are listed as options, so each is there or leaves nothing to be cut.
  have hends : ∀ {o : Option Entity} {ps : List Piece},
      (∀ e ∈ o.toList, Identifier.isVariable e.name.toList) → Piece.Cut s ps →
        Piece.Cut s (o.toList.flatMap (Entity.written "(" ")") ++ ps) := by
    intro o ps ho hp
    cases o with
    | none => exact hp
    | some e =>
      rw [Option.toList_some, List.flatMap_singleton]
      exact Entity.cut_node_append (ho e (List.mem_singleton_self e)) hp
  cases p with
  | node e =>
    have he := Entity.cut_node_append (h e (List.mem_singleton_self e)) (Piece.cut_nil (s := s))
    rwa [List.append_nil] at he
  | path relationship start stop =>
    obtain ⟨hstart, hrest⟩ := List.forall_mem_append.1 h
    obtain ⟨hrel, hstop⟩ := List.forall_mem_cons.1 hrest
    have hb : Piece.Cut s (stop.toList.flatMap (Entity.written "(" ")")) := by
      have hs := hends hstop (Piece.cut_nil (s := s))
      rwa [List.append_nil] at hs
    have hr := Entity.cut_written_append (s := s) "-[" "]->" (by cases s <;> decide)
      (by cases s <;> decide) (fun _ => breaks_cons.2 rfl) hrel hb
    rw [Pattern.written, List.append_assoc]
    exact hends hstart hr

namespace Clause

variable {s : ParamStyle}

theorem cut_written (implicit : Bool) {c : Clause} (hl : ∀ l ∈ c.leaves, l.Plain)
    (he : ∀ e ∈ c.entities, Identifier.isVariable e.name.toList) :
    Piece.Cut s (c.written implicit) := by
  cases c with
  | matching ps =>
    refine Piece.cut_listed (by cases s <;> decide) (List.forall_mem_map.2 fun p hp => ?_)
    exact Pattern.cut_written fun e h => he e (List.mem_flatMap.2 ⟨p, hp, h⟩)
  | filter e =>
    refine Piece.cut_listed (by cases s <;> decide) ?_
    simpa using Expr.cut_written hl
  | returning es =>
    refine Piece.cut_listed (by cases s <;> decide) (List.forall_mem_map.2 fun e h => ?_)
    exact Expr.cut_itemWritten implicit fun l hl' => hl l (List.mem_flatMap.2 ⟨e, h, hl'⟩)
  | orderBy o =>
    refine Piece.cut_listed (by cases s <;> decide) (List.forall_mem_map.2 fun k hk => ?_)
    have hfield : k.1 ∈ o.sortFields := OrderBy.fst_mem_of_mem_keys hk
    exact SortKey.cut_written fun l hl' => hl l (List.mem_flatMap.2 ⟨k.1, hfield, hl'⟩)
  | limit n =>
    have hdigits : s.Inert (Nat.toDigits 10 n.toNat) :=
      ParamStyle.inert_of_ordinary fun c hc =>
        ParamStyle.isOrdinary_of_isNumeric (forall_isNumeric_toDigits n.toNat c hc)
    refine Piece.cut_listed (by cases s <;> decide) ?_
    simpa using Piece.cut_text hdigits
  | option g => exact Piece.cut_nil

end Clause

/-- A template of good names is cut where its pieces end. -/
theorem Template.cut_written {s : ParamStyle} (implicit : Bool) {t : Template}
    (hl : ∀ l ∈ t.leaves, l.Plain)
    (he : ∀ e ∈ t.entities, Identifier.isVariable e.name.toList) :
    Piece.Cut s (t.written implicit) := by
  refine Piece.cut_intercalate " " (by cases s <;> decide) (fun _ => breaks_cons.2 rfl) ?_
  refine List.forall_mem_map.2 fun c hc => ?_
  exact Clause.cut_written implicit (fun l h => hl l (List.mem_flatMap.2 ⟨c, hc, h⟩))
    fun e h => he e (List.mem_flatMap.2 ⟨c, hc, h⟩)

end CypherTemplate
