import CypherTemplate.Proofs.Mark
import CypherTemplate.Proofs.Unambiguous

/-!
Compiled text is lexically safe where names are strict. Every token is tidy: a name is a variable or
backticked, a string is quoted, and numbers and placeholders have no quotes in them. Expressions,
patterns and clauses join tidy texts, so the text of a query is tidy, and nothing that was put into a
name, a string or a literal is outside of its section.
-/
namespace CypherTemplate

open Mark

namespace Tidy

variable {cs : List Char}

theorem of_isPart (h : ∀ c ∈ cs, Identifier.isPart c) (hne : cs ≠ []) : Tidy cs :=
  of_tokens (fun c hc => by simp [isToken, h c hc]) hne

/-- A word that the language or the writer fixes. -/
theorem of_word (h : cs.all Identifier.isPart) (hne : cs ≠ []) : Tidy cs :=
  of_isPart (List.all_eq_true.1 h) hne

theorem of_numeric (h : ∀ c ∈ cs, isNumeric c) (hne : cs ≠ []) : Tidy cs := by
  refine of_tokens (fun c hc => ?_) hne
  have hnumeric := h c hc
  simp only [isNumeric, Bool.or_eq_true, decide_eq_true_eq] at hnumeric
  rcases hnumeric with ((hdigit | rfl) | rfl) | rfl
  · simp [isToken, Identifier.isPart, Char.isAlphanum, hdigit]
  · decide
  · decide
  · decide

/-- A quoted string is one section with an end. -/
theorem of_quote (cs : List Char) : Tidy (Quoted.quote cs) := by
  have hscan : ∀ rest, scan (Quoted.quote cs ++ rest) = .quoted true :: scan rest := by
    intro rest
    have hclosed := Quoted.isClosed_escape cs rest
    have hend := Quoted.splitEnd_escape cs rest
    simp only [Quoted.quote, List.cons_append, List.append_assoc, List.nil_append, scan_quote, hclosed,
      hend]
  have hself : scan (Quoted.quote cs) = [.quoted true] := by simpa using hscan []
  refine ⟨List.cons_ne_nil _ _, fun rest _ => ?_, ?_⟩
  · rw [hscan, hself]
    rfl
  · rw [hself]
    exact tidy_quoted

/-- So is a backticked name that no backtick follows. -/
theorem of_backtick (cs : List Char) : Tidy (Backticked.quote cs) := by
  have hscan : ∀ rest, (∀ c ∈ rest.head?, c ≠ '\x60') →
      scan (Backticked.quote cs ++ rest) = .quoted true :: scan rest := by
    intro rest hrest
    have hclosed := Backticked.isClosed_double cs hrest
    have hend := Backticked.splitEnd_double cs hrest
    simp only [Backticked.quote, List.cons_append, List.append_assoc, List.nil_append, scan_backtick,
      hclosed, hend]
  have hself : scan (Backticked.quote cs) = [.quoted true] := by simpa using hscan []
  refine ⟨List.cons_ne_nil _ _, fun rest hrest => ?_, ?_⟩
  · rw [hscan rest hrest, hself]
    rfl
  · rw [hself]
    exact tidy_quoted

theorem of_variable (h : Identifier.isVariable cs) : Tidy cs :=
  of_isPart (Identifier.isPart_of_isVariable h)
    (Identifier.ne_nil_of_isPlain (Bool.and_eq_true_iff.1 h).1)

theorem of_escape (name : String) : Tidy (Name.escape name) := by
  unfold Name.escape
  rcases Name.token_cases (Name.sanitize name.toList) with ⟨h, ht⟩ | ht
  · rw [ht]
    exact of_variable h
  · rw [ht]
    exact of_backtick _

theorem of_placeholder (s : ParamStyle) (h : Identifier.isPlain cs) : Tidy (s.placeholder cs) := by
  have hpart : ∀ c ∈ cs, Identifier.isPart c := List.all_eq_true.1 (Identifier.isPart_of_isPlain h)
  have hname : Tidy cs := of_isPart hpart (Identifier.ne_nil_of_isPlain h)
  cases s with
  | braces => exact hname.enclosed rfl
  | dollar => exact hname.sign_cons rfl

end Tidy

namespace Value

theorem tidy_entryLiteral {e : String × Value} (h : Tidy e.2.literal) : Tidy (entryLiteral e) := by
  have hcolon : Tidy [':'] := .sign rfl
  have hentry := ((Tidy.of_escape e.1).append hcolon (by simp)).space h
  simpa [entryLiteral] using hentry

theorem tidy_enclosed {α : Type} {write : α → List Char} {xs : List α} {o c : Char}
    (h : ∀ x ∈ xs, Tidy (write x)) (hc : closing? o = some c) :
    Tidy (o :: [',', ' '].intercalate (xs.map write) ++ [c]) := by
  refine Tidy.of_enclosed hc ?_
  by_cases hxs : xs = []
  · exact .inl (by rw [hxs]; rfl)
  · exact .inr (.intercalate .comma (mt List.map_eq_nil_iff.1 hxs) (List.forall_mem_map.2 h))

theorem tidy_literal (v : Value) : Tidy v.literal := by
  induction v with
  | null => exact .of_word (by decide) (by decide)
  | bool b => cases b <;> exact .of_word (by decide) (by decide)
  | int i => exact .of_numeric (forall_isNumeric_wholeText i.toInt) (literal_ne_nil (int i))
  | double d => exact .of_numeric (forall_isNumeric_doubleLiteral d) (literal_ne_nil (double d))
  | string t => exact .of_quote t.toList
  | list items ih =>
    rw [literal_list]
    exact tidy_enclosed ih rfl
  | map es ih =>
    rw [literal_map]
    exact tidy_enclosed (fun e he => tidy_entryLiteral (ih e he)) rfl

end Value

namespace Expr

variable {s : ParamStyle}

theorem tidy_alias {cs : List Char} (h : Tidy cs) (name : String) :
    Tidy (cs ++ (" AS ".toList ++ Name.escape name)) :=
  h.word (.of_escape name) (w := "AS".toList) (.of_word (by decide) (by decide))

theorem tidy_text {e : Expr} (hfree : e.OptionFree) (hp : ∀ l ∈ e.leaves, l.Plain) :
    Tidy (e.text s) := by
  induction e with
  | property entity key =>
    have hvariable : Identifier.isVariable entity.toList := hp _ (List.mem_singleton_self _)
    have hkey : Tidy ('.' :: Name.escape key) := .sign_cons rfl (.of_escape key)
    rw [text_property]
    exact (Tidy.of_variable hvariable).append hkey (by simp)
  | literal v =>
    rw [text_literal]
    exact v.tidy_literal
  | param name =>
    rw [text_param]
    exact .of_placeholder s (hp _ (List.mem_singleton_self _))
  | aliased inner name ih =>
    rw [text_alias]
    exact tidy_alias (ih hfree hp) name
  | equal left right ihl ihr =>
    obtain ⟨hl, hr⟩ := List.forall_mem_append.1 hp
    rw [text_equal]
    exact (ihl hfree.1 hl).word (ihr hfree.2 hr) (w := "=".toList) (.sign rfl)
  | like left pattern ih =>
    rw [text_like]
    exact (ih hfree hp).word (.of_quote _) (w := "LIKE".toList) (.of_word (by decide) (by decide))
  | conj es ih =>
    rw [leaves_conj, List.forall_mem_flatMap] at hp
    by_cases hes : es = []
    · have htrue : (conj []).text s = "true".toList := rfl
      rw [hes, htrue]
      exact .of_word (by decide) (by decide)
    · have hand : Tidy "AND".toList := .of_word (by decide) (by decide)
      rw [text_conj s hes]
      exact .intercalate (fun ha hb => ha.word hb hand) (mt List.map_eq_nil_iff.1 hes)
        (List.forall_mem_map.2 fun e he => ih e he (allOptionFree_iff.1 hfree e he) (hp e he))
  | option g => exact hfree.elim

theorem tidy_explicit (implicit : Bool) {e : Expr} (hfree : e.OptionFree)
    (hp : ∀ l ∈ e.leaves, l.Plain) : Tidy ((e.explicit implicit).text s) := by
  unfold explicit
  split
  · rw [text_alias]
    exact tidy_alias (tidy_text hfree hp) _
  · exact tidy_text hfree hp

end Expr

theorem SortKey.tidy_text {s : ParamStyle} {k : SortKey} (hk : k.1.isLeaf) (hp : k.1.Plain) :
    Tidy (k.text s) := by
  have hfield : Tidy (k.1.text s) := by
    refine Expr.tidy_text ?_ ?_
    · cases h : k.1 <;> simp_all [Expr.isLeaf, Expr.OptionFree]
    · rw [Expr.leaves_of_isLeaf hk]
      exact List.forall_mem_singleton.2 hp
  rw [text_eq]
  cases k.2 with
  | none => simpa using hfield
  | some d => exact hfield.space (.of_word (by cases d <;> decide) (by cases d <;> decide))

theorem Entity.tidy_text {e : Entity} (h : Identifier.isVariable e.name.toList) : Tidy e.text := by
  have hlabels : ∀ labels : List String, labels = [] ∨ Tidy (labels.flatMap Name.label) := by
    intro labels
    induction labels with
    | nil => exact .inl rfl
    | cons label labels ih =>
      have hlabel : Tidy (Name.label label) := .sign_cons rfl (.of_escape label)
      refine .inr ?_
      rw [List.flatMap_cons]
      rcases ih with rfl | ih
      · simpa using hlabel
      · refine hlabel.append ih ?_
        cases labels with
        | nil => simp
        | cons m ms => simp [Name.label]
  rw [text]
  rcases hlabels e.labels with hnil | htidy
  · rw [hnil]
    simpa using Tidy.of_variable h
  · exact .tokens_append (fun c hc => by simp [isToken, Identifier.isPart_of_isVariable h c hc]) htidy

theorem Pattern.tidy_text {s : ParamStyle} {p : Pattern} (h : p.WellFormed)
    (hn : ∀ e ∈ p.entities, Identifier.isVariable e.name.toList) : Tidy (p.text s) := by
  have hnode : ∀ {e : Entity}, Identifier.isVariable e.name.toList → Tidy ('(' :: (e.text ++ [')'])) :=
    fun he => (Entity.tidy_text he).enclosed rfl
  cases p with
  | node e =>
    rw [text_node]
    exact hnode (hn e (List.mem_singleton_self e))
  | path relationship start stop =>
    obtain ⟨_, ⟨a, rfl, _⟩, b, rfl, _⟩ := h
    have ha := hnode (hn a (by simp [entities]))
    have hb := hnode (hn b (by simp [entities]))
    have hr : Tidy ('[' :: (relationship.text ++ [']'])) :=
      (Entity.tidy_text (hn relationship (by simp [entities]))).enclosed rfl
    have hbehind : Tidy ('-' :: '>' :: '(' :: (b.text ++ [')'])) :=
      (Tidy.sign_cons rfl hb).sign_cons rfl
    have hpath := ha.append ((hr.append hbehind (by simp)).sign_cons (c := '-') rfl) (by simp)
    rw [text_path]
    simpa using hpath

namespace Clause

variable {s : ParamStyle}

/-- Items behind the words of a clause. -/
theorem tidy_listed {α : Type} {write : α → List Char} {w : List Char} {xs : List α} (hw : Tidy w)
    (hne : xs ≠ []) (h : ∀ x ∈ xs, Tidy (write x)) :
    Tidy (w ++ ' ' :: ", ".toList.intercalate (xs.map write)) :=
  hw.space (.intercalate .comma (mt List.map_eq_nil_iff.1 hne) (List.forall_mem_map.2 h))

theorem tidy_text (implicit : Bool) {c : Clause} (hfree : c.OptionFree) (hwf : c.WellFormed)
    (hp : ∀ l ∈ c.leaves, l.Plain) (hn : ∀ e ∈ c.entities, Identifier.isVariable e.name.toList) :
    Tidy (c.text s implicit) := by
  cases c with
  | matching ps =>
    obtain ⟨hne, hps⟩ := hwf
    rw [text_matching]
    exact tidy_listed (.of_word (by decide) (by decide)) hne fun p hp =>
      Pattern.tidy_text (hps p hp) fun e he => hn e (List.mem_flatMap.2 ⟨p, hp, he⟩)
  | filter e =>
    rw [text_filter]
    exact Tidy.space (.of_word (by decide) (by decide)) (Expr.tidy_text hfree hp)
  | returning es =>
    rw [text_returning]
    exact tidy_listed (.of_word (by decide) (by decide)) hwf fun e he =>
      Expr.tidy_explicit implicit (hfree e he) fun l hl => hp l (List.mem_flatMap.2 ⟨e, he, hl⟩)
  | orderBy o =>
    obtain ⟨ks, _, hkeys, hne, hleaf⟩ := exists_keys hwf hp
    have horder : Tidy "ORDER".toList := .of_word (by decide) (by decide)
    have hby : Tidy "BY".toList := .of_word (by decide) (by decide)
    have hwords : Tidy "ORDER BY".toList := horder.space hby
    rw [text_orderBy, hkeys]
    exact tidy_listed hwords hne fun k hk => SortKey.tidy_text (hleaf k hk).1 (hleaf k hk).2
  | limit n =>
    rw [text_limit]
    exact Tidy.space (.of_word (by decide) (by decide))
      (.of_numeric (forall_isNumeric_toDigits n.toNat) Nat.toDigits_ne_nil)
  | option g => exact hfree.elim

end Clause

namespace Template

/-- The text of a query is safe where names are strict: quoted sections have an end, only a few signs
stand outside of them beside letters, digits and underscores, the brackets there are matched, and there
is a space neither first nor last nor next to another one. -/
theorem lexicallySafe_of_compile {t : Template} {ctx : Context} {config : Config} {q : Query}
    (hstrict : config.strictNames) (h : t.compile ctx config = .ok q) :
    .quoted false ∉ scan q.text.toList ∧
      (∀ c, .bare c ∈ scan q.text.toList → isOutside c) ∧
      (scan q.text.toList).foldlM step [] = some [] ∧
      Spaced (scan q.text.toList) := by
  have hmarks : Mark.Tidy (scan q.text.toList) := by
    rw [eq_ofPieces_of_compile h, Query.ofPieces, String.toList_ofList, text_written]
    by_cases hne : (t.resolve ctx).clauses = []
    · rw [hne]
      exact scan_nil ▸ tidy_nil
    · refine (Tidy.intercalate .space (mt List.map_eq_nil_iff.1 hne) ?_).marks
      refine List.forall_mem_map.2 fun c hc => ?_
      obtain ⟨hfree, hwf, hp, hn⟩ := clause_of_compile hstrict h c hc
      exact Clause.tidy_text config.implicitAlias hfree hwf hp hn
  exact ⟨hmarks.closed, hmarks.outside, hmarks.nested [], hmarks.spaced⟩

/-- A template whose names, string and literal hold quotes and brackets. -/
def hostile : Template := ⟨[
  .matching [.node ((Entity.node "u").withLabel "a\x60)-[")],
  .filter (.conj [
    .like (.property "u" "n\" =") "x\" OR (",
    .equal (.literal (.map [("k \x7d", .list [.string "]"])])) (.param "p")]),
  .returning [.property "u" "two  words"]]⟩

theorem lexicallySafe_hostile :
    ∃ q, hostile.compile (.ofList [("p", .null)]) {} = .ok q ∧
      q.text = "MATCH (u:\x60a\x60\x60)-[\x60) WHERE u.\x60n\" =\x60 LIKE \"x\\\" OR (\" AND " ++
        "\x7b\x60k \x7d\x60: [\"]\"]\x7d = \x7bp\x7d " ++
        "RETURN u.\x60two  words\x60 AS \x60two  words\x60" ∧
      (scan q.text.toList).foldlM step [] = some [] ∧ Spaced (scan q.text.toList) := by
  have hcompile : hostile.compile (.ofList [("p", .null)]) {} = .ok
      ⟨"MATCH (u:\x60a\x60\x60)-[\x60) WHERE u.\x60n\" =\x60 LIKE \"x\\\" OR (\" AND " ++
        "\x7b\x60k \x7d\x60: [\"]\"]\x7d = \x7bp\x7d " ++
        "RETURN u.\x60two  words\x60 AS \x60two  words\x60", .ofList [("p", .null)], .braces⟩ := by
    rfl
  obtain ⟨_, _, hnested, hspaced⟩ := lexicallySafe_of_compile rfl hcompile
  exact ⟨_, hcompile, rfl, hnested, hspaced⟩

end Template

end CypherTemplate
