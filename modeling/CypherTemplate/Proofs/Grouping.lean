import CypherTemplate.Proofs.Links
import CypherTemplate.Proofs.Literal
import CypherTemplate.Proofs.Unambiguous

/-!
What compiled text tells of the grouping of operators. No brackets are written around operands, so an
expression is known by its first leaf and its links: two predicates have one text just when they are the
same when regrouped, up to flattening and the sanitizing of names. Those that are grouped as their text
is read are told apart altogether.
-/
namespace CypherTemplate

variable {s : ParamStyle}

namespace Expr

/-- The text of a leaf hangs on its sanitized form. -/
theorem text_eq_of_sanitized {l m : Expr} (hl : l.isLeaf) (hm : m.isLeaf)
    (h : l.sanitized = m.sanitized) : l.text s = m.text s := by
  cases l with
  | property entity key =>
    cases m with
    | property entity' key' =>
      obtain ⟨hentity, hkey⟩ := property.inj h
      rw [text_property, text_property, hentity, Name.escape_eq_iff.2 hkey]
    | literal v => cases h
    | param name => cases h
    | _ => cases hm
  | literal v =>
    cases m with
    | property entity key => cases h
    | literal w =>
      rw [text_literal, text_literal, Value.literal_eq_of_sanitized (literal.inj h)]
    | param name => cases h
    | _ => cases hm
  | param name =>
    cases m with
    | property entity key => cases h
    | literal v => cases h
    | param name' => rw [param.inj h]
    | _ => cases hm
  | _ => cases hl

end Expr

namespace Link

/-- The text of a link behind the space in front of it. -/
def text (s : ParamStyle) : Link → List Char
  | .equal l => "= ".toList ++ l.text s
  | .like pattern => "LIKE ".toList ++ Quoted.quote pattern.toList
  | .named name => "AS ".toList ++ Name.escape name
  | .conj l => "AND ".toList ++ l.text s

@[simp] theorem text_equal (l : Expr) : (equal l).text s = "= ".toList ++ l.text s := rfl

@[simp] theorem text_like (pattern : String) :
    (like pattern).text s = "LIKE ".toList ++ Quoted.quote pattern.toList := rfl

@[simp] theorem text_named (name : String) :
    (named name).text s = "AS ".toList ++ Name.escape name := rfl

@[simp] theorem text_conj (l : Expr) : (conj l).text s = "AND ".toList ++ l.text s := rfl

/-- A leaf at the end of a link whose names need no quotes. -/
def Plain (k : Link) : Prop := ∀ l ∈ k.leaf?, l.isLeaf ∧ l.Plain

theorem text_eq_of_sanitized {k m : Link} (hk : k.Plain) (hm : m.Plain)
    (h : k.sanitized = m.sanitized) : k.text s = m.text s := by
  cases k with
  | equal l =>
    cases m with
    | equal l' =>
      have hl : l.text s = l'.text s :=
        Expr.text_eq_of_sanitized (hk l rfl).1 (hm l' rfl).1 (equal.inj h)
      rw [text_equal, text_equal, hl]
    | _ => cases h
  | like pattern =>
    cases m with
    | like pattern' => rw [like.inj h]
    | _ => cases h
  | named name =>
    cases m with
    | named name' => rw [text_named, text_named, Name.escape_eq_iff.2 (named.inj h)]
    | _ => cases h
  | conj l =>
    cases m with
    | conj l' =>
      have hl : l.text s = l'.text s :=
        Expr.text_eq_of_sanitized (hk l rfl).1 (hm l' rfl).1 (conj.inj h)
      rw [text_conj, text_conj, hl]
    | _ => cases h

/-- A link begins with its operator and gives its operand back. -/
theorem reads_text {k m : Link} (hk : k.Plain) (hm : m.Plain) :
    Reads Breaks (text s) sanitized k m := by
  intro r t hr ht heq
  cases k with
  | equal l =>
    cases m with
    | equal l' =>
      rw [text_equal, text_equal, List.append_assoc, List.append_assoc] at heq
      obtain ⟨hl, hrest⟩ := Expr.reads_leaf (hk l rfl).1 (hm l' rfl).1 (hk l rfl).2 (hm l' rfl).2 r t
        hr ht (List.append_cancel_left heq)
      rw [sanitized, sanitized, hl]
      exact ⟨rfl, hrest⟩
    | _ => simp at heq
  | like pattern =>
    cases m with
    | like pattern' =>
      rw [text_like, text_like, List.append_assoc, List.append_assoc] at heq
      obtain ⟨hpattern, hrest⟩ := Quoted.quote_append_inj (List.append_cancel_left heq)
      rw [String.toList_inj.1 hpattern]
      exact ⟨rfl, hrest⟩
    | _ => simp at heq
  | named name =>
    cases m with
    | named name' =>
      rw [text_named, text_named, List.append_assoc, List.append_assoc] at heq
      obtain ⟨hname, hrest⟩ := Name.reads_escape name name' r t hr ht (List.append_cancel_left heq)
      rw [sanitized, sanitized, hname]
      exact ⟨rfl, hrest⟩
    | _ => simp at heq
  | conj l =>
    cases m with
    | conj l' =>
      rw [text_conj, text_conj, List.append_assoc, List.append_assoc] at heq
      obtain ⟨hl, hrest⟩ := Expr.reads_leaf (hk l rfl).1 (hm l' rfl).1 (hk l rfl).2 (hm l' rfl).2 r t
        hr ht (List.append_cancel_left heq)
      rw [sanitized, sanitized, hl]
      exact ⟨rfl, hrest⟩
    | _ => simp at heq

end Link

namespace Expr

/-- Whether an expression begins with a good leaf and goes on with good links. -/
structure Linked (e : Expr) : Prop where
  isLeaf : e.first.isLeaf
  plain : e.first.Plain
  links : ∀ k ∈ e.links, k.Plain

theorem plain_of_mem_furtherLinks {es : List Expr} (h : ∀ e ∈ es, e.Linked) :
    ∀ k ∈ furtherLinks es, k.Plain := by
  induction es with
  | nil => simp [furtherLinks]
  | cons e es ih =>
    obtain ⟨he, hes⟩ := List.forall_mem_cons.1 h
    have hlink : (Link.conj e.first).Plain := by
      rintro l ⟨⟩
      exact ⟨he.isLeaf, he.plain⟩
    exact List.forall_mem_append.2 ⟨List.forall_mem_cons.2 ⟨hlink, he.links⟩, ih hes⟩

theorem linked_of_plain {e : Expr} (hfree : e.OptionFree) (hp : ∀ l ∈ e.leaves, l.Plain) :
    e.Linked := by
  induction e with
  | property entity key => exact ⟨rfl, hp _ (List.mem_singleton_self _), by simp [links]⟩
  | literal v => exact ⟨rfl, trivial, by simp [links]⟩
  | param name => exact ⟨rfl, hp _ (List.mem_singleton_self _), by simp [links]⟩
  | aliased inner name ih =>
    have hi := ih hfree hp
    have hlink : (Link.named name).Plain := by rintro l ⟨⟩
    exact ⟨hi.isLeaf, hi.plain,
      List.forall_mem_append.2 ⟨hi.links, List.forall_mem_singleton.2 hlink⟩⟩
  | equal left right ihl ihr =>
    obtain ⟨hpl, hpr⟩ := List.forall_mem_append.1 hp
    have hl := ihl hfree.1 hpl
    have hr := ihr hfree.2 hpr
    have hlink : (Link.equal right.first).Plain := by
      rintro l ⟨⟩
      exact ⟨hr.isLeaf, hr.plain⟩
    exact ⟨hl.isLeaf, hl.plain,
      List.forall_mem_append.2 ⟨hl.links, List.forall_mem_cons.2 ⟨hlink, hr.links⟩⟩⟩
  | like left pattern ih =>
    have hi := ih hfree hp
    have hlink : (Link.like pattern).Plain := by rintro l ⟨⟩
    exact ⟨hi.isLeaf, hi.plain,
      List.forall_mem_append.2 ⟨hi.links, List.forall_mem_singleton.2 hlink⟩⟩
  | conj es ih =>
    rw [leaves_conj, List.forall_mem_flatMap] at hp
    have hes : ∀ e ∈ es, e.Linked := fun e he => ih e he (allOptionFree_iff.1 hfree e he) (hp e he)
    cases es with
    | nil => exact ⟨rfl, trivial, by simp [links]⟩
    | cons e es =>
      obtain ⟨he, hes⟩ := List.forall_mem_cons.1 hes
      exact ⟨he.isLeaf, he.plain, List.forall_mem_append.2 ⟨he.links, plain_of_mem_furtherLinks hes⟩⟩
  | option g => exact hfree.elim

theorem separated_furtherLinks {es : List Expr}
    (h : ∀ e ∈ es, e.text s = e.first.text s ++ separated " ".toList (Link.text s) e.links) :
    separated " AND ".toList (text s) es = separated " ".toList (Link.text s) (furtherLinks es) := by
  induction es with
  | nil => rfl
  | cons e es ih =>
    obtain ⟨he, hes⟩ := List.forall_mem_cons.1 h
    rw [separated_cons, ih hes, he, furtherLinks, separated_append, separated_cons]
    simp

/-- The text of an expression is that of its first leaf and its links. -/
theorem text_eq_links {e : Expr} (hfree : e.OptionFree) :
    e.text s = e.first.text s ++ separated " ".toList (Link.text s) e.links := by
  induction e with
  | aliased inner name ih =>
    rw [text_alias, ih hfree, links, separated_append]
    simp [first, separated]
  | equal left right ihl ihr =>
    rw [text_equal, ihl hfree.1, ihr hfree.2, links, separated_append, separated_cons]
    simp [first]
  | like left pattern ih =>
    rw [text_like, ih hfree, links, separated_append]
    simp [first, separated]
  | conj es ih =>
    cases es with
    | nil => rfl
    | cons e es =>
      have htexts := fun f hf => ih f hf (allOptionFree_iff.1 hfree f hf)
      obtain ⟨he, hes⟩ := List.forall_mem_cons.1 htexts
      rw [text_conj s (List.cons_ne_nil e es), intercalate_map_cons, separated_furtherLinks hes, he,
        links, separated_append, List.append_assoc]
      rfl
  | option g => exact hfree.elim
  | _ => simp [first, links, separated]

theorem sanitized_eq_of_text {e f : Expr} (he : e.OptionFree) (hf : f.OptionFree) (le : e.Linked)
    (lf : f.Linked) (h : e.text s = f.text s) :
    e.first.sanitized = f.first.sanitized ∧
      e.links.map Link.sanitized = f.links.map Link.sanitized := by
  have hbreak : ∀ (k : Link) (t : List Char), Breaks (" ".toList ++ (k.text s ++ t)) := fun _ _ =>
    breaks_cons.2 rfl
  have hends : ∀ ks : List Link, Breaks (separated " ".toList (Link.text s) ks ++ []) := fun ks =>
    follow_separated (fun k _ t => hbreak k t) breaks_nil
  have hspace : ¬" ".toList <+: [] := by decide
  rw [text_eq_links he, text_eq_links hf, ← List.append_nil (separated _ _ e.links),
    ← List.append_nil (separated _ _ f.links)] at h
  obtain ⟨hfirst, hrest⟩ := reads_leaf le.isLeaf lf.isLeaf le.plain lf.plain _ _ (hends e.links)
    (hends f.links) h
  obtain ⟨hlinks, _⟩ := reads_separated
    (fun k hk m hm => Link.reads_text (le.links k hk) (lf.links m hm)) (fun k _ t => hbreak k t)
    (fun k _ t => hbreak k t) breaks_nil breaks_nil hspace hspace hrest
  exact ⟨hfirst, hlinks⟩

/-- One text is written for two expressions just when they are regrouped to the same. -/
theorem text_eq_iff {e f : Expr} (he : e.OptionFree) (hf : f.OptionFree) (le : e.Linked)
    (lf : f.Linked) :
    e.text s = f.text s ↔ e.regrouped.sanitized = f.regrouped.sanitized := by
  constructor
  · intro h
    obtain ⟨hfirst, hlinks⟩ := sanitized_eq_of_text he hf le lf h
    rw [sanitized_regrouped, sanitized_regrouped, hfirst, hlinks]
  · intro h
    obtain ⟨hef, hel⟩ := first_links_regrouped le.isLeaf fun k hk l hl => (le.links k hk l hl).1
    obtain ⟨hff, hfl⟩ := first_links_regrouped lf.isLeaf fun k hk l hl => (lf.links k hk l hl).1
    have hfirst := congrArg first h
    have hlinks := congrArg links h
    rw [(first_links_sanitized _).1, (first_links_sanitized _).1, hef, hff] at hfirst
    rw [(first_links_sanitized _).2, (first_links_sanitized _).2, hel, hfl] at hlinks
    have htexts : e.links.map (Link.text s) = f.links.map (Link.text s) :=
      map_eq_of_map_eq (fun k hk m hm => Link.text_eq_of_sanitized (le.links k hk) (lf.links m hm))
        hlinks
    rw [text_eq_links he, text_eq_links hf, text_eq_of_sanitized le.isLeaf lf.isLeaf hfirst,
      separated_eq_flatMap, separated_eq_flatMap, htexts]

theorem resolve_of_optionFree (ctx : Context) {e : Expr} (h : e.OptionFree) : e.resolve ctx = e := by
  induction e with
  | aliased inner name ih => rw [resolve, ih h]
  | equal left right ihl ihr => rw [resolve, ihl h.1, ihr h.2]
  | like left pattern ih => rw [resolve, ih h]
  | conj es ih =>
    have hes : es.map (resolve ctx) = es.map id :=
      List.map_congr_left fun e he => ih e he (allOptionFree_iff.1 h e he)
    rw [resolve_conj, hes, List.map_id]
  | option g => exact h.elim
  | _ => rfl

end Expr

namespace Template

variable {e f : Expr} {ctx ctx' : Context} {config : Config} {q q' : Query}

theorem text_of_compile_filter (he : e.OptionFree)
    (h : compile ⟨[.filter e]⟩ ctx config = .ok q) :
    q.text.toList = "WHERE ".toList ++ e.text config.paramStyle := by
  have hresolve : resolve ⟨[.filter e]⟩ ctx = ⟨[.filter e]⟩ :=
    congrArg (fun e => Template.mk [.filter e]) (Expr.resolve_of_optionFree ctx he)
  rw [eq_ofPieces_of_compile h, Query.ofPieces, String.toList_ofList, text_written, hresolve]
  exact List.intercalate_singleton.trans (Clause.text_filter _ _ e)

theorem linked_of_compile_filter (hstrict : config.strictNames) (he : e.OptionFree)
    (h : compile ⟨[.filter e]⟩ ctx config = .ok q) : e.Linked := by
  have hmem : Clause.filter e ∈ (resolve ⟨[.filter e]⟩ ctx).clauses := by
    have hresolve : (Clause.filter e).resolve ctx = .filter e :=
      congrArg Clause.filter (Expr.resolve_of_optionFree ctx he)
    exact List.mem_singleton.2 hresolve.symm
  obtain ⟨_, _, hp, _⟩ := clause_of_compile hstrict h _ hmem
  exact Expr.linked_of_plain he hp

/-- The text of a predicate tells everything but how its operators are grouped: two predicates are
written alike just when they are the same when regrouped, up to the sanitizing of names. Those that are
grouped as their texts are read, AND under no other operator and a leaf on the right of each equation,
are then the same. -/
theorem filter_text_eq_iff (hstrict : config.strictNames) (he : e.OptionFree) (hf : f.OptionFree)
    (hq : compile ⟨[.filter e]⟩ ctx config = .ok q)
    (hq' : compile ⟨[.filter f]⟩ ctx' config = .ok q') :
    (q.text = q'.text ↔ e.regrouped.sanitized = f.regrouped.sanitized) ∧
      (e.flat.Grouped → f.flat.Grouped → q.text = q'.text → e.normal = f.normal) := by
  have hiff : q.text = q'.text ↔ e.regrouped.sanitized = f.regrouped.sanitized := by
    rw [← String.toList_inj, text_of_compile_filter he hq, text_of_compile_filter hf hq',
      List.append_right_inj, Expr.text_eq_iff he hf (linked_of_compile_filter hstrict he hq)
        (linked_of_compile_filter hstrict hf hq')]
  refine ⟨hiff, fun ge gf htext => ?_⟩
  have hsame := hiff.1 htext
  rwa [Expr.regrouped_of_grouped ge, Expr.regrouped_of_grouped gf] at hsame

/-- A conjunction with conjunctions and a control character in it. -/
def nestedPredicate : Expr := .conj [.conj [.equal (.property "u" "id") (.param "id")], .conj [],
  .like (.equal (.property "u" "n\tm") (.param "id")) "a%"]

/-- The same conjunction, flat. -/
def plainPredicate : Expr := .conj [.equal (.property "u" "id") (.param "id"), .literal (.bool true),
  .like (.equal (.property "u" "nm") (.param "id")) "a%"]

theorem normal_nestedPredicate_eq :
    ∃ q q', compile ⟨[.filter nestedPredicate]⟩ (.ofList [("id", .int 7)]) {} = .ok q ∧
      compile ⟨[.filter plainPredicate]⟩ (.ofList [("id", .int 7)]) {} = .ok q' ∧
      q.text = "WHERE u.id = \x7bid\x7d AND true AND u.nm = \x7bid\x7d LIKE \"a%\"" ∧
      q.text = q'.text ∧ nestedPredicate.normal = plainPredicate.normal := by
  have hnested : compile ⟨[.filter nestedPredicate]⟩ (.ofList [("id", .int 7)]) {} = .ok
      ⟨"WHERE u.id = \x7bid\x7d AND true AND u.nm = \x7bid\x7d LIKE \"a%\"",
        .ofList [("id", .int 7)], .braces⟩ := by
    rfl
  have hplain : compile ⟨[.filter plainPredicate]⟩ (.ofList [("id", .int 7)]) {} = .ok
      ⟨"WHERE u.id = \x7bid\x7d AND true AND u.nm = \x7bid\x7d LIKE \"a%\"",
        .ofList [("id", .int 7)], .braces⟩ := by
    rfl
  have hchains : ∀ name : String, ∀ c ∈ [Expr.equal (.property "u" "id") (.param "id"),
      .literal (.bool true), .like (.equal (.property "u" name) (.param "id")) "a%"], c.Chain := by
    intro name
    simp only [List.forall_mem_cons, List.not_mem_nil, IsEmpty.forall_iff, implies_true, and_true]
    exact ⟨.equal (.leaf rfl) rfl, .leaf rfl, .like (.equal (.leaf rfl) rfl)⟩
  have hstrict : ({} : Config).strictNames := rfl
  have hfree : nestedPredicate.OptionFree := by
    simp [nestedPredicate, Expr.OptionFree, Expr.AllOptionFree]
  have hfree' : plainPredicate.OptionFree := by
    simp [plainPredicate, Expr.OptionFree, Expr.AllOptionFree]
  obtain ⟨_, hsame⟩ := filter_text_eq_iff hstrict hfree hfree' hnested hplain
  exact ⟨_, _, hnested, hplain, rfl, rfl, hsame (hchains "n\tm") (hchains "nm") rfl⟩

/-- Three operands are written alike in any two groups. -/
theorem not_normal_eq_of_text :
    ¬∀ (e f : Expr) (ctx : Context) (config : Config) (q q' : Query), config.strictNames →
      e.OptionFree → f.OptionFree → compile ⟨[.filter e]⟩ ctx config = .ok q →
        compile ⟨[.filter f]⟩ ctx config = .ok q' → q.text = q'.text → e.normal = f.normal := by
  intro hall
  have hleft : compile ⟨[.filter (.equal (.equal (.property "a" "x") (.property "b" "x"))
      (.property "c" "x"))]⟩ .empty {} = .ok ⟨"WHERE a.x = b.x = c.x", .empty, .braces⟩ := by
    rfl
  have hright : compile ⟨[.filter (.equal (.property "a" "x") (.equal (.property "b" "x")
      (.property "c" "x")))]⟩ .empty {} = .ok ⟨"WHERE a.x = b.x = c.x", .empty, .braces⟩ := by
    rfl
  have hsame := hall _ _ .empty {} _ _ rfl (by simp [Expr.OptionFree]) (by simp [Expr.OptionFree])
    hleft hright rfl
  simp [Expr.normal, Expr.flat, Expr.sanitized] at hsame

end Template

end CypherTemplate
