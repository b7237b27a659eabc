import CypherTemplate.Proofs.Parameters
import CypherTemplate.Proofs.Unambiguous

/-!
Compilation clause by clause. The scope that runs through the clauses of a template decides whether
they compile together and nothing else: what is written for a clause, and which parameters it binds,
is the same wherever the clause stands. So two templates compile one behind the other when each does
alone and their entities agree, and the clauses of a template may be put in any order.
-/
namespace CypherTemplate

/-- Whether a name that two lists of entities have in common stands for the same entity. -/
def Entity.Compatible (ds es : List Entity) : Prop :=
  ∀ d ∈ ds, ∀ e ∈ es, d.name = e.name → d = e

theorem Entity.agreeing_append_iff {ds es : List Entity} :
    Agreeing (ds ++ es) ↔ Agreeing ds ∧ Agreeing es ∧ Compatible ds es := by
  constructor
  · intro h
    refine ⟨fun a ha b hb => ?_, fun a ha b hb => ?_, fun a ha b hb => ?_⟩
    · exact h a (List.mem_append_left es ha) b (List.mem_append_left es hb)
    · exact h a (List.mem_append_right ds ha) b (List.mem_append_right ds hb)
    · exact h a (List.mem_append_left es ha) b (List.mem_append_right ds hb)
  · rintro ⟨hd, he, hc⟩ a ha b hb hname
    rcases List.mem_append.1 ha with ha | ha
    · rcases List.mem_append.1 hb with hb | hb
      · exact hd a ha b hb hname
      · exact hc a ha b hb hname
    · rcases List.mem_append.1 hb with hb | hb
      · exact (hc b hb a ha hname.symm).symm
      · exact he a ha b hb hname

/-- What is written for a clause in a context. -/
def Clause.compiled (config : Config) (ctx : Context) (c : Clause) : String :=
  String.ofList ((c.resolve ctx).text config.paramStyle config.implicitAlias)

namespace Template

/-- The clauses of two templates, one after the other. -/
instance : Append Template := ⟨fun t u => ⟨t.clauses ++ u.clauses⟩⟩

@[simp] theorem clauses_append (t u : Template) : (t ++ u).clauses = t.clauses ++ u.clauses := rfl

variable {t u : Template} {ctx : Context} {config : Config} {strict : Bool}

theorem resolve_append (t u : Template) (ctx : Context) :
    (t ++ u).resolve ctx = t.resolve ctx ++ u.resolve ctx := by
  simp only [resolve, clauses_append, List.map_append]
  rfl

theorem demands_append (t u : Template) : (t ++ u).demands = t.demands ++ u.demands :=
  List.flatMap_append

theorem entities_append (t u : Template) : (t ++ u).entities = t.entities ++ u.entities :=
  List.flatMap_append

theorem params_append (t u : Template) : (t ++ u).params = t.params ++ u.params := by
  simp only [params, leaves, clauses_append, List.flatMap_append, List.filterMap_append]

/-- Clauses behind the one that is wrong are not met. -/
theorem compile_append_of_error {e : Error} (h : t.compile ctx config = .error e) (u : Template) :
    (t ++ u).compile ctx config = .error e := by
  rw [compile_eq] at h
  rw [compile_eq, resolve_append, demands_append, Demand.meetAll_append]
  cases hm : Demand.meetAll config.strictNames ctx [] (t.resolve ctx).demands with
  | error e' =>
    rw [hm] at h
    cases h
    rfl
  | ok s =>
    rw [hm] at h
    cases h

/-- Being well-formed hangs on which clauses there are, not on their order or number. -/
theorem WellFormed.of_subset (h : t.WellFormed strict ctx) (hsub : ∀ c ∈ u.clauses, c ∈ t.clauses) :
    u.WellFormed strict ctx := by
  have hentities : ∀ e ∈ u.entities, e ∈ t.entities := fun e he => by
    obtain ⟨c, hc, he⟩ := List.mem_flatMap.1 he
    exact List.mem_flatMap.2 ⟨c, hsub c hc, he⟩
  have hleaves : ∀ l ∈ u.leaves, l.Allowed strict ctx := fun l hl => by
    obtain ⟨c, hc, hl⟩ := List.mem_flatMap.1 hl
    exact h.allowed l (List.mem_flatMap.2 ⟨c, hsub c hc, hl⟩)
  obtain ⟨hb, hv, hp⟩ := (forall_allowed_iff strict ctx u).1 hleaves
  exact ⟨fun c hc => h.clauses c (hsub c hc),
    fun d hd e he => h.entities d (hentities d hd) e (hentities e he), hb,
    fun hs e he => h.entityNames hs e (hentities e he), hv, hp⟩

/-- Two templates are well-formed together if each is and their entities agree. -/
theorem wellFormed_append_iff :
    (t ++ u).WellFormed strict ctx ↔
      t.WellFormed strict ctx ∧ u.WellFormed strict ctx ∧
        Entity.Compatible t.entities u.entities := by
  constructor
  · intro h
    have hagree := h.entities
    rw [entities_append, Entity.agreeing_append_iff] at hagree
    exact ⟨h.of_subset fun c hc => List.mem_append_left _ hc,
      h.of_subset fun c hc => List.mem_append_right _ hc, hagree.2.2⟩
  · rintro ⟨ht, hu, hc⟩
    have hleaves : ∀ l ∈ (t ++ u).leaves, l.Allowed strict ctx := by
      rw [leaves, clauses_append, List.flatMap_append]
      exact List.forall_mem_append.2 ⟨ht.allowed, hu.allowed⟩
    obtain ⟨hb, hv, hp⟩ := (forall_allowed_iff strict ctx (t ++ u)).1 hleaves
    refine ⟨List.forall_mem_append.2 ⟨ht.clauses, hu.clauses⟩, ?_, hb, fun hs => ?_, hv, hp⟩
    · rw [entities_append]
      exact Entity.agreeing_append_iff.2 ⟨ht.entities, hu.entities, hc⟩
    · rw [entities_append]
      exact List.forall_mem_append.2 ⟨ht.entityNames hs, hu.entityNames hs⟩

/-- Two templates compile together if each compiles alone and their entities agree. -/
theorem exists_compile_append_iff :
    (∃ q, (t ++ u).compile ctx config = .ok q) ↔
      (∃ q, t.compile ctx config = .ok q) ∧ (∃ q, u.compile ctx config = .ok q) ∧
        Entity.Compatible (t.resolve ctx).entities (u.resolve ctx).entities := by
  constructor
  · rintro ⟨q, h⟩
    have hwf := wellFormed_of_compile h
    rw [resolve_append, wellFormed_append_iff] at hwf
    exact ⟨exists_compile_of_wellFormed hwf.1, exists_compile_of_wellFormed hwf.2.1, hwf.2.2⟩
  · rintro ⟨⟨q, hq⟩, ⟨r, hr⟩, hcompatible⟩
    refine exists_compile_of_wellFormed ?_
    rw [resolve_append, wellFormed_append_iff]
    exact ⟨wellFormed_of_compile hq, wellFormed_of_compile hr, hcompatible⟩

/-- The text of a query is that of its clauses, each written by itself. -/
theorem text_of_compile {q : Query} (h : t.compile ctx config = .ok q) :
    q.text = " ".intercalate (t.clauses.map (Clause.compiled config ctx)) := by
  have htexts : t.clauses.map (String.toList ∘ Clause.compiled config ctx) =
      (t.resolve ctx).clauses.map (Clause.text config.paramStyle config.implicitAlias) := by
    simp only [resolve, List.map_map, Function.comp_def, Clause.compiled, String.toList_ofList]
  rw [eq_ofPieces_of_compile h, ← String.toList_inj, String.toList_intercalate, List.map_map, htexts,
    Query.ofPieces, String.toList_ofList, text_written]

theorem text_append {q r j : Query} (ht : t.compile ctx config = .ok q)
    (hu : u.compile ctx config = .ok r) (h : (t ++ u).compile ctx config = .ok j) :
    (t.clauses = [] → j.text = r.text) ∧ (u.clauses = [] → j.text = q.text) ∧
      (t.clauses ≠ [] → u.clauses ≠ [] → j.text = q.text ++ " " ++ r.text) := by
  rw [text_of_compile ht, text_of_compile hu, text_of_compile h, clauses_append, List.map_append]
  refine ⟨fun hnil => ?_, fun hnil => ?_, fun htne hune => ?_⟩
  · rw [hnil, List.map_nil, List.nil_append]
  · rw [hnil, List.map_nil, List.append_nil]
  · exact String.intercalate_append_of_ne_nil (mt List.map_eq_nil_iff.1 htne)
      (mt List.map_eq_nil_iff.1 hune)

/-- A name is bound as either of two templates binds it; both bind it as the context does. -/
theorem parameters_append {q r j : Query} (ht : t.compile ctx config = .ok q)
    (hu : u.compile ctx config = .ok r) (h : (t ++ u).compile ctx config = .ok j) (name : String) :
    j.parameters.get? name = (q.parameters.get? name).or (r.parameters.get? name) := by
  rw [parameters_of_compile ht, parameters_of_compile hu, parameters_of_compile h, resolve_append,
    params_append, Context.get?_restrict, Context.get?_restrict, Context.get?_restrict]
  by_cases hq : name ∈ (t.resolve ctx).params
  · by_cases hr : name ∈ (u.resolve ctx).params <;> cases KeyMap.get? ctx name <;> simp [hq, hr]
  · by_cases hr : name ∈ (u.resolve ctx).params <;> simp [hq, hr]

theorem get?_parameters_of_compile {q : Query} (h : t.compile ctx config = .ok q) {name : String}
    {v : Value} (hv : q.parameters.get? name = some v) : ctx.get? name = some v := by
  rw [parameters_of_compile h, Context.get?_restrict] at hv
  split at hv
  · exact hv
  · cases hv

/-- Whether a template compiles, and what it binds, hangs on which clauses it has. -/
theorem compile_of_perm {q : Query} (hp : t.clauses.Perm u.clauses)
    (h : t.compile ctx config = .ok q) :
    ∃ r, u.compile ctx config = .ok r ∧ r.parameters = q.parameters := by
  have hmem : ∀ c, c ∈ (u.resolve ctx).clauses ↔ c ∈ (t.resolve ctx).clauses := fun c =>
    (hp.map (Clause.resolve ctx)).symm.mem_iff
  have hwf : (u.resolve ctx).WellFormed config.strictNames ctx :=
    (wellFormed_of_compile h).of_subset fun c hc => (hmem c).1 hc
  obtain ⟨r, hr⟩ := exists_compile_of_wellFormed hwf
  have hparams : ∀ name, name ∈ (u.resolve ctx).params ↔ name ∈ (t.resolve ctx).params := by
    intro name
    simp only [params, leaves, List.mem_filterMap, List.mem_flatMap, hmem]
  refine ⟨r, hr, KeyMap.eq_of_get? fun name => ?_⟩
  simp only [parameters_of_compile h, parameters_of_compile hr, Context.get?_restrict, hparams]

/-- A clause of a template that compiles does so alone. -/
theorem compile_singleton {q : Query} (h : t.compile ctx config = .ok q) {c : Clause}
    (hc : c ∈ t.clauses) :
    ∃ r, compile ⟨[c]⟩ ctx config = .ok r ∧ r.text = c.compiled config ctx := by
  have hwf : (resolve ⟨[c]⟩ ctx).WellFormed config.strictNames ctx :=
    (wellFormed_of_compile h).of_subset
      (List.forall_mem_singleton.2 (List.mem_map_of_mem hc))
  obtain ⟨r, hr⟩ := exists_compile_of_wellFormed hwf
  exact ⟨r, hr, (text_of_compile hr).trans String.intercalate_singleton⟩

/-- Compilation goes clause by clause. An error among the first clauses is that of the whole. Two
templates compile together just when each compiles alone and no name stands for an entity in the one
and for a different entity in the other; the texts are then joined by a space and the parameters put
together. The order of the clauses is that of their texts and matters for nothing else. -/
theorem compile_clausewise (t u : Template) (ctx : Context) (config : Config) :
    (∀ e, t.compile ctx config = .error e → (t ++ u).compile ctx config = .error e) ∧
    ((∃ q, (t ++ u).compile ctx config = .ok q) ↔
      (∃ q, t.compile ctx config = .ok q) ∧ (∃ q, u.compile ctx config = .ok q) ∧
        Entity.Compatible (t.resolve ctx).entities (u.resolve ctx).entities) ∧
    (∀ q r j, t.compile ctx config = .ok q → u.compile ctx config = .ok r →
      (t ++ u).compile ctx config = .ok j →
        ((t.clauses = [] → j.text = r.text) ∧ (u.clauses = [] → j.text = q.text) ∧
          (t.clauses ≠ [] → u.clauses ≠ [] → j.text = q.text ++ " " ++ r.text)) ∧
        (∀ name, j.parameters.get? name = (q.parameters.get? name).or (r.parameters.get? name)) ∧
        ∀ name v w, q.parameters.get? name = some v → r.parameters.get? name = some w → v = w) ∧
    (t.clauses.Perm u.clauses →
      ((∃ q, t.compile ctx config = .ok q) ↔ ∃ r, u.compile ctx config = .ok r) ∧
      ∀ q r, t.compile ctx config = .ok q → u.compile ctx config = .ok r →
        r.parameters = q.parameters ∧
        ∃ text : Clause → String,
          (∀ c ∈ t.clauses, ∃ p, compile ⟨[c]⟩ ctx config = .ok p ∧ p.text = text c) ∧
          q.text = " ".intercalate (t.clauses.map text) ∧
          r.text = " ".intercalate (u.clauses.map text)) := by
  refine ⟨fun e he => compile_append_of_error he u, exists_compile_append_iff, ?_, fun hp => ?_⟩
  · intro q r j hq hr hj
    refine ⟨text_append hq hr hj, parameters_append hq hr hj, fun name v w hv hw => ?_⟩
    have hctx := get?_parameters_of_compile hq hv
    rw [get?_parameters_of_compile hr hw] at hctx
    exact (Option.some.inj hctx).symm
  · refine ⟨⟨fun ⟨q, hq⟩ => ?_, fun ⟨r, hr⟩ => ?_⟩, fun q r hq hr => ⟨?_, ?_⟩⟩
    · obtain ⟨r, hr, _⟩ := compile_of_perm hp hq
      exact ⟨r, hr⟩
    · obtain ⟨q, hq, _⟩ := compile_of_perm hp.symm hr
      exact ⟨q, hq⟩
    · obtain ⟨r', hr', hparams⟩ := compile_of_perm hp hq
      rw [hr] at hr'
      cases hr'
      exact hparams
    · exact ⟨Clause.compiled config ctx, fun c hc => compile_singleton hq hc, text_of_compile hq,
        text_of_compile hr⟩

/-- A node that two templates share. -/
def users : Template := ⟨[.matching [.node ((Entity.node "u").withLabel "User")]]⟩

def followers : Template := ⟨[
  .matching [((Entity.relationship "f").startingAt ((Entity.node "u").withLabel "User")).endingAt
    (Entity.node "v")],
  .filter (.equal (.property "v" "id") (.param "id"))]⟩

theorem compile_users_followers :
    ∃ q, (users ++ followers).compile (.ofList [("id", .int 7)]) {} = .ok q ∧
      q.text = "MATCH (u:User)" ++ " " ++ "MATCH (u:User)-[f]->(v) WHERE v.id = \x7bid\x7d" ∧
      q.parameters.get? "id" = some (.int 7) := by
  have hu : users.compile (.ofList [("id", .int 7)]) {} =
      .ok ⟨"MATCH (u:User)", .empty, .braces⟩ := by rfl
  have hf : followers.compile (.ofList [("id", .int 7)]) {} =
      .ok ⟨"MATCH (u:User)-[f]->(v) WHERE v.id = \x7bid\x7d", .ofList [("id", .int 7)], .braces⟩ := by
    rfl
  obtain ⟨_, hexists, hjoin, _⟩ :=
    compile_clausewise users followers (.ofList [("id", .int 7)]) {}
  have hcompatible : Entity.Compatible (users.resolve (.ofList [("id", .int 7)])).entities
      (followers.resolve (.ofList [("id", .int 7)])).entities := by
    unfold Entity.Compatible
    decide
  obtain ⟨q, hq⟩ := hexists.2 ⟨⟨_, hu⟩, ⟨_, hf⟩, hcompatible⟩
  obtain ⟨⟨_, _, htext⟩, hparams, _⟩ := hjoin _ _ q hu hf hq
  exact ⟨q, hq, htext (by simp [users]) (by simp [followers]), hparams "id"⟩

end Template

end CypherTemplate
