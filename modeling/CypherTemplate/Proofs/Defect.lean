import CypherTemplate.Proofs.Composition
import CypherTemplate.Proofs.Influence

/-!
Errors name defects. A compilation fails at the first clause that does not go with those before it,
whatever follows, and its error says what is wrong with this clause: a name, a parameter, an entity, a
pattern, an order, or that nothing is there. The compilation meets demands one after another, so it is
enough to know what each kind of demand comes from and how it is refused.
-/
namespace CypherTemplate

/-- The entities of a pattern, each with the kind that belongs in its place. -/
def Pattern.places : Pattern → List (Entity × EntityKind)
  | .node e => [(e, .node)]
  | .path relationship start stop =>
    start.toList.map (·, .node) ++ (relationship, .relationship) :: stop.toList.map (·, .node)

/-- What is wrong with a pattern by itself. The end of a path is missed only where its start is
there. -/
inductive Pattern.Defect : Pattern → Error → Prop where
  | misplacedEntity {p : Pattern} {e : Entity} {kind : EntityKind} :
    (e, kind) ∈ p.places → e.kind ≠ kind → Defect p (.misplacedEntity e.name e.kind)
  | noStart {relationship : Entity} {stop : Option Entity} : relationship.kind = .relationship →
    Defect (.path relationship none stop) (.incompletePattern relationship.name .start)
  | noStop {relationship start : Entity} : relationship.kind = .relationship →
    Defect (.path relationship (some start) none) (.incompletePattern relationship.name .stop)

/-- What is wrong with an order by itself. -/
inductive OrderBy.Defect (o : OrderBy) : OrderFault → Prop where
  | leading {d : Direction} {ts : List OrderToken} :
    o.tokens = .direction d :: ts → Defect o (.leading d)
  | repeated {d d' : Direction} {ts us : List OrderToken} :
    o.tokens = ts ++ .direction d' :: .direction d :: us → Defect o (.repeated d)
  | unsortable {e : Expr} {kind : Unsortable} :
    e ∈ o.sortFields → e.unsortable? = some kind → Defect o (.unsortable kind)

/-- What is wrong with a clause that is no option group, given the clauses before it. -/
inductive Clause.Defect (strict : Bool) (ctx : Context) (before : List Clause) (c : Clause) :
    Error → Prop where
  | unboundParam {name : String} : .param name ∈ c.leaves → ctx.get? name = none →
    Defect strict ctx before c (.unboundParam name)
  | duplicateEntityName {d e : Entity} : d ∈ before.flatMap entities ++ c.entities →
    e ∈ c.entities → d.name = e.name → d ≠ e →
    Defect strict ctx before c (.duplicateEntityName e.name)
  | paramName {name : String} : strict → .param name ∈ c.leaves →
    ¬Identifier.isPlain name.toList → Defect strict ctx before c (.invalidIdentifier name)
  | variableName {name key : String} : strict → .property name key ∈ c.leaves →
    ¬Identifier.isVariable name.toList → Defect strict ctx before c (.invalidIdentifier name)
  | entityName {e : Entity} : strict → e ∈ c.entities →
    ¬Identifier.isVariable e.name.toList → Defect strict ctx before c (.invalidIdentifier e.name)
  | pattern {ps : List Pattern} {p : Pattern} {err : Error} : c = .matching ps → p ∈ ps →
    p.Defect err → Defect strict ctx before c err
  | noPatterns : c = .matching [] → Defect strict ctx before c (.emptyClause .matching)
  | noItems : c = .returning [] → Defect strict ctx before c (.emptyClause .returning)
  | noFields {o : OrderBy} : c = .orderBy o → o.tokens = [] →
    Defect strict ctx before c (.emptyClause .orderBy)
  | order {o : OrderBy} {fault : OrderFault} : c = .orderBy o → o.Defect fault →
    Defect strict ctx before c (.invalidOrderBy fault)

/-- A computation in two steps fails in the first or in the second. -/
theorem cases_of_bind {α β : Type} {x : Except Error α} {f : α → Except Error β} {err : Error}
    (h : x >>= f = .error err) : x = .error err ∨ ∃ a, x = .ok a ∧ f a = .error err := by
  cases x with
  | error e =>
    cases h
    exact .inl rfl
  | ok a => exact .inr ⟨a, rfl, h⟩

theorem eq_error_of_map {α β : Type} {x : Except Error α} {f : α → β} {err : Error}
    (h : x.map f = .error err) : x = .error err := by
  cases x with
  | error e =>
    cases h
    rfl
  | ok a => cases h

namespace Demand

variable {strict : Bool} {ctx : Context} {scope s : Scope} {err : Error}

/-- A run of demands fails at a first one, in the scope that those before it leave. -/
theorem exists_of_meetAll_flatMap {α : Type} {f : α → List Demand} {as : List α}
    (h : meetAll strict ctx scope (as.flatMap f) = .error err) :
    ∃ front a back s, as = front ++ a :: back ∧
      meetAll strict ctx scope (front.flatMap f) = .ok s ∧
        meetAll strict ctx s (f a) = .error err := by
  induction as generalizing scope with
  | nil => cases h
  | cons a as ih =>
    rw [List.flatMap_cons, meetAll_append] at h
    rcases cases_of_bind h with ha | ⟨s, ha, has⟩
    · exact ⟨[], a, as, scope, rfl, rfl, ha⟩
    · obtain ⟨front, b, back, s', rfl, hfront, hb⟩ := ih has
      refine ⟨a :: front, b, back, s', rfl, ?_, hb⟩
      rw [List.flatMap_cons, meetAll_append, ha]
      exact hfront

theorem exists_of_meetAll {ds : List Demand} (h : meetAll strict ctx scope ds = .error err) :
    ∃ front d back s, ds = front ++ d :: back ∧ meetAll strict ctx scope front = .ok s ∧
      d.meet strict ctx s = .error err := by
  rw [← List.flatMap_singleton' ds] at h
  obtain ⟨front, d, back, s, hds, hfront, hd⟩ := exists_of_meetAll_flatMap h
  rw [List.flatMap_singleton'] at hfront
  refine ⟨front, d, back, s, hds, hfront, ?_⟩
  rcases cases_of_bind hd with hmeet | ⟨s', _, hnil⟩
  · exact hmeet
  · cases hnil

theorem mem_of_meet {d : Demand} (h : d.meet strict ctx scope = .ok s) {x : Entity} (hx : x ∈ s) :
    x ∈ scope ∨ d = .entity x := by
  have hcheck : ∀ r : Except Error Unit, r.map (fun _ => scope) = .ok s → s = scope := by
    intro r hr
    cases r <;> cases hr
    rfl
  cases d with
  | leaf l => exact .inl (hcheck _ h ▸ hx)
  | entity e =>
    rcases List.mem_cons.1 ((Entity.mem_of_declare h x).1 hx) with rfl | hx
    · exact .inr rfl
    · exact .inl hx
  | refusal e => cases h

/-- The scope holds entities that were asked for. -/
theorem mem_of_meetAll {ds : List Demand} (h : meetAll strict ctx scope ds = .ok s) {x : Entity}
    (hx : x ∈ s) : x ∈ scope ∨ .entity x ∈ ds := by
  induction ds generalizing scope with
  | nil =>
    cases h
    exact .inl hx
  | cons d ds ih =>
    rw [meetAll_cons] at h
    cases hd : d.meet strict ctx scope with
    | error e =>
      rw [hd] at h
      cases h
    | ok s' =>
      rw [hd] at h
      rcases ih h with hx | hx
      · rcases mem_of_meet hd hx with hx | rfl
        · exact .inl hx
        · exact .inr List.mem_cons_self
      · exact .inr (List.mem_cons_of_mem d hx)

end Demand

/-- A name is refused only where names are strict. -/
theorem eq_of_checkVariable {strict : Bool} {name : String} {err : Error}
    (h : checkVariable strict name = .error err) :
    strict ∧ ¬Identifier.isVariable name.toList ∧ err = .invalidIdentifier name := by
  unfold checkVariable at h
  split at h
  · rename_i hc
    cases h
    simpa using hc
  · cases h

namespace Entity

theorem cases_of_declare {strict : Bool} {scope : Scope} {e : Entity} {err : Error}
    (h : e.declare strict scope = .error err) :
    (∃ d ∈ scope, d.name = e.name ∧ d ≠ e ∧ err = .duplicateEntityName e.name) ∨
      strict ∧ ¬Identifier.isVariable e.name.toList ∧ err = .invalidIdentifier e.name := by
  unfold declare at h
  split at h
  · rename_i d hd
    split at h
    · cases h
    · rename_i hne
      cases h
      have hname : d.name = e.name := by simpa [find?] using List.find?_some hd
      exact .inl ⟨d, List.mem_of_find?_eq_some hd, hname, hne, rfl⟩
  · rcases cases_of_bind h with hname | ⟨_, _, hok⟩
    · exact .inr (eq_of_checkVariable hname)
    · cases hok

/-- An entity asks for its declaration, or is in a place of the other kind. -/
theorem mem_demands {kind : EntityKind} {e : Entity} {d : Demand} (h : d ∈ e.demands kind) :
    d = .entity e ∨ e.kind ≠ kind ∧ d = .refusal (.misplacedEntity e.name e.kind) := by
  unfold demands at h
  split at h
  · rename_i hkind
    exact .inr ⟨hkind, List.mem_singleton.1 h⟩
  · exact .inl (List.mem_singleton.1 h)

end Entity

namespace Pattern

theorem map_fst_places (p : Pattern) : p.places.map (·.1) = p.entities := by
  cases p with
  | node e => rfl
  | path relationship start stop => cases start <;> cases stop <;> rfl

/-- A pattern asks for the entities in its places, or it misses an end. -/
theorem mem_demands {p : Pattern} {d : Demand} (h : d ∈ p.demands) :
    (∃ place ∈ p.places, d ∈ place.1.demands place.2) ∨ ∃ err, d = .refusal err ∧ p.Defect err := by
  cases p with
  | node e => exact .inl ⟨(e, .node), List.mem_singleton_self _, h⟩
  | path relationship start stop =>
    by_cases hkind : relationship.kind = .relationship
    · cases start with
      | none =>
        simp only [demands, hkind, ne_eq, not_true, if_false, List.mem_singleton] at h
        exact .inr ⟨_, h, .noStart hkind⟩
      | some start =>
        cases stop with
        | none =>
          simp only [demands, hkind, ne_eq, not_true, if_false, List.mem_singleton] at h
          exact .inr ⟨_, h, .noStop hkind⟩
        | some stop =>
          simp only [demands, hkind, ne_eq, not_true, if_false, List.mem_append] at h
          rcases h with (h | h) | h
          · exact .inl ⟨(start, .node), by simp [places], h⟩
          · exact .inl ⟨(relationship, .relationship), by simp [places], h⟩
          · exact .inl ⟨(stop, .node), by simp [places], h⟩
    · refine .inl ⟨(relationship, .relationship), by simp [places], ?_⟩
      simpa only [demands, Entity.demands, ne_eq, hkind, not_false_iff, if_true] using h

theorem mem_entities_of_demand {p : Pattern} {e : Entity} (h : .entity e ∈ p.demands) :
    e ∈ p.entities := by
  rcases mem_demands h with ⟨place, hplace, hd⟩ | ⟨err, herr, _⟩
  · rcases Entity.mem_demands hd with heq | ⟨_, heq⟩
    · cases heq
      rw [← map_fst_places]
      exact List.mem_map_of_mem hplace
    · cases heq
  · cases herr

theorem defect_of_refusal {p : Pattern} {err : Error} (h : .refusal err ∈ p.demands) :
    p.Defect err := by
  rcases mem_demands h with ⟨⟨e, kind⟩, hplace, hd⟩ | ⟨err', herr, hdefect⟩
  · rcases Entity.mem_demands hd with heq | ⟨hkind, heq⟩
    · cases heq
    · cases heq
      exact .misplacedEntity hplace hkind
  · cases herr
    exact hdefect

end Pattern

namespace OrderBy

/-- A direction is refused where it comes first or behind another one. `front` are the tokens before,
of which `last` tells what a direction would belong to. -/
theorem exists_defect_of_keysAfter (front : List OrderToken) {last : Option SortKey}
    {ts : List OrderToken} {err : Error} (hnone : last = none → front = [])
    (hsome : ∀ e d, last = some (e, some d) → ∃ us, front = us ++ [.direction d])
    (h : keysAfter last ts = .error err) :
    ∃ fault, err = .invalidOrderBy fault ∧ Defect ⟨front ++ ts⟩ fault := by
  fun_induction keysAfter last ts generalizing front with
  | case1 last => cases h
  | case2 last e ts ih =>
    have hrest : keysAfter (some (e, none)) ts = .error err := by
      rcases cases_of_bind h with hkeys | ⟨_, _, hok⟩
      · exact hkeys
      · cases hok
    have hdefect := ih (front ++ [.field e]) (fun h => by cases h)
      (fun _ _ hd => by cases hd) hrest
    rwa [List.append_assoc] at hdefect
  | case3 d ts =>
    cases h
    obtain rfl := hnone rfl
    exact ⟨_, rfl, .leading rfl⟩
  | case4 e d ts ih =>
    have hdefect := ih (front ++ [.direction d]) (fun h => by cases h)
      (fun _ _ hd => by cases hd; exact ⟨front, rfl⟩) h
    rwa [List.append_assoc] at hdefect
  | case5 e d' d ts =>
    cases h
    obtain ⟨us, rfl⟩ := hsome e d' rfl
    exact ⟨_, rfl, .repeated (List.append_assoc us [.direction d'] (.direction d :: ts))⟩

theorem exists_defect_of_sortKeys {o : OrderBy} {err : Error} (h : o.sortKeys = .error err) :
    ∃ fault, err = .invalidOrderBy fault ∧ o.Defect fault :=
  exists_defect_of_keysAfter [] (fun _ => rfl) (fun _ _ hd => by cases hd) h

/-- Without sort keys there is no token at all. -/
theorem tokens_eq_nil {o : OrderBy} (h : o.sortKeys = .ok []) : o.tokens = [] := by
  have hfields := map_fst_of_sortKeys h
  obtain ⟨_, hhead⟩ := (exists_keysAfter_iff none o.tokens).1 ⟨_, h⟩
  cases ht : o.tokens with
  | nil => rfl
  | cons t ts =>
    cases t with
    | field e => simp [sortFields, ht, OrderToken.field?] at hfields
    | direction d => simp [isOpen, OrderToken.isDirection, ht] at hhead

end OrderBy

theorem Expr.refusal_notMem_demands (e : Expr) {err : Error} : .refusal err ∉ e.demands := by
  simp [demands]

namespace Clause

variable {strict : Bool} {ctx : Context} {before : List Clause} {c : Clause} {err : Error}

theorem mem_entities_of_demand {e : Entity} (h : .entity e ∈ c.demands) : e ∈ c.entities := by
  cases c with
  | matching ps =>
    cases ps with
    | nil => simp [demands] at h
    | cons p ps =>
      obtain ⟨p', hp, he⟩ := List.mem_flatMap.1 h
      exact List.mem_flatMap.2 ⟨p', hp, Pattern.mem_entities_of_demand he⟩
  | filter p => exact absurd h (p.entity_notMem_demands e)
  | returning es =>
    cases es with
    | nil => simp [demands] at h
    | cons x es =>
      obtain ⟨x', _, he⟩ := List.mem_flatMap.1 h
      exact absurd he (x'.entity_notMem_demands e)
  | orderBy o =>
    rw [demands] at h
    split at h
    · simp at h
    · simp at h
    · obtain ⟨x, _, he⟩ := List.mem_flatMap.1 h
      exact absurd he (x.entity_notMem_fieldDemands e)
  | limit n => cases h
  | option g => cases h

/-- A refusal is that of a part which is wrong by itself. -/
theorem defect_of_refusal (h : .refusal err ∈ c.demands) : c.Defect strict ctx before err := by
  cases c with
  | matching ps =>
    cases ps with
    | nil =>
      cases List.mem_singleton.1 h
      exact .noPatterns rfl
    | cons p ps =>
      obtain ⟨p', hp, herr⟩ := List.mem_flatMap.1 h
      exact .pattern rfl hp (Pattern.defect_of_refusal herr)
  | filter e => exact absurd h e.refusal_notMem_demands
  | returning es =>
    cases es with
    | nil =>
      cases List.mem_singleton.1 h
      exact .noItems rfl
    | cons e es =>
      obtain ⟨e', _, herr⟩ := List.mem_flatMap.1 h
      exact absurd herr e'.refusal_notMem_demands
  | orderBy o =>
    rw [demands] at h
    split at h
    · rename_i e hkeys
      cases List.mem_singleton.1 h
      obtain ⟨fault, rfl, hdefect⟩ := OrderBy.exists_defect_of_sortKeys hkeys
      exact .order rfl hdefect
    · rename_i hkeys
      cases List.mem_singleton.1 h
      exact .noFields rfl (OrderBy.tokens_eq_nil hkeys)
    · obtain ⟨e, he, herr⟩ := List.mem_flatMap.1 h
      unfold Expr.fieldDemands at herr
      split at herr
      · rename_i kind hkind
        cases List.mem_singleton.1 herr
        exact .order rfl (.unsortable he hkind)
      · exact absurd herr e.refusal_notMem_demands
  | limit n => cases h
  | option g => cases h

/-- A leaf that is not met has a refused name or no value. -/
theorem defect_of_leaf {l : Expr} (hl : l ∈ c.leaves)
    (h : (Demand.leaf l).check strict ctx = .error err) : c.Defect strict ctx before err := by
  have hpieces : l.pieces strict ctx = .error err := eq_error_of_map h
  have hleaf := isLeaf_of_mem_leaves hl
  cases l with
  | property entity key =>
    rw [Expr.pieces] at hpieces
    rcases cases_of_bind hpieces with hname | ⟨_, _, hok⟩
    · obtain ⟨hstrict, hvariable, rfl⟩ := eq_of_checkVariable hname
      exact .variableName hstrict hl hvariable
    · cases hok
  | literal v => cases hpieces
  | param name =>
    rw [Expr.pieces] at hpieces
    rcases cases_of_bind hpieces with hname | ⟨_, _, hok⟩
    · unfold paramPiece at hname
      split at hname
      · rename_i hplain
        cases hname
        rw [Bool.and_eq_true, Bool.not_eq_true'] at hplain
        exact .paramName hplain.1 hl (by simp [hplain.2])
      · split at hname
        · cases hname
        · rename_i hnone
          cases hname
          exact .unboundParam hl (by simpa using hnone)
    · cases hok
  | _ => cases hleaf

/-- An entity that cannot be declared has a refused name or differs from one of the same name. -/
theorem defect_of_entity {scope : Scope} {e : Entity} (he : e ∈ c.entities)
    (hscope : ∀ d ∈ scope, d ∈ before.flatMap entities ++ c.entities)
    (h : e.declare strict scope = .error err) : c.Defect strict ctx before err := by
  rcases Entity.cases_of_declare h with ⟨d, hd, hname, hne, rfl⟩ | ⟨hstrict, hvariable, rfl⟩
  · exact .duplicateEntityName (hscope d hd) he hname hne
  · exact .entityName hstrict he hvariable

/-- A clause that is not met in the scope of those before it has a defect. -/
theorem defect_of_meetAll {scope : Scope}
    (hscope : ∀ d ∈ scope, d ∈ before.flatMap entities)
    (h : Demand.meetAll strict ctx scope c.demands = .error err) :
    c.Defect strict ctx before err := by
  obtain ⟨front, d, back, s, hdemands, hfront, hd⟩ := Demand.exists_of_meetAll h
  have hmem : d ∈ c.demands := by simp [hdemands]
  have hs : ∀ x ∈ s, x ∈ before.flatMap entities ++ c.entities := by
    intro x hx
    rcases Demand.mem_of_meetAll hfront hx with hx | hx
    · exact List.mem_append_left _ (hscope x hx)
    · exact List.mem_append_right _ (mem_entities_of_demand (by simp [hdemands, hx]))
  cases d with
  | leaf l => exact defect_of_leaf (mem_leaves_of_demand hmem) (eq_error_of_map hd)
  | entity e => exact defect_of_entity (mem_entities_of_demand hmem) hs hd
  | refusal e =>
    cases hd
    exact defect_of_refusal hmem

end Clause

namespace Template

variable {t : Template} {ctx : Context} {config : Config} {err : Error}

theorem compile_eq_error_iff :
    t.compile ctx config = .error err ↔
      Demand.meetAll config.strictNames ctx []
        (t.clauses.flatMap fun c => (c.resolve ctx).demands) = .error err := by
  rw [compile_eq, demands, resolve, List.flatMap_map]
  cases Demand.meetAll config.strictNames ctx []
    (t.clauses.flatMap fun c => (c.resolve ctx).demands) <;> simp [Except.map]

/-- What clauses leave in scope are entities of theirs. -/
theorem mem_entities_of_meetAll {strict : Bool} {cs : List Clause} {s : Scope}
    (h : Demand.meetAll strict ctx [] (cs.flatMap fun c => (c.resolve ctx).demands) = .ok s)
    {e : Entity} (he : e ∈ s) : e ∈ (cs.map (Clause.resolve ctx)).flatMap Clause.entities := by
  rcases Demand.mem_of_meetAll h he with he | he
  · cases he
  · rw [List.flatMap_map]
    obtain ⟨c, hc, hentity⟩ := List.mem_flatMap.1 he
    exact List.mem_flatMap.2 ⟨c, hc, Clause.mem_entities_of_demand hentity⟩

/-- When a template does not compile, there is a first clause up to which it does not. The error is
the same whatever clauses follow, and it names a defect that this clause has by itself or with those
before it. -/
theorem exists_defect_of_compile (h : t.compile ctx config = .error err) :
    ∃ before c after, t.clauses = before ++ c :: after ∧
      (∀ front, front <+: before → ∃ q, compile ⟨front⟩ ctx config = .ok q) ∧
      (∀ more, compile ⟨before ++ c :: more⟩ ctx config = .error err) ∧
      (c.resolve ctx).Defect config.strictNames ctx (before.map (Clause.resolve ctx)) err := by
  obtain ⟨before, c, after, s, hclauses, hbefore, hc⟩ :=
    Demand.exists_of_meetAll_flatMap (compile_eq_error_iff.1 h)
  refine ⟨before, c, after, hclauses, fun front hfront => ?_, fun more => ?_, ?_⟩
  · obtain ⟨rest, rfl⟩ := hfront
    cases hcompile : compile ⟨front⟩ ctx config with
    | ok q => exact ⟨q, rfl⟩
    | error e =>
      have hwhole := compile_eq_error_iff.1 (compile_append_of_error hcompile ⟨rest⟩)
      have hboth : Except.error e = Except.ok s := hwhole.symm.trans hbefore
      cases hboth
  · rw [compile_eq_error_iff, List.flatMap_append, Demand.meetAll_append, hbefore,
      List.flatMap_cons]
    change Demand.meetAll config.strictNames ctx s _ = _
    rw [Demand.meetAll_append, hc]
    rfl
  · exact Clause.defect_of_meetAll (fun d hd => mem_entities_of_meetAll hbefore hd) hc

/-- A variable that gets a second label behind an option group, and an empty clause behind it. -/
def relabelled : Template := ⟨[
  .matching [.node ((Entity.node "u").withLabel "User")],
  .option (.last "path" (.matching
    [((Entity.relationship "f").startingAt (Entity.node "v")).endingAt
      ((Entity.node "u").withLabels ["User", "Admin"])])),
  .returning []]⟩

theorem defect_of_relabelled :
    relabelled.compile .empty {} = .error (.duplicateEntityName "u") ∧
    ∃ before c after, relabelled.clauses = before ++ c :: after ∧
      (∀ more, compile ⟨before ++ c :: more⟩ .empty {} = .error (.duplicateEntityName "u")) ∧
      (c.resolve .empty).Defect true .empty (before.map (Clause.resolve .empty))
        (.duplicateEntityName "u") := by
  have herror : relabelled.compile .empty {} = .error (.duplicateEntityName "u") := by rfl
  obtain ⟨before, c, after, hclauses, _, hsame, hdefect⟩ := exists_defect_of_compile herror
  exact ⟨herror, before, c, after, hclauses, hsame, hdefect⟩

end Template

end CypherTemplate
