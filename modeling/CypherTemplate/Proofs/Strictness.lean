import CypherTemplate.Proofs.Influence

/-!
What the choices of a configuration change. Lenient names lift the checks of names and nothing else: a
template that compiles under strict names compiles to the same query without them, and every error but
a refused name stays. How placeholders are written, and whether returned properties get aliases, shows
in the text alone.
-/
namespace CypherTemplate

/-- Whether a result under lenient names is the one under strict names, unless a name was refused
there. -/
def Relaxes {α : Type} (lenient strict : Except Error α) : Prop :=
  (∃ name, strict = .error (.invalidIdentifier name)) ∨ lenient = strict

section

variable {α β : Type} {lenient strict : Except Error α}

theorem Relaxes.bind {f g : α → Except Error β} (h : Relaxes lenient strict)
    (hnext : ∀ a, Relaxes (f a) (g a)) : Relaxes (lenient.bind f) (strict.bind g) := by
  rcases h with ⟨name, rfl⟩ | rfl
  · exact .inl ⟨name, rfl⟩
  · cases lenient with
    | error e => exact .inr rfl
    | ok a => exact hnext a

theorem Relaxes.map (f : α → β) (h : Relaxes lenient strict) :
    Relaxes (lenient.map f) (strict.map f) := by
  rcases h with ⟨name, rfl⟩ | rfl
  · exact .inl ⟨name, rfl⟩
  · exact .inr rfl

end

theorem relaxes_checkVariable (name : String) :
    Relaxes (checkVariable false name) (checkVariable true name) := by
  unfold checkVariable
  cases Identifier.isVariable name.toList with
  | false => exact .inl ⟨name, rfl⟩
  | true => exact .inr rfl

theorem relaxes_paramPiece (ctx : Context) (name : String) :
    Relaxes (paramPiece false ctx name) (paramPiece true ctx name) := by
  unfold paramPiece
  cases Identifier.isPlain name.toList with
  | false => exact .inl ⟨name, rfl⟩
  | true => exact .inr rfl

theorem Entity.relaxes_declare (scope : Scope) (e : Entity) :
    Relaxes (e.declare false scope) (e.declare true scope) := by
  unfold declare
  split
  · exact .inr rfl
  · exact (relaxes_checkVariable e.name).bind fun _ => .inr rfl

namespace Demand

variable (ctx : Context)

theorem relaxes_check_leaf {l : Expr} (h : l.isLeaf) :
    Relaxes ((leaf l).check false ctx) ((leaf l).check true ctx) := by
  cases l with
  | property entity key =>
    rw [check, check, Expr.pieces, Expr.pieces]
    exact ((relaxes_checkVariable entity).bind fun _ => .inr rfl).map _
  | literal v => exact .inr rfl
  | param name =>
    rw [check, check, Expr.pieces, Expr.pieces]
    exact ((relaxes_paramPiece ctx name).bind fun _ => .inr rfl).map _
  | _ => cases h

theorem relaxes_meet (scope : Scope) {d : Demand} (h : ∀ l, d = leaf l → l.isLeaf) :
    Relaxes (d.meet false ctx scope) (d.meet true ctx scope) := by
  cases d with
  | leaf l => exact (relaxes_check_leaf ctx (h l rfl)).map _
  | entity e => exact e.relaxes_declare scope
  | refusal e => exact .inr rfl

/-- Demands that are met one after another under strict names are met alike under lenient ones, as far
as no name is refused. -/
theorem relaxes_meetAll (scope : Scope) {ds : List Demand} (h : ∀ l, leaf l ∈ ds → l.isLeaf) :
    Relaxes (meetAll false ctx scope ds) (meetAll true ctx scope ds) := by
  induction ds generalizing scope with
  | nil => exact .inr rfl
  | cons d ds ih =>
    have hd : ∀ l, d = leaf l → l.isLeaf := fun l hl => h l (hl ▸ List.mem_cons_self)
    exact (relaxes_meet ctx scope hd).bind fun s =>
      ih s fun l hl => h l (List.mem_cons_of_mem d hl)

end Demand

namespace Template

variable {t : Template} {ctx : Context} {config other : Config}

theorem relaxes_compile (t : Template) (ctx : Context) (config : Config) :
    Relaxes (t.compile ctx config.withLenientNames)
      (t.compile ctx { config with strictNames := true }) := by
  rw [compile_eq, compile_eq]
  exact (Demand.relaxes_meetAll ctx [] fun _ => isLeaf_of_demand).map _

/-- The parameters of a query, or the error in its place, come from the demands alone. -/
theorem parameters_compile_congr (h : other.strictNames = config.strictNames) :
    (t.compile ctx other).map Query.parameters = (t.compile ctx config).map Query.parameters := by
  have hcompile := compile_eq t ctx other
  have hcompile' := compile_eq t ctx config
  rw [h] at hcompile
  cases hmeet : Demand.meetAll config.strictNames ctx [] (t.resolve ctx).demands with
  | error e =>
    rw [hmeet] at hcompile hcompile'
    rw [hcompile, hcompile']
    rfl
  | ok s =>
    rw [hmeet] at hcompile hcompile'
    have hq : t.compile ctx other = .ok _ := hcompile
    have hr : t.compile ctx config = .ok _ := hcompile'
    rw [hq, hr]
    exact congrArg Except.ok
      ((parameters_of_compile hq).trans (parameters_of_compile hr).symm)

/-- Lenient names lift checks and change nothing else: what compiles under strict names compiles to the
same query without them, and an error that refuses no name stays. The other choices never decide
whether a template compiles, with which error it fails or what it binds. -/
theorem compile_of_choices (t : Template) (ctx : Context) (config : Config) :
    (∀ q, t.compile ctx { config with strictNames := true } = .ok q →
      t.compile ctx config.withLenientNames = .ok q) ∧
    (∀ e, t.compile ctx { config with strictNames := true } = .error e →
      (∀ name, e ≠ .invalidIdentifier name) →
        t.compile ctx config.withLenientNames = .error e) ∧
    ∀ other : Config, other.strictNames = config.strictNames →
      (t.compile ctx other).map Query.parameters = (t.compile ctx config).map Query.parameters := by
  refine ⟨fun q hq => ?_, fun e he hname => ?_, fun other h => parameters_compile_congr h⟩
  · rcases relaxes_compile t ctx config with ⟨name, hrefused⟩ | hsame
    · rw [hrefused] at hq
      cases hq
    · exact hsame.trans hq
  · rcases relaxes_compile t ctx config with ⟨name, hrefused⟩ | hsame
    · rw [hrefused] at he
      cases he
      exact absurd rfl (hname name)
    · exact hsame.trans he

/-- A node that is looked up by a parameter. -/
def lookup : Template := ⟨[
  .matching [.node (Entity.node "n")],
  .filter (.equal (.property "n" "id") (.param "id")),
  .returning [.property "n" "name"]]⟩

/-- The parameter is asked for before the name that strict compilation would refuse. -/
theorem compile_lookup :
    lookup.compile (.ofList [("id", .int 7)]) ({ } : Config).withLenientNames =
      .ok ⟨"MATCH (n) WHERE n.id = \x7bid\x7d RETURN n.name AS name",
        .ofList [("id", .int 7)], .braces⟩ ∧
    (lookup.add (.returning [.property "match" "id"])).compile .empty
      ({ } : Config).withLenientNames = .error (.unboundParam "id") ∧
    (lookup.compile (.ofList [("id", .int 7)]) ⟨.dollar, false, true⟩).map Query.parameters =
      .ok (.ofList [("id", .int 7)]) := by
  have hbound : lookup.compile (.ofList [("id", .int 7)]) {} =
      .ok ⟨"MATCH (n) WHERE n.id = \x7bid\x7d RETURN n.name AS name",
        .ofList [("id", .int 7)], .braces⟩ := by rfl
  have hunbound : (lookup.add (.returning [.property "match" "id"])).compile .empty {} =
      .error (.unboundParam "id") := by rfl
  obtain ⟨hlenient, _, hparams⟩ := compile_of_choices lookup (.ofList [("id", .int 7)]) {}
  obtain ⟨_, herror, _⟩ :=
    compile_of_choices (lookup.add (.returning [.property "match" "id"])) .empty {}
  refine ⟨hlenient _ hbound, herror _ hunbound nofun, ?_⟩
  rw [hparams ⟨.dollar, false, true⟩ rfl, hbound]
  rfl

end Template

end CypherTemplate
