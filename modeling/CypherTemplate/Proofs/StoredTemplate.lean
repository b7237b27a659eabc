import CypherTemplate.Codec.Query
import CypherTemplate.Codec.Template
import CypherTemplate.Proofs.Stored
import CypherTemplate.Proofs.Written

/-!
What stays of patterns, expressions, clauses, templates and queries that are written and read again:
everything but the literals, of which the stored values stay.
-/
namespace CypherTemplate

open Decoder

/-! Entities and patterns have no literals. -/

theorem EntityKind.inverts_decoder [DoubleReader] (limit : Nat) :
    EntityKind.decoder.Inverts limit toJson id := by
  have hforms : Variant.Forms limit toJson id
      [.bare "Node" .node, .bare "Relationship" .relationship] _ :=
    .cons (.bare rfl rfl) (.cons (.bare rfl rfl) .nil)
  exact (hforms.decoder (by decide) fun k => by cases k <;> simp).mono (Nat.le_succ limit)

theorem Entity.inverts_decoder [DoubleReader] (limit : Nat) :
    Entity.decoder.Inverts limit toJson id := by
  have hlabels : (Decoder.list Decoder.string).Inverts limit _ _ :=
    (inverts_list inverts_string).mono (Nat.le_succ limit)
  have hfields : fields.Inverts limit _ _ :=
    .cons ⟨inverts_string, nofun⟩ (.cons ⟨hlabels, nofun⟩
      (.last ⟨EntityKind.inverts_decoder limit, nofun⟩) (by simp)) (by simp)
  have hrecord := (hfields.decoder "struct Entity").mono (Nat.le_succ limit)
  have hkept : ∀ e : Entity, Prod.map id (Prod.map (List.map id) id) (e.name, e.labels, e.kind) =
      (e.name, e.labels, e.kind) := by simp
  exact hrecord.as (fun _ => rfl) (fun _ => rfl) hkept

namespace Pattern

theorem inverts_endField [DoubleReader] (limit : Nat) (name : String) :
    (endField name).Inverts limit endToJson id where
  value := by
    have hend : endToJson = fun e : Option Entity => e.elim .null Entity.toJson := by
      funext e
      cases e <;> rfl
    rw [hend, ← Option.map_id]
    exact inverts_optional (Entity.inverts_decoder limit)
  absent := by
    intro e he
    cases he
    exact ⟨rfl, rfl⟩

theorem inverts_decoder [DoubleReader] (limit : Nat) : decoder.Inverts limit toJson id := by
  have hfields : pathFields.Inverts limit _ _ :=
    .cons ⟨Entity.inverts_decoder limit, nofun⟩ (.cons (inverts_endField limit "from")
      (.last (inverts_endField limit "to")) (by simp [endField])) (by simp [endField])
  have hpath := (hfields.decoder "struct variant Pattern::Path").mono (Nat.le_succ limit)
  refine Inverts.mono (Variant.Forms.decoder (
    .cons (.holding (Entity.inverts_decoder limit) (fun _ => rfl) fun _ => rfl) <|
    .cons (.holding hpath (fun _ => rfl) fun _ => rfl) .nil) ?_ fun p => ?_) (Nat.le_succ limit)
  · simp [Variant.name]
  · cases p <;> simp

end Pattern

namespace OptionGroup

variable {α : Type}

theorem toJson_eq (write : α → Json) (g : OptionGroup α) :
    g.toJson write =
      .record [("variants", .list (g.toList.map fun v => .list [.string v.1, write v.2]))] := by
  rw [toJson, jsonOf, List.map_map]
  rfl

theorem ofVariants_toList (g : OptionGroup α) : ofVariants g.toList = .ok g := by
  rw [ofVariants, ofList?_toList]

theorem toList_of_ofVariants {vs : List (String × α)} {g : OptionGroup α}
    (h : ofVariants vs = .ok g) : g.toList = vs := by
  unfold ofVariants at h
  split at h
  · rename_i hg
    cases h
    exact toList_of_ofList? hg
  · cases h

theorem map_eq_self_iff {f : α → α} {g : OptionGroup α} :
    g.map f = g ↔ ∀ v ∈ g.toList, f v.2 = v.2 := by
  refine ⟨fun h => ?_, map_id_of_forall⟩
  have hlist := congrArg toList h
  rw [toList_map, CypherTemplate.map_eq_self_iff] at hlist
  exact fun v hv => congrArg Prod.snd (hlist v hv)

/-- Groups are read from their variants, of which there must be one. -/
theorem inverts_decoder [DoubleReader] {limit : Nat} {value : Decoder α} {write : α → Json}
    {kept : α → α} (h : value.Inverts limit write kept) :
    (decoder value).Inverts limit (toJson write) (map kept) := by
  have hvariants := inverts_list (inverts_pair "a tuple of size 2" "a tuple of size 2"
    (inverts_string.mono (Nat.le_refl limit)) h)
  have hfields : (fields value).Inverts _ _ _ := .last ⟨hvariants, nofun⟩
  have hgroup := (hfields.decoder "struct RawOptionGroup").check ofVariants_toList
    (fun _ _ => toList_of_ofVariants) fun g => (toList_map kept g).symm
  have hwrite : toJson write = fun g =>
      .record [("variants", .list (g.toList.map fun v => .list [.string v.1, write v.2]))] := by
    funext g
    exact toJson_eq write g
  rw [hwrite]
  exact hgroup.mono (by omega)

end OptionGroup

namespace Expr

mutual
/-- The expression that is read of what an expression is written as. -/
def stored : Expr → Expr
  | .literal v => .literal v.stored
  | .alias inner name => .alias inner.stored name
  | .equal left right => .equal left.stored right.stored
  | .like left pattern => .like left.stored pattern
  | .conj operands => .conj (allStored operands)
  | .option g => .option (groupStored g)
  | e => e

def allStored : List Expr → List Expr
  | [] => []
  | e :: es => e.stored :: allStored es

def groupStored : OptionGroup Expr → OptionGroup Expr
  | .last key e => .last key e.stored
  | .cons key e rest => .cons key e.stored (groupStored rest)
end

theorem allStored_eq (es : List Expr) : allStored es = es.map stored := by
  induction es with
  | nil => rfl
  | cons e es ih => rw [allStored, ih, List.map_cons]

theorem groupStored_eq (g : OptionGroup Expr) : groupStored g = g.map stored := by
  induction g with
  | last key e => rfl
  | cons key e rest ih => rw [groupStored, ih, OptionGroup.map]

theorem allToJson_eq (es : List Expr) : allToJson es = es.map toJson := by
  induction es with
  | nil => rfl
  | cons e es ih => rw [allToJson, ih, List.map_cons]

theorem variantsToJson_eq (g : OptionGroup Expr) :
    variantsToJson g = g.toList.map fun v => (v.1, v.2.toJson) := by
  induction g with
  | last key e => rfl
  | cons key e rest ih => rw [variantsToJson, ih, OptionGroup.toList, List.map_cons]

/-- Whether every literal among some leaves has a property. -/
def AllLiterals (p : Value → Prop) (ls : List Expr) : Prop := ∀ v, .literal v ∈ ls → p v

theorem allLiterals_append {p : Value → Prop} {ls ms : List Expr} :
    AllLiterals p (ls ++ ms) ↔ AllLiterals p ls ∧ AllLiterals p ms := by
  simp only [AllLiterals, List.mem_append, or_imp, forall_and]

theorem allLiterals_flatMap {α : Type} {p : Value → Prop} {leaves : α → List Expr} {xs : List α} :
    AllLiterals p (xs.flatMap leaves) ↔ ∀ x ∈ xs, AllLiterals p (leaves x) := by
  constructor
  · intro h x hx v hv
    exact h v (List.mem_flatMap.2 ⟨x, hx, hv⟩)
  · intro h v hv
    obtain ⟨x, hx, hv⟩ := List.mem_flatMap.1 hv
    exact h x hx v hv

/-- An expression stays as it is when its literals do. -/
theorem stored_eq_self_iff (e : Expr) :
    e.stored = e ↔ AllLiterals (fun v => v.stored = v) e.leaves := by
  induction e with
  | property entity key => simp [stored, leaves, AllLiterals]
  | literal v => simp [stored, leaves, AllLiterals]
  | param name => simp [stored, leaves, AllLiterals]
  | aliased inner name ih => simp [stored, leaves, ih]
  | equal left right ihl ihr =>
    rw [stored, leaves, allLiterals_append, equal.injEq, ihl, ihr]
  | like left pattern ih => simp [stored, leaves, ih]
  | conj es ih =>
    rw [stored, allStored_eq, conj.injEq, map_eq_self_iff, leaves_conj, allLiterals_flatMap]
    exact forall₂_congr ih
  | option g ih =>
    rw [stored, groupStored_eq, option.injEq, OptionGroup.map_eq_self_iff, leaves_option,
      allLiterals_flatMap]
    exact forall₂_congr ih

theorem toJson_conj (es : List Expr) :
    (conj es).toJson = .record [("And", .list (es.map toJson))] := by
  rw [toJson, allToJson_eq]

theorem toJson_option (g : OptionGroup Expr) :
    (option g).toJson = .record [("Opt", g.toJson toJson)] := by
  rw [toJson, variantsToJson_eq]
  rfl

/-- Expressions that were read stay as they are. -/
theorem inverts_decoder [DoubleReader] {level : Nat} (hlevel : level ≤ Value.maxLevel) :
    (decoder level).Inverts level toJson stored := by
  induction level with
  | zero => exact ⟨nofun, nofun⟩
  | succ level ih =>
    have hexpr := ih (Nat.le_of_succ_le hlevel)
    have hstep : level ≤ level + 1 := Nat.le_succ level
    have hvalue := (Value.inverts_decoder Value.maxLevel).mono (Nat.le_of_succ_le hlevel)
    have hstring : Decoder.string.Inverts level _ _ := inverts_string
    have hproperty : propertyFields.Inverts level _ _ :=
      .cons ⟨hstring, nofun⟩ (.last ⟨hstring, nofun⟩) (by simp)
    have halias : (aliasFields (decoder level)).Inverts level _ _ :=
      .cons ⟨hexpr, nofun⟩ (.last ⟨hstring, nofun⟩) (by simp)
    refine Variant.Forms.decoder (
      .cons (.holding ((hproperty.decoder _).mono hstep) (fun _ => rfl) fun _ => rfl) <|
      .cons (.holding hvalue (fun _ => rfl) fun _ => rfl) <|
      .cons (.holding hstring (fun _ => rfl) fun _ => rfl) <|
      .cons (.holding ((halias.decoder _).mono hstep) (fun _ => rfl) fun _ => rfl) <|
      .cons (.holding ((inverts_pair _ _ hexpr hexpr).mono hstep) (fun _ => rfl) fun _ => rfl) <|
      .cons (.holding ((inverts_pair _ _ hexpr hstring).mono hstep) (fun _ => rfl) fun _ => rfl) <|
      .cons (.holding ((inverts_list hexpr).mono hstep) toJson_conj fun es => ?_) <|
      .cons (.holding (OptionGroup.inverts_decoder hexpr) toJson_option fun g => ?_) .nil)
      ?_ fun e => ?_
    · rw [stored, allStored_eq]
    · rw [stored, groupStored_eq]
    · simp [variants, Variant.name]
    · cases e <;> simp

end Expr

/-! Sort orders, clauses and templates. -/

theorem Direction.inverts_decoder [DoubleReader] (limit : Nat) :
    Direction.decoder.Inverts limit toJson id := by
  have hforms : Variant.Forms limit toJson id
      [.bare "Ascending" .ascending, .bare "Descending" .descending] _ :=
    .cons (.bare rfl rfl) (.cons (.bare rfl rfl) .nil)
  exact (hforms.decoder (by decide) fun d => by cases d <;> simp).mono (Nat.le_succ limit)

theorem OrderToken.inverts_decoder [DoubleReader] :
    OrderToken.decoder.Inverts Value.maxLevel toJson (map Expr.stored) := by
  have hexpr := Expr.inverts_decoder (Nat.le_refl Value.maxLevel)
  refine Inverts.mono (Variant.Forms.decoder (
    .cons (.holding hexpr (fun _ => rfl) fun _ => rfl) <|
    .cons (.holding (Direction.inverts_decoder _) (fun _ => rfl) fun _ => rfl) .nil) ?_ fun t => ?_)
    (Nat.le_succ _)
  · simp [Variant.name]
  · cases t <;> simp

namespace OrderBy

/-- An order stays as it is when its fields do. -/
theorem map_eq_self_iff {f : Expr → Expr} (o : OrderBy) :
    o.map f = o ↔ ∀ e ∈ o.sortFields, f e = e := by
  have hfield : ∀ t : OrderToken, t.map f = t ↔ ∀ e ∈ t.field?, f e = e := by
    intro t
    cases t <;> simp [OrderToken.map, OrderToken.field?]
  cases o with
  | mk tokens =>
    simp only [map, sortFields, mk.injEq, CypherTemplate.map_eq_self_iff, List.mem_filterMap,
      forall_exists_index, and_imp, hfield, Option.mem_def]
    exact ⟨fun h e t ht he => h t ht e he, fun h t ht e he => h e t ht he⟩

theorem inverts_decoder [DoubleReader] : decoder.Inverts Value.maxLevel toJson (map Expr.stored) := by
  have hfields : fields.Inverts _ _ _ := .last ⟨inverts_list OrderToken.inverts_decoder, nofun⟩
  have hrecord := (hfields.decoder "struct OrderBy").mono (Nat.le_add_right Value.maxLevel 2)
  exact hrecord.as (fun _ => rfl) (fun _ => rfl) fun _ => rfl

end OrderBy

namespace Clause

mutual
/-- The clause that is read of what a clause is written as. -/
def stored : Clause → Clause
  | .matching ps => .matching ps
  | .filter e => .filter e.stored
  | .returning es => .returning (es.map Expr.stored)
  | .orderBy o => .orderBy (o.map Expr.stored)
  | .limit n => .limit n
  | .option g => .option (groupStored g)

def groupStored : OptionGroup Clause → OptionGroup Clause
  | .last key c => .last key c.stored
  | .cons key c rest => .cons key c.stored (groupStored rest)
end

theorem groupStored_eq (g : OptionGroup Clause) : groupStored g = g.map stored := by
  induction g with
  | last key c => rfl
  | cons key c rest ih => rw [groupStored, ih, OptionGroup.map]

theorem variantsToJson_eq (g : OptionGroup Clause) :
    variantsToJson g = g.toList.map fun v => (v.1, v.2.toJson) := by
  induction g with
  | last key c => rfl
  | cons key c rest ih => rw [variantsToJson, ih, OptionGroup.toList, List.map_cons]

theorem toJson_option (g : OptionGroup Clause) :
    (option g).toJson = .record [("Opt", g.toJson toJson)] := by
  rw [toJson, variantsToJson_eq]
  rfl

/-- A clause stays as it is when its literals do. -/
theorem stored_eq_self_iff (c : Clause) :
    c.stored = c ↔ Expr.AllLiterals (fun v => v.stored = v) c.leaves := by
  induction c with
  | matching ps => simp [stored, leaves, Expr.AllLiterals]
  | filter e => rw [stored, leaves, filter.injEq, e.stored_eq_self_iff]
  | returning es =>
    rw [stored, leaves, returning.injEq, map_eq_self_iff, Expr.allLiterals_flatMap]
    exact forall₂_congr fun e _ => e.stored_eq_self_iff
  | orderBy o =>
    rw [stored, leaves, orderBy.injEq, OrderBy.map_eq_self_iff, Expr.allLiterals_flatMap]
    exact forall₂_congr fun e _ => e.stored_eq_self_iff
  | limit n => simp [stored, leaves, Expr.AllLiterals]
  | option g ih =>
    rw [stored, groupStored_eq, option.injEq, OptionGroup.map_eq_self_iff, leaves_option,
      Expr.allLiterals_flatMap]
    exact forall₂_congr ih

/-- Clauses that were read stay as they are. -/
theorem inverts_decoder [DoubleReader] {level : Nat} (hlevel : level ≤ Value.maxLevel) :
    (decoder level).Inverts level toJson stored := by
  induction level with
  | zero => exact ⟨nofun, nofun⟩
  | succ level ih =>
    have hbelow : level ≤ Value.maxLevel := Nat.le_of_succ_le hlevel
    have hexpr := (Expr.inverts_decoder (Nat.le_refl Value.maxLevel)).mono hbelow
    have horder := OrderBy.inverts_decoder.mono hbelow
    have hstep : level ≤ level + 1 := Nat.le_succ level
    refine Variant.Forms.decoder (
      .cons (.holding ((inverts_list (Pattern.inverts_decoder level)).mono hstep) (fun _ => rfl)
        fun ps => ?_) <|
      .cons (.holding hexpr (fun _ => rfl) fun _ => rfl) <|
      .cons (.holding ((inverts_list hexpr).mono hstep) (fun _ => rfl) fun _ => rfl) <|
      .cons (.holding horder (fun _ => rfl) fun _ => rfl) <|
      .cons (.holding inverts_count (fun _ => rfl) fun _ => rfl) <|
      .cons (.holding (OptionGroup.inverts_decoder (ih hbelow)) toJson_option fun g => ?_) .nil)
      ?_ fun c => ?_
    · rw [stored, List.map_id]
    · rw [stored, groupStored_eq]
    · simp [variants, Variant.name]
    · cases c <;> simp

end Clause

namespace Template

/-- The template that is read of what a template is written as. -/
def stored (t : Template) : Template := ⟨t.clauses.map Clause.stored⟩

/-- Whether all maps in the literals of a template are in order. -/
def Ordered (t : Template) : Prop := Expr.AllLiterals Value.Ordered t.leaves

/-- Whether all doubles in the literals of a template are finite. -/
def Finite (t : Template) : Prop := Expr.AllLiterals Value.Finite t.leaves

theorem stored_eq_self_iff (t : Template) : t.stored = t ↔ t.Ordered ∧ t.Finite := by
  have hliterals : t.Ordered ∧ t.Finite ↔ Expr.AllLiterals (fun v => v.stored = v) t.leaves := by
    simp only [Ordered, Finite, Expr.AllLiterals, Value.stored_eq_self_iff, forall_and]
  cases t with
  | mk clauses =>
    rw [hliterals, stored, leaves, Expr.allLiterals_flatMap, mk.injEq, map_eq_self_iff]
    exact forall₂_congr fun c _ => c.stored_eq_self_iff

/-- Templates that were read stay as they are. -/
theorem inverts_decoder [DoubleReader] : decoder.Inverts (Value.maxLevel + 2) toJson stored := by
  have hclause := Clause.inverts_decoder (Nat.le_refl Value.maxLevel)
  have hfields : fields.Inverts _ _ _ := .last ⟨inverts_list hclause, nofun⟩
  exact (hfields.decoder "struct Cypher").as (fun _ => rfl) (fun _ => rfl) fun _ => rfl

end Template

/-! Compiled queries. -/

theorem ParamStyle.inverts_decoder [DoubleReader] (limit : Nat) :
    ParamStyle.decoder.Inverts limit toJson id := by
  have hforms : Variant.Forms limit toJson id [.bare "Braces" .braces, .bare "Dollar" .dollar] _ :=
    .cons (.bare rfl rfl) (.cons (.bare rfl rfl) .nil)
  exact (hforms.decoder (by decide) fun s => by cases s <;> simp).mono (Nat.le_succ limit)

namespace Query

/-- The query that is read of what a query is written as. -/
def stored (q : Query) : Query := ⟨q.text, q.parameters.stored, q.paramStyle⟩

/-- Queries that were read stay as they are. -/
theorem inverts_decoder [DoubleReader] : decoder.Inverts (Value.maxLevel + 2) toJson stored := by
  have hfields : fields.Inverts _ _ _ :=
    .cons ⟨inverts_string, nofun⟩ (.cons ⟨KeyMap.inverts_decoder, nofun⟩
      (.last ⟨ParamStyle.inverts_decoder _, nofun⟩) (by simp)) (by simp)
  have hkept : ∀ q : Query, Prod.map id (Prod.map KeyMap.stored id)
      (q.text, q.parameters, q.paramStyle) =
        (q.stored.text, q.stored.parameters, q.stored.paramStyle) :=
    fun _ => rfl
  exact (hfields.decoder "struct CompiledQuery").as (fun _ => rfl) (fun _ => rfl) hkept

end Query

end CypherTemplate
