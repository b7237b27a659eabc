import Mathlib.Data.List.Induction
import CypherTemplate.Proofs.Defect

/-!
Labels of entities. However they are given, call by call, an entity has each label once, at its first
place. So the name, the kind and the labels at their first places are all that is left of the calls, and
entities that agree in these are one for the scope, which takes a name for one entity only.
-/
namespace CypherTemplate

section FirstPlaces

variable {α : Type} [DecidableEq α]

theorem eraseDups_concat (as : List α) (a : α) :
    (as ++ [a]).eraseDups = if a ∈ as then as.eraseDups else as.eraseDups ++ [a] := by
  rw [List.eraseDups_append]
  by_cases h : a ∈ as <;> simp [List.removeAll, List.eraseDups_cons, h]

/-- What is kept stands in the order of first places. -/
theorem pairwise_eraseDups (as : List α) :
    as.eraseDups.Pairwise fun a b => as.idxOf a < as.idxOf b := by
  induction as using List.reverseRecOn with
  | nil => exact .nil
  | append_singleton as a ih =>
    -- One more at the end moves none of the first places so far.
    have hkept : as.eraseDups.Pairwise fun b c => (as ++ [a]).idxOf b < (as ++ [a]).idxOf c := by
      refine ih.imp_of_mem fun hb hc hlt => ?_
      rw [List.idxOf_append_of_mem (List.mem_eraseDups.1 hb),
        List.idxOf_append_of_mem (List.mem_eraseDups.1 hc)]
      exact hlt
    rw [eraseDups_concat]
    split
    · exact hkept
    · rename_i ha
      refine List.pairwise_append.2 ⟨hkept, List.pairwise_singleton _ a, fun b hb c hc => ?_⟩
      obtain rfl := List.mem_singleton.1 hc
      have hb := List.mem_eraseDups.1 hb
      rw [List.idxOf_append_of_mem hb, List.idxOf_append_of_notMem ha]
      exact Nat.lt_add_right _ (List.idxOf_lt_length_iff.2 hb)

theorem nodup_eraseDups (as : List α) : as.eraseDups.Nodup := by
  refine (pairwise_eraseDups as).imp ?_
  rintro a _ hlt rfl
  exact Nat.lt_irrefl _ hlt

end FirstPlaces

namespace Entity

/-- A call that gives labels to an entity. -/
inductive LabelCall where
  | one (label : String)
  | many (labels : List String)

namespace LabelCall

def labels : LabelCall → List String
  | .one label => [label]
  | .many labels => labels

def run (e : Entity) : LabelCall → Entity
  | .one label => e.withLabel label
  | .many labels => e.withLabels labels

/-- The labels of some calls, one after another. -/
def given (calls : List LabelCall) : List String := calls.flatMap labels

end LabelCall

/-- The entity that a constructor makes. -/
def fresh : EntityKind → String → Entity
  | .node => node
  | .relationship => relationship

/-- An entity after its constructor and some calls. -/
def built (kind : EntityKind) (name : String) (calls : List LabelCall) : Entity :=
  calls.foldl LabelCall.run (fresh kind name)

open LabelCall

theorem withLabels_append (e : Entity) (ls ms : List String) :
    e.withLabels (ls ++ ms) = (e.withLabels ls).withLabels ms :=
  List.foldl_append

theorem withLabels_concat (e : Entity) (ls : List String) (l : String) :
    e.withLabels (ls ++ [l]) = (e.withLabels ls).withLabel l :=
  withLabels_append e ls [l]

theorem run_eq (e : Entity) (call : LabelCall) : call.run e = e.withLabels call.labels := by
  cases call <;> rfl

/-- How labels are cut into calls does not matter. -/
theorem foldl_run (e : Entity) (calls : List LabelCall) :
    calls.foldl run e = e.withLabels (given calls) := by
  induction calls generalizing e with
  | nil => rfl
  | cons call calls ih =>
    rw [List.foldl_cons, ih, run_eq, ← withLabels_append]
    rfl

theorem mem_labels_withLabel {e : Entity} {l m : String} :
    m ∈ (e.withLabel l).labels ↔ m ∈ e.labels ∨ m = l := by
  unfold withLabel
  split
  · rename_i h
    constructor
    · exact .inl
    · rintro (hm | rfl)
      · exact hm
      · exact h
  · simp

theorem mem_labels_withLabels {e : Entity} {ls : List String} {m : String} :
    m ∈ (e.withLabels ls).labels ↔ m ∈ e.labels ∨ m ∈ ls := by
  induction ls using List.reverseRecOn with
  | nil => simp [withLabels]
  | append_singleton ls l ih =>
    rw [withLabels_concat, mem_labels_withLabel, ih]
    simp [or_assoc]

/-- Labels change nothing just when all of them are there already. -/
theorem withLabels_eq_self_iff {e : Entity} {ls : List String} :
    e.withLabels ls = e ↔ ls ⊆ e.labels := by
  constructor
  · intro h l hl
    have hmem : l ∈ (e.withLabels ls).labels := mem_labels_withLabels.2 (.inr hl)
    rwa [h] at hmem
  · intro h
    induction ls with
    | nil => rfl
    | cons l ls ih =>
      have hl : e.withLabel l = e := if_pos (h List.mem_cons_self)
      change (e.withLabel l).withLabels ls = e
      rw [hl]
      exact ih fun m hm => h (List.mem_cons_of_mem l hm)

/-- The labels of an entity that had none stand at their first places. -/
theorem withLabels_fresh (kind : EntityKind) (name : String) (ls : List String) :
    (fresh kind name).withLabels ls = ⟨name, ls.eraseDups, kind⟩ := by
  induction ls using List.reverseRecOn with
  | nil => cases kind <;> rfl
  | append_singleton ls l ih =>
    rw [withLabels_concat, ih, withLabel, eraseDups_concat]
    simp only [List.mem_eraseDups]
    split <;> rfl

theorem built_eq (kind : EntityKind) (name : String) (calls : List LabelCall) :
    built kind name calls = ⟨name, (given calls).eraseDups, kind⟩ := by
  rw [built, foldl_run, withLabels_fresh]

theorem built_eq_iff {kind kind' : EntityKind} {name name' : String} {calls calls' : List LabelCall} :
    built kind name calls = built kind' name' calls' ↔
      name = name' ∧ kind = kind' ∧ (given calls).eraseDups = (given calls').eraseDups := by
  rw [built_eq, built_eq, Entity.mk.injEq]
  tauto

/-- A name in scope stays with its entity. -/
theorem declare_of_find? (strict : Bool) {scope : Scope} {d e : Entity}
    (h : find? scope e.name = some d) :
    e.declare strict scope = if d = e then .ok scope else .error (.duplicateEntityName e.name) := by
  rw [declare, h]

end Entity

namespace Template

variable {t : Template} {ctx : Context} {config : Config}

/-- A name that is reported as a duplicate stands for two entities of the resolved template. -/
theorem exists_of_duplicate {name : String}
    (h : t.compile ctx config = .error (.duplicateEntityName name)) :
    ∃ d ∈ (t.resolve ctx).entities, ∃ e ∈ (t.resolve ctx).entities,
      d.name = name ∧ e.name = name ∧ d ≠ e := by
  obtain ⟨before, c, after, s, hclauses, hbefore, hc⟩ :=
    Demand.exists_of_meetAll_flatMap (compile_eq_error_iff.1 h)
  have hdefect := Clause.defect_of_meetAll (fun d hd => mem_entities_of_meetAll hbefore hd) hc
  have hentities : (t.resolve ctx).entities =
      (before.map (Clause.resolve ctx)).flatMap Clause.entities ++ (c.resolve ctx).entities ++
        (after.map (Clause.resolve ctx)).flatMap Clause.entities := by
    simp [entities, resolve, hclauses]
  cases hdefect with
  | @duplicateEntityName d e hd he hname hne =>
    refine ⟨d, ?_, e, ?_, hname, rfl, hne⟩
    · rw [hentities]
      exact List.mem_append_left _ hd
    · rw [hentities]
      exact List.mem_append_left _ (List.mem_append_right _ he)
  | pattern _ _ hp => cases hp

end Template

namespace Entity

open LabelCall

/-- An entity that a constructor and calls make has the labels that were given, in order and each at its
first place only. More calls leave it alone just when they give nothing new, and two such entities are
the same just when their names, kinds and labels at first places are, however the labels were cut into
calls. On this hangs whether a name in scope can be used again: no name is reported as a duplicate that
stands for one kind and one sequence of labels, and none that stands for more goes through. -/
theorem built_firstPlaces (kind : EntityKind) (name : String) (calls : List LabelCall) :
    (built kind name calls).labels.Nodup ∧
    (built kind name calls).labels.Pairwise (fun l m => (given calls).idxOf l < (given calls).idxOf m) ∧
    built kind name calls = ⟨name, (given calls).eraseDups, kind⟩ ∧
    (∀ more, built kind name (calls ++ more) = built kind name calls ↔ given more ⊆ given calls) ∧
    (∀ kind' name' calls', built kind name calls = built kind' name' calls' ↔
      name = name' ∧ kind = kind' ∧ (given calls).eraseDups = (given calls').eraseDups) ∧
    (∀ strict scope kind' calls', find? scope name = some (built kind name calls) →
      (built kind' name calls').declare strict scope =
        if kind = kind' ∧ (given calls).eraseDups = (given calls').eraseDups then .ok scope
        else .error (.duplicateEntityName name)) ∧
    ∀ (t : Template) (ctx : Context) (config : Config),
      (t.compile ctx config = .error (.duplicateEntityName name) →
        ∃ e ∈ (t.resolve ctx).entities, e.name = name ∧
          ∀ calls', given calls' = given calls → e ≠ built kind name calls') ∧
      ∀ q kind' calls', t.compile ctx config = .ok q →
        built kind name calls ∈ (t.resolve ctx).entities →
          built kind' name calls' ∈ (t.resolve ctx).entities →
            kind = kind' ∧ (given calls).eraseDups = (given calls').eraseDups := by
  have hlabels : (built kind name calls).labels = (given calls).eraseDups := by rw [built_eq]
  have hsame : ∀ {kind' : EntityKind} {calls' : List LabelCall},
      built kind name calls = built kind' name calls' ↔
        kind = kind' ∧ (given calls).eraseDups = (given calls').eraseDups :=
    built_eq_iff.trans (and_iff_right rfl)
  refine ⟨hlabels ▸ nodup_eraseDups _, hlabels ▸ pairwise_eraseDups _, built_eq kind name calls,
    fun more => ?_, fun _ _ _ => built_eq_iff, fun strict scope kind' calls' hfind => ?_,
    fun t ctx config => ⟨fun herror => ?_, fun q kind' calls' hq hmem hmem' => ?_⟩⟩
  · have hmore : built kind name (calls ++ more) = (built kind name calls).withLabels (given more) := by
      rw [built, List.foldl_append, foldl_run _ more]
      rfl
    rw [hmore, withLabels_eq_self_iff, hlabels]
    simp only [List.subset_def, List.mem_eraseDups]
  · have hname : (built kind' name calls').name = name := by rw [built_eq]
    have hdeclare := declare_of_find? strict (e := built kind' name calls') (hname.symm ▸ hfind)
    simpa only [hname, hsame] using hdeclare
  · obtain ⟨d, hd, e, he, hdname, hename, hne⟩ := Template.exists_of_duplicate herror
    by_contra hall
    have hbuilt : ∀ x ∈ (t.resolve ctx).entities, x.name = name → x = built kind name calls := by
      intro x hx hname
      by_contra hdiff
      refine hall ⟨x, hx, hname, fun calls' hgiven heq => hdiff ?_⟩
      rw [heq, built_eq, built_eq, hgiven]
    exact hne ((hbuilt d hd hdname).trans (hbuilt e he hename).symm)
  · have hagree := (Template.wellFormed_of_compile hq).entities _ hmem _ hmem'
    exact hsame.1 (hagree (by rw [built_eq, built_eq]))

/-- Labels of a member, given one by one and over again. -/
def memberCalls : List LabelCall := [.one "User", .many ["Admin", "User"]]

/-- The same labels at once. -/
def memberCallsAtOnce : List LabelCall := [.many ["User", "Admin", "User"], .many []]

def members : Template := ⟨[
  .matching [.node (built .node "m" memberCalls)],
  .matching [.node (built .node "m" memberCallsAtOnce)],
  .returning [.property "m" "name"]]⟩

theorem built_member :
    (built .node "m" memberCallsAtOnce).declare true [built .node "m" memberCalls] =
      .ok [built .node "m" memberCalls] ∧
    (∃ q, members.compile .empty {} = .ok q ∧
      (given memberCalls).eraseDups = (given memberCallsAtOnce).eraseDups) ∧
    ∃ e ∈ (Template.relabelled.resolve .empty).entities, e.name = "u" ∧
      ∀ calls', given calls' = ["User"] → e ≠ built .node "u" calls' := by
  obtain ⟨_, _, _, _, _, hdeclare, hcompile⟩ := built_firstPlaces .node "m" memberCalls
  refine ⟨?_, ?_, ?_⟩
  · rw [hdeclare true [built .node "m" memberCalls] .node memberCallsAtOnce (by decide)]
    exact if_pos (by decide)
  · have hq : ∃ q, members.compile .empty {} = .ok q := ⟨_, rfl⟩
    obtain ⟨q, hq⟩ := hq
    exact ⟨q, hq, ((hcompile members .empty {}).2 q .node memberCallsAtOnce hq (by decide)
      (by decide)).2⟩
  · obtain ⟨_, _, _, _, _, _, hduplicate⟩ := built_firstPlaces .node "u" [.one "User"]
    exact (hduplicate Template.relabelled .empty {}).1 (by rfl)

end Entity

end CypherTemplate
