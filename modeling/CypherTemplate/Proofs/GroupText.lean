import CypherTemplate.Codec.Template
import CypherTemplate.Proofs.Draft
import CypherTemplate.Proofs.Members
import CypherTemplate.Proofs.Reload

/-!
Option groups in the JSON texts of templates. A group may be written at many places, at any depth and
with records as lists; wherever one is written in a text that is read, the template has a group of the
same keys. So a text with an empty group at any place is refused.
-/
namespace CypherTemplate

namespace Outline

/-- Whether an option group of some variants is written. -/
def IsGroup (vs : List Outline) (o : Outline) : Prop :=
  ∃ g ending, Member "Opt" g o ∧ FirstField "variants" (.list vs ending) g

/-- The key of a written variant. -/
def variantKey? : Outline → Option String
  | .list (.string s :: _) _ => s.read.toOption
  | _ => none

/-- Whether some groups have one with the keys of written variants, in their order. -/
def IsAmong (vs : List Outline) (groups : List (List String)) : Prop :=
  ∃ keys ∈ groups, vs.map variantKey? = keys.map some

/-- The value of a written variant. -/
def variantValue? : Outline → Option Outline
  | .list (_ :: x :: _) _ => some x
  | _ => none

theorem IsAmong.mono {vs : List Outline} {groups more : List (List String)} (h : IsAmong vs groups)
    (hsub : groups ⊆ more) : IsAmong vs more := by
  obtain ⟨keys, hkeys, hmap⟩ := h
  exact ⟨keys, hsub hkeys, hmap⟩

theorem IsAmong.flatMap {α : Type} {vs : List Outline} {groups : α → List (List String)} {a : α}
    {as : List α} (h : IsAmong vs (groups a)) (ha : a ∈ as) : IsAmong vs (as.flatMap groups) :=
  h.mono fun _ hkeys => List.mem_flatMap.2 ⟨a, ha, hkeys⟩

theorem IsAmong.of_variant {α : Type} {vs : List Outline} {groups : α → List (List String)}
    {g : OptionGroup α} {w : String × α} (h : IsAmong vs (groups w.2)) (hw : w ∈ g.toList) :
    IsAmong vs (g.keys :: g.toList.flatMap fun v => groups v.2) :=
  h.mono fun _ hkeys => List.mem_cons_of_mem _ (List.mem_flatMap.2 ⟨w, hw, hkeys⟩)

/-- Only a group of no variants has the keys of none. -/
theorem nil_mem_of_isAmong {groups : List (List String)} (h : IsAmong [] groups) : [] ∈ groups := by
  obtain ⟨keys, hkeys, hmap⟩ := h
  obtain rfl : keys = [] := List.map_eq_nil_iff.1 hmap.symm
  exact hkeys

end Outline

open Outline

open Decoder

namespace OptionGroup

variable [DoubleReader] {α : Type} {value : Decoder α}

theorem variant_of_decoder {n : Nat} {o : Outline} {v : String × α}
    (hread : variantDecoder value n o = .ok v) :
    variantKey? o = some v.1 ∧ ∃ x m, variantValue? o = some x ∧ value m x = .ok v.2 := by
  obtain ⟨key, x, ending, m, rfl, hkey, hx⟩ := exists_of_pair hread
  refine ⟨?_, x, m, rfl, hx⟩
  cases key
  case string s =>
    have hs : s.read = .ok v.1 := hkey
    rw [variantKey?, hs, Except.toOption]
  all_goals exact absurd hkey mismatch_ne_ok

/-- The variants of a written group are those of the group that is read. -/
theorem variants_of_decoder {n : Nat} {vs : List Outline} {ending : Ending} {o : Outline}
    {g : OptionGroup α} (hvs : FirstField "variants" (.list vs ending) o)
    (hread : decoder value n o = .ok g) :
    vs.map variantKey? = g.keys.map some ∧
      ∀ v ∈ vs, ∀ x ∈ variantValue? v, ∃ w ∈ g.toList, ∃ m, value m x = .ok w.2 := by
  obtain ⟨ws, hws, hgroup⟩ := bind_eq_ok hread
  have hlist := toList_of_ofVariants hgroup
  obtain ⟨m, hm⟩ := Fields.Starts.last.exists_value hvs hws
  constructor
  · rw [keys, hlist, List.map_map]
    exact map_of_list hm fun _ _ _ hv => (variant_of_decoder hv).1
  · intro v hv x hx
    obtain ⟨w, hw, _, hvread⟩ := exists_of_mem_list hm hv
    obtain ⟨_, y, m', hy, hyread⟩ := variant_of_decoder hvread
    cases hy.symm.trans hx
    exact ⟨w, hlist ▸ hw, m', hyread⟩

end OptionGroup

namespace Expr

variable {vs : List Outline} {o : Outline} {level n : Nat}

/-- Whether an option group of some variants is written at any depth of an expression. -/
inductive GroupIn (vs : List Outline) : Outline → Prop where
  | here {o : Outline} (hgroup : IsGroup vs o) : GroupIn vs o
  | variant {ws : List Outline} {v x o : Outline} (hgroup : IsGroup ws o) (hv : v ∈ ws)
      (hvalue : variantValue? v = some x) (h : GroupIn vs x) : GroupIn vs o
  | inner {a x o : Outline} (halias : Member "Alias" a o) (hinner : FirstField "inner" x a)
      (h : GroupIn vs x) : GroupIn vs o
  | left {x o : Outline} {more : List Outline} {ending : Ending}
      (hequal : Member "Eq" (.list (x :: more) ending) o) (h : GroupIn vs x) : GroupIn vs o
  | right {x y o : Outline} {more : List Outline} {ending : Ending}
      (hequal : Member "Eq" (.list (x :: y :: more) ending) o) (h : GroupIn vs y) : GroupIn vs o
  | subject {x o : Outline} {more : List Outline} {ending : Ending}
      (hlike : Member "Like" (.list (x :: more) ending) o) (h : GroupIn vs x) : GroupIn vs o
  | operand {xs : List Outline} {x o : Outline} {ending : Ending}
      (hconj : Member "And" (.list xs ending) o) (hx : x ∈ xs) (h : GroupIn vs x) : GroupIn vs o

variable [DoubleReader]

/-- What stands under the name of a form is read as the part that this form holds. -/
theorem exists_part {β : Type} {name shape : String} {part : Decoder Expr → Decoder β}
    {f : β → Expr} {x : Outline} {e : Expr}
    (hfind : ∀ expr, Variant.find (variants expr) name =
      .ok (.holding name shape ((part expr).as f)))
    (hx : Member name x o) (hread : decoder level n o = .ok e) :
    ∃ level m b, part (decoder level) m x = .ok b ∧ f b = e := by
  cases level with
  | zero => cases hread
  | succ level => exact ⟨level, Variant.exists_part (hfind _) hx hread⟩

/-- The groups that are written are groups of the expression that is read. -/
theorem isAmong_groupKeys (h : GroupIn vs o) {e : Expr} (hread : decoder level n o = .ok e) :
    IsAmong vs e.groupKeys := by
  induction h generalizing level n e with
  | here hgroup =>
    obtain ⟨g, ending, hopt, hvs⟩ := hgroup
    obtain ⟨level, m, g, hg, rfl⟩ := exists_part (fun _ => rfl) hopt hread
    rw [groupKeys_option]
    exact ⟨g.keys, List.mem_cons_self, (OptionGroup.variants_of_decoder hvs hg).1⟩
  | variant hgroup hv hvalue h ih =>
    obtain ⟨g, ending, hopt, hws⟩ := hgroup
    obtain ⟨level, m, g, hg, rfl⟩ := exists_part (fun _ => rfl) hopt hread
    obtain ⟨w, hw, m', hwread⟩ := (OptionGroup.variants_of_decoder hws hg).2 _ hv _ hvalue
    rw [groupKeys_option]
    exact (ih hwread).of_variant hw
  | inner halias hinner h ih =>
    obtain ⟨level, m, ⟨e, name⟩, he, rfl⟩ := exists_part (fun _ => rfl) halias hread
    obtain ⟨m', hread⟩ := (Fields.Starts.cons _).exists_value hinner he
    exact (ih hread).mono (List.Subset.refl e.groupKeys)
  | left hequal h ih =>
    obtain ⟨level, m, ⟨l, r⟩, hpair, rfl⟩ := exists_part (fun _ => rfl) hequal hread
    obtain ⟨x, y, ending, m', hlist, hl, hr⟩ := exists_of_pair hpair
    cases hlist
    exact (ih hl).mono (List.subset_append_left l.groupKeys r.groupKeys)
  | right hequal h ih =>
    obtain ⟨level, m, ⟨l, r⟩, hpair, rfl⟩ := exists_part (fun _ => rfl) hequal hread
    obtain ⟨x, y, ending, m', hlist, hl, hr⟩ := exists_of_pair hpair
    cases hlist
    exact (ih hr).mono (List.subset_append_right l.groupKeys r.groupKeys)
  | subject hlike h ih =>
    obtain ⟨level, m, ⟨l, pattern⟩, hpair, rfl⟩ := exists_part (fun _ => rfl) hlike hread
    obtain ⟨x, y, ending, m', hlist, hl, _⟩ := exists_of_pair hpair
    cases hlist
    exact (ih hl).mono (List.Subset.refl l.groupKeys)
  | operand hconj hx h ih =>
    obtain ⟨level, m, es, hes, rfl⟩ := exists_part (fun _ => rfl) hconj hread
    obtain ⟨e, he, m', heread⟩ := exists_of_mem_list hes hx
    rw [groupKeys_conj]
    exact (ih heread).flatMap he

end Expr

namespace Clause

variable {vs : List Outline} {o : Outline} {level n : Nat}

/-- Whether an option group of some variants is written at any depth of a clause, be it one of clauses
or one of expressions. -/
inductive GroupIn (vs : List Outline) : Outline → Prop where
  | here {o : Outline} (hgroup : IsGroup vs o) : GroupIn vs o
  | variant {ws : List Outline} {v x o : Outline} (hgroup : IsGroup ws o) (hv : v ∈ ws)
      (hvalue : variantValue? v = some x) (h : GroupIn vs x) : GroupIn vs o
  | predicate {x o : Outline} (hfilter : Member "Where" x o) (h : Expr.GroupIn vs x) : GroupIn vs o
  | item {xs : List Outline} {x o : Outline} {ending : Ending}
      (hreturning : Member "Return" (.list xs ending) o) (hx : x ∈ xs) (h : Expr.GroupIn vs x) :
      GroupIn vs o
  | field {ts : List Outline} {order t x o : Outline} {ending : Ending}
      (horder : Member "OrderBy" order o) (htokens : FirstField "tokens" (.list ts ending) order)
      (ht : t ∈ ts) (hfield : Member "Field" x t) (h : Expr.GroupIn vs x) : GroupIn vs o

variable [DoubleReader]

/-- What stands under the name of a form is read as the part that this form holds. -/
theorem exists_part {β : Type} {name shape : String} {part : Decoder Clause → Decoder β}
    {f : β → Clause} {x : Outline} {c : Clause}
    (hfind : ∀ clause, Variant.find (variants clause) name =
      .ok (.holding name shape ((part clause).as f)))
    (hx : Member name x o) (hread : decoder level n o = .ok c) :
    ∃ level m b, part (decoder level) m x = .ok b ∧ f b = c := by
  cases level with
  | zero => cases hread
  | succ level => exact ⟨level, Variant.exists_part (hfind _) hx hread⟩

/-- The groups that are written are groups of the clause that is read. -/
theorem isAmong_groupKeys (h : GroupIn vs o) {c : Clause} (hread : decoder level n o = .ok c) :
    IsAmong vs c.groupKeys := by
  induction h generalizing level n c with
  | here hgroup =>
    obtain ⟨g, ending, hopt, hvs⟩ := hgroup
    obtain ⟨level, m, g, hg, rfl⟩ := exists_part (fun _ => rfl) hopt hread
    rw [groupKeys_option]
    exact ⟨g.keys, List.mem_cons_self, (OptionGroup.variants_of_decoder hvs hg).1⟩
  | variant hgroup hv hvalue h ih =>
    obtain ⟨g, ending, hopt, hws⟩ := hgroup
    obtain ⟨level, m, g, hg, rfl⟩ := exists_part (fun _ => rfl) hopt hread
    obtain ⟨w, hw, m', hwread⟩ := (OptionGroup.variants_of_decoder hws hg).2 _ hv _ hvalue
    rw [groupKeys_option]
    exact (ih hwread).of_variant hw
  | predicate hfilter h =>
    obtain ⟨level, m, e, he, rfl⟩ := exists_part (fun _ => rfl) hfilter hread
    exact (Expr.isAmong_groupKeys h he).mono (List.Subset.refl e.groupKeys)
  | item hreturning hx h =>
    obtain ⟨level, m, es, hes, rfl⟩ := exists_part (fun _ => rfl) hreturning hread
    obtain ⟨e, he, m', heread⟩ := exists_of_mem_list hes hx
    exact (Expr.isAmong_groupKeys h heread).flatMap he
  | field horder htokens ht hfield h =>
    obtain ⟨level, m, order, horder, rfl⟩ := exists_part (fun _ => rfl) horder hread
    obtain ⟨ts, hts, rfl⟩ := map_eq_ok horder
    obtain ⟨m', htsread⟩ := Fields.Starts.last.exists_value htokens hts
    obtain ⟨t, ht, _, htread⟩ := exists_of_mem_list htsread ht
    obtain ⟨_, e, he, rfl⟩ := Variant.exists_part rfl hfield htread
    have hamong : IsAmong vs (OrderToken.field e).groupKeys := Expr.isAmong_groupKeys h he
    exact hamong.flatMap ht

end Clause

namespace Json

variable [DoubleReader] {j : Json} {o : Outline}

theorem HasOutline.exists_item (h : (Json.list [j]).HasOutline o) :
    ∃ x, o = .list [x] .closed ∧ j.HasOutline x := by
  rcases h with _ | _ | _ | _ | _ | _ | hos | _
  rcases hos with _ | ⟨hx, hos⟩
  cases hos
  exact ⟨_, rfl, hx⟩

theorem HasOutline.exists_pair {k : Json} (h : (Json.list [j, k]).HasOutline o) :
    ∃ x y, o = .list [x, y] .closed ∧ k.HasOutline y := by
  rcases h with _ | _ | _ | _ | _ | _ | hos | _
  rcases hos with _ | ⟨hx, hos⟩
  rcases hos with _ | ⟨hy, hos⟩
  cases hos
  exact ⟨_, _, rfl, hy⟩

theorem HasOutline.exists_member {name : String} (h : (Json.record [(name, j)]).HasOutline o) :
    ∃ x, Member name x o ∧ j.HasOutline x := by
  rcases h with _ | _ | _ | _ | _ | _ | _ | hos
  rcases hos with _ | ⟨hkey, hx, hos⟩
  cases hos
  exact ⟨_, .intro (List.mem_singleton_self _) hkey, hx⟩

end Json

namespace Template

variable {vs : List Outline} {o : Outline} {text : String} {t : Template}

/-- Whether an option group of some variants is written at any depth of a template. -/
def GroupIn (vs : List Outline) (o : Outline) : Prop :=
  ∃ cs ending, FirstField "clauses" (.list cs ending) o ∧ ∃ c ∈ cs, Clause.GroupIn vs c

/-- Whether each group of a template has a variant, and in every context one that is taken. -/
def Resolves (t : Template) : Prop :=
  ∀ keys ∈ t.groupKeys, keys ≠ [] ∧ ∀ ctx, OptionGroup.index ctx keys < keys.length

theorem resolves (t : Template) : t.Resolves := by
  intro keys hkeys
  have hne : keys ≠ [] := fun hnil => t.nil_notMem_groupKeys (hnil ▸ hkeys)
  exact ⟨hne, fun _ => OptionGroup.index_lt hne⟩

section

variable [DoubleReader]

/-- The groups that are written in a text are groups of the template that is read. -/
theorem isAmong_groupKeys (h : GroupIn vs (Outline.ofChars text.toList).1)
    (hread : ofJson text = .ok t) : IsAmong vs t.groupKeys := by
  obtain ⟨cs, ending, hclauses, c, hc, h⟩ := h
  obtain ⟨cs', hcs, rfl⟩ := map_eq_ok (of_read_eq_ok (decoder_read_of_ofJson hread))
  obtain ⟨m, hlist⟩ := Fields.Starts.last.exists_value hclauses hcs
  obtain ⟨c', hc', _, hcread⟩ := exists_of_mem_list hlist hc
  exact (Clause.isAmong_groupKeys h hcread).flatMap hc'

/-- A text with an empty group at any place is refused. -/
theorem exists_error_of_groupIn (h : GroupIn [] (Outline.ofChars text.toList).1) :
    ∃ err, ofJson text = .error err := by
  cases hread : ofJson text with
  | error err => exact ⟨err, rfl⟩
  | ok t => exact absurd (nil_mem_of_isAmong (isAmong_groupKeys h hread)) t.nil_notMem_groupKeys

/-- Groups have variants wherever a template comes from. A text that is read has its groups in the
template, under the same keys, and one with an empty group is refused; a template is built exactly of
drafts without an empty group, and has the groups that they ask for. So each group takes a variant that
it has, that of the first key that selects or, by default, the first, and is compiled as this one. -/
theorem groups_inhabited (text : String) (ds : List Clause.Draft) :
    (∀ t, ofJson text = .ok t → t.Resolves ∧
      ∀ vs, GroupIn vs (Outline.ofChars text.toList).1 → vs ≠ [] ∧ IsAmong vs t.groupKeys) ∧
    (GroupIn [] (Outline.ofChars text.toList).1 → ∃ err, ofJson text = .error err) ∧
    (∀ t, build ds = .ok t → t.Resolves ∧ t.groupKeys = ds.flatMap Clause.Draft.groupKeys) ∧
    ((∃ t, build ds = .ok t) ↔ [] ∉ ds.flatMap Clause.Draft.groupKeys) ∧
    (∀ err, build ds = .error err → err = .emptyOptionGroup) ∧
    (∀ {α : Type} (g : OptionGroup α) ctx, g.Takes ctx (g.select ctx)) ∧
    (∀ g strict ctx, (Expr.option g).pieces strict ctx = (g.select ctx).value.pieces strict ctx) ∧
    ∀ g config ctx scope, (Clause.option g).pieces config ctx scope =
      (g.select ctx).value.pieces config ctx scope := by
  have hbuilds := builds_build ds
  refine ⟨fun t hread => ⟨t.resolves, fun vs h => ?_⟩, exists_error_of_groupIn,
    fun t hbuild => ⟨t.resolves, hbuilds.keys_eq hbuild⟩, hbuilds.exists_ok_iff,
    fun err => hbuilds.error_eq, OptionGroup.takes_select,
    fun g strict ctx => Expr.pieces_option strict ctx g,
    fun g config ctx scope => Clause.pieces_option config ctx scope g⟩
  have hamong := isAmong_groupKeys h hread
  refine ⟨fun hempty => ?_, hamong⟩
  subst hempty
  exact t.nil_notMem_groupKeys (nil_mem_of_isAmong hamong)

end

/-- The JSON form of a group of clauses that is written as a list, around a group of expressions that
is written with names. -/
def nestedJson (variants : List Json) : Json :=
  .list [.list [.record [("Opt", .list [.list [.list [.string "a", .record [("Return",
    .list [.record [("Opt", .record [("variants", .list variants)])]])]]]])]]]

theorem groupIn_nestedJson [DoubleReader] {variants : List Json}
    (hback : (nestedJson variants).readsBack) :
    ∃ vs, Json.HaveOutlines variants vs ∧
      GroupIn vs (Outline.ofChars (nestedJson variants).compact.toList).1 := by
  obtain ⟨o, ho, hscan⟩ := (nestedJson variants).exists_ofChars_text hback
  rw [Json.compact, String.toList_ofList, hscan]
  obtain ⟨_, rfl, hclauses⟩ := ho.exists_item
  obtain ⟨c, rfl, hc⟩ := hclauses.exists_item
  obtain ⟨_, hopt, hg⟩ := hc.exists_member
  obtain ⟨_, rfl, hws⟩ := hg.exists_item
  obtain ⟨_, rfl, hw⟩ := hws.exists_item
  obtain ⟨_, x, rfl, hx⟩ := hw.exists_pair
  obtain ⟨_, hreturn, hes⟩ := hx.exists_member
  obtain ⟨e, rfl, he⟩ := hes.exists_item
  obtain ⟨_, hinner, hfields⟩ := he.exists_member
  obtain ⟨_, hvariants, hvs⟩ := hfields.exists_member
  cases hvs with
  | @list _ vs hvs =>
    have hgroup : Expr.GroupIn vs e := .here ⟨_, _, hinner, .named hvariants⟩
    have hvariant : Clause.GroupIn vs x := .item hreturn (List.mem_singleton_self e) hgroup
    have hclause : Clause.GroupIn vs c :=
      .variant ⟨_, _, hopt, .listed⟩ (List.mem_singleton_self _) rfl hvariant
    exact ⟨vs, hvs, _, _, .listed, c, List.mem_singleton_self c, hclause⟩

/-- A group of clauses around a group of expressions with some variants. -/
def nestedDraft (variants : List (String × Expr.Draft)) : List Clause.Draft :=
  [.option [("a", .returning [.option variants])]]

def oneVariant : List Json := [.list [.string "b", .record [("Param", .string "p")]]]

theorem groups_inhabited_nested :
    (∃ t, ofJson (nestedJson oneVariant).compact = .ok t ∧ t.Resolves ∧
      t.groupKeys = [["a"], ["b"]]) ∧
    (∃ err, ofJson (nestedJson []).compact = .error err) ∧
    (∃ t, build (nestedDraft [("b", .param "p")]) = .ok t ∧ t.Resolves ∧
      t.groupKeys = [["a"], ["b"]]) ∧
    ¬∃ t, build (nestedDraft []) = .ok t := by
  obtain ⟨hread, -, hbuild, hexists, -⟩ :=
    groups_inhabited (nestedJson oneVariant).compact (nestedDraft [("b", .param "p")])
  obtain ⟨-, hrefused, -, hempty, -⟩ := groups_inhabited (nestedJson []).compact (nestedDraft [])
  refine ⟨?_, hrefused ?_, ?_, fun h => hempty.1 h (by decide)⟩
  · have hkeys : (ofJson (nestedJson oneVariant).compact).toOption.map groupKeys =
        some [["a"], ["b"]] := by decide +kernel
    cases ht : ofJson (nestedJson oneVariant).compact with
    | error err =>
      rw [ht] at hkeys
      cases hkeys
    | ok t =>
      rw [ht] at hkeys
      exact ⟨t, rfl, (hread t ht).1, Option.some.inj hkeys⟩
  · have hback : (nestedJson []).readsBack := rfl
    obtain ⟨vs, hvs, hgroup⟩ := groupIn_nestedJson hback
    cases hvs
    exact hgroup
  · obtain ⟨t, ht⟩ := hexists.2 (by decide)
    exact ⟨t, ht, hbuild t ht⟩

end Template

end CypherTemplate
