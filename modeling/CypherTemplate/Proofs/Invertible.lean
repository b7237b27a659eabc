import CypherTemplate.Json.Decoder
import CypherTemplate.Proofs.Nesting

/-!
Decoders that undo a written form. Such a decoder reads what is written as far as its nesting is
allowed, and what it reads of any other text is written no deeper than that text. Each way to build a
decoder keeps this.
-/
namespace CypherTemplate

/-- A list stays as it is when its items do. -/
theorem map_eq_self_iff {α : Type} {f : α → α} {as : List α} :
    as.map f = as ↔ ∀ a ∈ as, f a = a := by
  have h := @List.map_inj_left α α as f id
  rwa [List.map_id] at h

namespace Json

theorem itemsDepth_le_iff {js : List Json} {n : Nat} :
    itemsDepth js ≤ n ↔ ∀ j ∈ js, j.depth ≤ n := by
  induction js with
  | nil => simp [itemsDepth]
  | cons j js ih => rw [itemsDepth, Nat.max_le, ih, List.forall_mem_cons]

theorem membersDepth_le_iff {ms : List (String × Json)} {n : Nat} :
    membersDepth ms ≤ n ↔ ∀ m ∈ ms, m.2.depth ≤ n := by
  induction ms with
  | nil => simp [membersDepth]
  | cons m ms ih => rw [membersDepth, Nat.max_le, ih, List.forall_mem_cons]

end Json

namespace Decoder

variable {α β γ : Type}

/-- What is read of a form that must not be nested too deep. -/
def fit (p : Prop) [Decidable p] (a : α) : Except JsonError α :=
  if p then .ok a else .error .malformed

section

variable {p q : Prop} [Decidable p] [Decidable q]

theorem fit_of (h : p) (a : α) : fit p a = .ok a := if_pos h

theorem fit_of_not (h : ¬p) (a : α) : fit p a = .error .malformed := if_neg h

theorem fit_congr (h : p ↔ q) (a : α) : fit p a = fit q a := by
  simp only [fit, h]

theorem map_fit (f : α → β) (a : α) : f <$> fit p a = fit p (f a) := by
  unfold fit
  split <;> rfl

theorem fit_bind_fit (f : α → β → γ) (a : α) (b : β) :
    (do let x ← fit p a; let y ← fit q b; return f x y) = fit (p ∧ q) (f a b) := by
  by_cases hp : p <;> by_cases hq : q <;> simp only [fit, hp, hq, and_true, and_false, if_true,
    if_false] <;> rfl

end

/-- Opening a list or record takes one from what may be open. -/
theorem within_fit {budget depth : Nat} {read : Nat → Except JsonError α} {a : α}
    (h : ∀ n < budget, read n = fit (depth ≤ n) a) :
    within budget read = fit (depth + 1 ≤ budget) a := by
  cases budget with
  | zero => rfl
  | succ n => rw [within, h n (Nat.lt_succ_self n), fit_congr Nat.add_le_add_iff_right]

theorem exists_of_within {budget : Nat} {read : Nat → Except JsonError α} {a : α}
    (h : within budget read = .ok a) : ∃ n, budget = n + 1 ∧ read n = .ok a := by
  cases budget with
  | zero => cases h
  | succ n => exact ⟨n, rfl, h⟩

theorem ok_bind (a : α) (f : α → Except JsonError β) : (Except.ok a >>= f) = f a := rfl

theorem bind_eq_ok {x : Except JsonError α} {f : α → Except JsonError β} {b : β}
    (h : x >>= f = .ok b) : ∃ a, x = .ok a ∧ f a = .ok b := by
  cases x with
  | error e => cases h
  | ok a => exact ⟨a, rfl, h⟩

theorem map_eq_ok {x : Except JsonError α} {f : α → β} {b : β} (h : f <$> x = .ok b) :
    ∃ a, x = .ok a ∧ f a = b := by
  cases x with
  | error e => cases h
  | ok a => exact ⟨a, rfl, Except.ok.inj h⟩

theorem short_ne_ok {n : Nat} {expected : String} {ending : Ending} {a : α} :
    short n expected ending ≠ .ok a := by
  intro h
  obtain ⟨_, _, hthrow⟩ := bind_eq_ok h
  cases hthrow

/-- What is read of a text is read of its outline. -/
theorem of_read_eq_ok {d : Decoder α} {text : String} {a : α} (hread : d.read text = .ok a) :
    d 127 (Outline.ofChars text.toList).1 = .ok a := by
  rw [read] at hread
  cases hscan : Outline.ofChars text.toList with
  | mk o isEnd =>
    rw [hscan] at hread
    obtain ⟨b, hb, hread⟩ := bind_eq_ok hread
    cases isEnd with
    | false => cases hread
    | true =>
      cases hread
      exact hb

variable [DoubleReader]

/-- Whether a decoder undoes a written form: for budgets below a limit it reads what is written if
that fits, `kept` being what stays of a value; and what it reads of any text stays whole and fits. -/
structure Inverts (d : Decoder α) (limit : Nat) (write : α → Json) (kept : α → α) : Prop where
  reads : ∀ (a : α), ∀ n < limit, ∀ o, (write a).HasOutline o →
    d n o = fit ((write a).depth ≤ n) (kept a)
  settles : ∀ n o a, d n o = .ok a → (write a).depth ≤ n ∧ kept a = a

variable {limit : Nat} {d : Decoder α} {write : α → Json} {kept : α → α}

theorem Inverts.mono {lower : Nat} (h : d.Inverts limit write kept) (hl : lower ≤ limit) :
    d.Inverts lower write kept :=
  ⟨fun a n hn => h.reads a n (Nat.lt_of_lt_of_le hn hl), h.settles⟩

theorem mismatch_ne_ok {o : Outline} {expected : String} {a : α} :
    o.mismatch expected ≠ .ok a := by
  intro h
  unfold Outline.mismatch at h
  cases hf : o.found <;> rw [hf] at h <;> cases h

theorem inverts_string : string.Inverts limit .string id where
  reads := by
    intro s n _ o ho
    cases ho with
    | string hread => exact hread
  settles := by
    intro n o s _
    exact ⟨Nat.zero_le n, rfl⟩

theorem inverts_count : count.Inverts limit (fun n => .whole n.toNat) id where
  reads := by
    intro i n _ o ho
    cases ho
    have hlow : -(UInt64.size : Int) ≤ 2 * (i.toNat : Int) := by omega
    have hread := Numeral.read_ofInt hlow (Int.ofNat_lt.2 i.toNat_lt_size)
    simp only [count, hread]
    exact congrArg Except.ok UInt64.ofNat_toNat
  settles := by
    intro n o i _
    exact ⟨Nat.zero_le n, rfl⟩

/-! Lists and records of any length, and pairs. -/

theorem items_fit (h : d.Inverts limit write kept) {n : Nat} (hn : n < limit) {as : List α}
    {os : List Outline} (hos : Json.HaveOutlines (as.map write) os) :
    items (d n) .closed os = fit (Json.itemsDepth (as.map write) ≤ n) (as.map kept) := by
  induction as generalizing os with
  | nil =>
    cases hos
    rfl
  | cons a as ih =>
    cases hos with
    | cons ho hos =>
      rw [items, h.reads a n hn _ ho, ih hos, fit_bind_fit, List.map_cons, List.map_cons,
        Json.itemsDepth, fit_congr Nat.max_le]

theorem settles_items (h : d.Inverts limit write kept) {n : Nat} {ending : Ending}
    {os : List Outline} {as : List α} (hread : items (d n) ending os = .ok as) :
    ∀ a ∈ as, (write a).depth ≤ n ∧ kept a = a := by
  induction os generalizing as with
  | nil =>
    obtain ⟨_, _, hnil⟩ := bind_eq_ok hread
    cases hnil
    simp
  | cons o os ih =>
    obtain ⟨a, ha, hread⟩ := bind_eq_ok hread
    obtain ⟨rest, hrest, hcons⟩ := bind_eq_ok hread
    cases hcons
    exact List.forall_mem_cons.2 ⟨h.settles n o a ha, ih hrest⟩

theorem inverts_list (h : d.Inverts limit write kept) :
    (list d).Inverts (limit + 1) (fun as => .list (as.map write)) (List.map kept) where
  reads := by
    intro as n hn o ho
    cases ho with
    | list hos =>
      apply within_fit
      intro m hm
      exact items_fit h (by omega) hos
  settles := by
    intro n o as hread
    cases o
    case list os ending =>
      obtain ⟨m, rfl, hitems⟩ := exists_of_within hread
      have has := settles_items h hitems
      constructor
      · apply Nat.succ_le_succ
        rw [Json.itemsDepth_le_iff]
        exact List.forall_mem_map.2 fun a ha => (has a ha).1
      · exact map_eq_self_iff.2 fun a ha => (has a ha).2
    all_goals exact absurd hread mismatch_ne_ok

theorem members_fit (h : d.Inverts limit write kept) {n : Nat} (hn : n < limit)
    {es : List (String × α)} {os : List (Outline × Outline)}
    (hos : Json.MembersHaveOutlines (es.map fun e => (e.1, write e.2)) os) :
    members (d n) .closed os =
      fit (Json.membersDepth (es.map fun e => (e.1, write e.2)) ≤ n)
        (es.map fun e => (e.1, kept e.2)) := by
  induction es generalizing os with
  | nil =>
    cases hos
    rfl
  | cons e es ih =>
    cases hos with
    | cons hkey ho hos =>
      have hread : (Outline.string _).readKey = .ok e.1 := hkey
      rw [members, hread, h.reads e.2 n hn _ ho, ih hos, List.map_cons, List.map_cons,
        Json.membersDepth, ← fit_congr Nat.max_le.symm]
      exact fit_bind_fit (fun a as => (e.1, a) :: as) _ _

theorem settles_members (h : d.Inverts limit write kept) {n : Nat} {ending : Ending}
    {os : List (Outline × Outline)} {es : List (String × α)}
    (hread : members (d n) ending os = .ok es) :
    ∀ e ∈ es, (write e.2).depth ≤ n ∧ kept e.2 = e.2 := by
  induction os generalizing es with
  | nil =>
    obtain ⟨_, _, hnil⟩ := bind_eq_ok hread
    cases hnil
    simp
  | cons o os ih =>
    obtain ⟨key, _, hread⟩ := bind_eq_ok hread
    obtain ⟨a, ha, hread⟩ := bind_eq_ok hread
    obtain ⟨rest, hrest, hcons⟩ := bind_eq_ok hread
    cases hcons
    exact List.forall_mem_cons.2 ⟨h.settles n o.2 a ha, ih hrest⟩

theorem inverts_map (h : d.Inverts limit write kept) :
    (map d).Inverts (limit + 1) (fun es => .record (es.map fun e => (e.1, write e.2)))
      (List.map fun e => (e.1, kept e.2)) where
  reads := by
    intro es n hn o ho
    cases ho with
    | record hos =>
      apply within_fit
      intro m hm
      exact members_fit h (by omega) hos
  settles := by
    intro n o es hread
    cases o
    case record os ending =>
      obtain ⟨m, rfl, hmembers⟩ := exists_of_within hread
      have hes := settles_members h hmembers
      constructor
      · apply Nat.succ_le_succ
        rw [Json.membersDepth_le_iff]
        exact List.forall_mem_map.2 fun e he => (hes e he).1
      · exact map_eq_self_iff.2 fun e he => Prod.ext rfl (hes e he).2
    all_goals exact absurd hread mismatch_ne_ok

/-- A pair that is read from a list of two. -/
theorem inverts_pair {e : Decoder β} {writeTwo : β → Json} {keptTwo : β → β} (kind full : String)
    (hd : d.Inverts limit write kept) (he : e.Inverts limit writeTwo keptTwo) :
    (pair kind full d e).Inverts (limit + 1) (fun p => .list [write p.1, writeTwo p.2])
      (Prod.map kept keptTwo) where
  reads := by
    intro p n hn o ho
    rcases ho with _ | _ | _ | _ | _ | _ | hos | _
    rcases hos with _ | ⟨hfirst, hos⟩
    rcases hos with _ | ⟨hsecond, hos⟩
    cases hos
    apply within_fit
    intro m hm
    have hlimit : m < limit := by omega
    have hdepth : (write p.1).depth ≤ m ∧ (writeTwo p.2).depth ≤ m ↔
        Json.itemsDepth [write p.1, writeTwo p.2] ≤ m := by
      rw [Json.itemsDepth_le_iff]
      simp
    simp only [hd.reads p.1 m hlimit _ hfirst, he.reads p.2 m hlimit _ hsecond, ← fit_congr hdepth]
    exact fit_bind_fit Prod.mk _ _
  settles := by
    intro n o p hread
    cases o
    case list os ending =>
      obtain ⟨m, rfl, hread⟩ := exists_of_within hread
      rcases os with _ | ⟨x, _ | ⟨y, more⟩⟩
      · exact absurd hread short_ne_ok
      · obtain ⟨_, _, hread⟩ := bind_eq_ok hread
        exact absurd hread short_ne_ok
      · obtain ⟨a, ha, hread⟩ := bind_eq_ok hread
        obtain ⟨b, hb, hread⟩ := bind_eq_ok hread
        obtain ⟨_, _, hpair⟩ := bind_eq_ok hread
        cases hpair
        obtain ⟨hfirst, hkept⟩ := hd.settles m x a ha
        obtain ⟨hsecond, hkeptTwo⟩ := he.settles m y b hb
        constructor
        · apply Nat.succ_le_succ
          rw [Json.itemsDepth_le_iff]
          simp [hfirst, hsecond]
        · rw [Prod.map_apply, hkept, hkeptTwo]
    all_goals exact absurd hread mismatch_ne_ok

/-- An optional part that is written as a record, or as null where it is missing. -/
theorem inverts_optional {ms : α → List (String × Json)}
    (h : d.Inverts limit (fun a => .record (ms a)) kept) :
    (optional d).Inverts limit (fun o => o.elim .null fun a => .record (ms a))
      (Option.map kept) where
  reads := by
    intro a n hn o ho
    cases a with
    | none =>
      cases ho
      rfl
    | some a =>
      have hread := h.reads a n hn o ho
      cases ho
      exact (congrArg (some <$> ·) hread).trans (map_fit some _)
  settles := by
    intro n o a hread
    cases o
    case null =>
      cases hread
      exact ⟨Nat.zero_le n, rfl⟩
    all_goals
      obtain ⟨b, hb, rfl⟩ := map_eq_ok hread
      obtain ⟨hdepth, hkept⟩ := h.settles n _ b hb
      exact ⟨hdepth, congrArg some hkept⟩

/-- A type in the place of one that it is made of and taken apart to. -/
theorem Inverts.check {f : α → Except JsonError β} {g : β → α} {keptOf : β → β}
    (h : d.Inverts limit write kept) (hf : ∀ b, f (g b) = .ok b)
    (hg : ∀ a b, f a = .ok b → g b = a) (hkept : ∀ b, kept (g b) = g (keptOf b)) :
    (d.check f).Inverts limit (fun b => write (g b)) keptOf where
  reads := by
    intro b n hn o ho
    rw [Decoder.check, h.reads (g b) n hn o ho, hkept, fit, fit]
    split
    · exact hf (keptOf b)
    · rfl
  settles := by
    intro n o b hread
    obtain ⟨a, ha, hb⟩ := bind_eq_ok hread
    obtain rfl := hg a b hb
    obtain ⟨hdepth, hstays⟩ := h.settles n o _ ha
    refine ⟨hdepth, ?_⟩
    rw [hkept] at hstays
    have hsame := congrArg f hstays
    rw [hf, hf] at hsame
    exact Except.ok.inj hsame

theorem Inverts.as {f : α → β} {g : β → α} {keptOf : β → β} (h : d.Inverts limit write kept)
    (hf : ∀ b, f (g b) = b) (hg : ∀ a, g (f a) = a) (hkept : ∀ b, kept (g b) = g (keptOf b)) :
    (d.as f).Inverts limit (fun b => write (g b)) keptOf := by
  have hcheck : d.as f = d.check fun a => .ok (f a) := by
    funext n o
    rw [Decoder.as, Decoder.check]
    cases d n o <;> rfl
  rw [hcheck]
  refine h.check (fun b => congrArg Except.ok (hf b)) (fun a b hb => ?_) hkept
  rw [← Except.ok.inj hb, hg]

/-- Texts with at most 127 lists and records open at once are read whole, all others are refused, given
that doubles are read back. -/
theorem Inverts.read_compact (h : d.Inverts limit write kept) (hlimit : 127 < limit) {a : α}
    (hback : (write a).readsBack) :
    d.read (write a).compact = fit (Json.nesting (write a).compact ≤ 127) (kept a) := by
  obtain ⟨o, ho, hscan⟩ := (write a).exists_ofChars_text hback
  rw [read, Json.compact, String.toList_ofList, hscan, ← Json.compact, Json.nesting_compact]
  change d 127 o >>= .ok = _
  rw [h.reads a 127 hlimit o ho]
  exact map_fit id _

theorem Inverts.of_read (h : d.Inverts limit write kept) {text : String} {a : α}
    (hread : d.read text = .ok a) : Json.nesting (write a).compact ≤ 127 ∧ kept a = a := by
  rw [Json.nesting_compact]
  exact h.settles 127 _ a (of_read_eq_ok hread)

end Decoder

end CypherTemplate
