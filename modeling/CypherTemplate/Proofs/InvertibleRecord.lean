import CypherTemplate.Json.Fields
import CypherTemplate.Json.Variant
import CypherTemplate.Proofs.Invertible

/-!
Decoders of records with known fields and of types with named alternatives undo their written forms
when the decoders of their parts do. Fields are written in declared order and each under a name of its
own; each value of a type is written in the form of one alternative.
-/
namespace CypherTemplate

namespace Fields

open Decoder

variable {α β : Type}

/-- The slots of a first field and of the fields behind it. -/
def addSlot {f : Field α} {rest : Fields β} (slot : Option α) (slots : rest.Slots) :
    (Fields.cons f rest).Slots := (slot, slots)

theorem put_cons_self (f : Field α) (rest : Fields β) (n : Nat) (o : Outline) (slot : Option α)
    (slots : rest.Slots) :
    (Fields.cons f rest).put n f.name o (addSlot slot slots) =
      (addSlot · slots) <$> fill f n o slot := by
  refine (if_pos rfl).trans ?_
  cases hfill : fill f n o slot <;> simp only [addSlot, hfill] <;> rfl

theorem put_cons_of_ne {f : Field α} (rest : Fields β) (n : Nat) {name : String}
    (h : name ≠ f.name) (o : Outline) (slot : Option α) (slots : rest.Slots) :
    (Fields.cons f rest).put n name o (addSlot slot slots) =
      addSlot slot <$> rest.put n name o slots := by
  refine (if_neg h).trans ?_
  cases hput : rest.put n name o slots <;> simp only [addSlot, hput] <;> rfl

theorem putAll_cons (fs : Fields α) (n : Nat) (ending : Ending) (key value : Outline)
    (os : List (Outline × Outline)) (slots : fs.Slots) :
    fs.putAll n ending ((key, value) :: os) slots =
      (do let name ← key.readKey
          let slots ← fs.put n name value slots
          fs.putAll n ending os slots) := by
  cases fs <;> rfl

theorem settles_putAll {fs : Fields α} {n : Nat} {I : fs.Slots → Prop}
    (hput : ∀ name o slots slots', I slots → fs.put n name o slots = .ok slots' → I slots')
    {ending : Ending} {os : List (Outline × Outline)} {slots slots' : fs.Slots} (hslots : I slots)
    (hread : fs.putAll n ending os slots = .ok slots') : I slots' := by
  induction os generalizing slots with
  | nil =>
    obtain ⟨_, _, hsame⟩ := bind_eq_ok hread
    cases hsame
    exact hslots
  | cons m os ih =>
    rw [putAll_cons] at hread
    obtain ⟨name, _, hread⟩ := bind_eq_ok hread
    obtain ⟨next, hnext, hread⟩ := bind_eq_ok hread
    exact ih (hput name m.2 slots next hslots hnext) hread

theorem finish_addSlot (f : Field α) (rest : Fields β) (a : α) (slots : rest.Slots) :
    (Fields.cons f rest).finish (addSlot (some a) slots) = (fun b => (a, b)) <$> rest.finish slots := by
  change (do let x ← take f (some a); let y ← rest.finish slots; return (x, y)) = _
  rw [take, ok_bind]
  cases rest.finish slots <;> rfl

end Fields

namespace Variant

variable {α : Type} {vs : List (Variant α)} {v : Variant α}

/-- Under different names each variant is found by its own. -/
theorem find_of_mem (hnames : (vs.map name).Nodup) (hv : v ∈ vs) : find vs v.name = .ok v := by
  have hfind : vs.find? (·.name = v.name) = some v := by
    induction vs with
    | nil => cases hv
    | cons u vs ih =>
      rw [List.map_cons, List.nodup_cons] at hnames
      rcases List.mem_cons.1 hv with rfl | hv
      · simp
      · have hne : u.name ≠ v.name := by
          intro h
          exact hnames.1 (h ▸ List.mem_map_of_mem hv)
        rw [List.find?_cons_of_neg (by simpa using hne), ih hnames.2 hv]
  rw [find, hfind]

theorem mem_of_find {name : String} (h : find vs name = .ok v) : v ∈ vs := by
  unfold find at h
  split at h
  · rename_i hfind
    cases h
    exact List.mem_of_find?_eq_some hfind
  · cases h

end Variant

variable [DoubleReader]

/-- Whether the decoder of a field undoes a written form, and what an absent one is stays too. -/
structure Field.Inverts {α : Type} (f : Field α) (limit : Nat) (write : α → Json) (kept : α → α) :
    Prop where
  value : f.value.Inverts limit write kept
  absent : ∀ a ∈ f.absent, (write a).depth = 0 ∧ kept a = a

namespace Fields

open Decoder

variable {α β : Type} {limit : Nat}

/-- Whether the decoders of some fields undo the written forms of their values. The members that are
written are the fields in declared order, each under a name of its own. -/
inductive Inverts (limit : Nat) : {α : Type} → Fields α → (α → List (String × Json)) → (α → α) →
    Prop where
  | last {α : Type} {f : Field α} {write : α → Json} {kept : α → α}
      (h : f.Inverts limit write kept) :
      Inverts limit (.last f) (fun a => [(f.name, write a)]) kept
  | cons {α β : Type} {f : Field α} {rest : Fields β} {write : α → Json} {kept : α → α}
      {ms : β → List (String × Json)} {keptRest : β → β} (h : f.Inverts limit write kept)
      (hrest : Inverts limit rest ms keptRest) (hname : ∀ b, f.name ∉ (ms b).map (·.1)) :
      Inverts limit (.cons f rest) (fun p => (f.name, write p.1) :: ms p.2) (Prod.map kept keptRest)

/-- Members of other names pass by the first field. -/
theorem putAll_cons_of_ne {f : Field α} {rest : Fields β} (n : Nat) {ms : List (String × Json)}
    {os : List (Outline × Outline)} (hos : Json.MembersHaveOutlines ms os)
    (hname : f.name ∉ ms.map (·.1)) (slot : Option α) (slots : rest.Slots) :
    (Fields.cons f rest).putAll n .closed os (addSlot slot slots) =
      addSlot slot <$> rest.putAll n .closed os slots := by
  induction ms generalizing os slots with
  | nil =>
    cases hos
    rfl
  | cons m ms ih =>
    cases hos with
    | cons hkey ho hos =>
      rename_i key w j o os
      rw [List.map_cons, List.mem_cons, not_or] at hname
      have hread : (Outline.string w).readKey = .ok key := hkey
      rw [putAll_cons, putAll_cons, hread, ok_bind, ok_bind, put_cons_of_ne rest n (Ne.symm hname.1)]
      cases rest.put n key o slots with
      | error e => rfl
      | ok slots => exact ih hos hname.2 slots

/-- The members written for a record fill the slots of its fields. -/
theorem putAll_fit {fs : Fields α} {ms : α → List (String × Json)} {kept : α → α}
    (h : fs.Inverts limit ms kept) {n : Nat} (hn : n < limit) (a : α)
    {os : List (Outline × Outline)} (hos : Json.MembersHaveOutlines (ms a) os) :
    fs.putAll n .closed os fs.empty >>= fs.finish =
      fit (Json.membersDepth (ms a) ≤ n) (kept a) := by
  induction h generalizing os with
  | @last α f write kept h =>
    rcases hos with _ | ⟨hkey, ho, hos⟩
    cases hos
    rename_i w o
    have hread : (Outline.string w).readKey = .ok f.name := hkey
    have hput : (Fields.last f).put n f.name o (Fields.last f).empty = some <$> f.value n o :=
      if_pos rfl
    have hvalue := h.value.reads a n hn o ho
    rw [putAll_cons, hread, ok_bind, hput, Json.membersDepth, Json.membersDepth, Nat.max_zero]
    by_cases hdepth : (write a).depth ≤ n
    · rw [hvalue, fit_of hdepth]
      rfl
    · rw [hvalue, fit_of_not hdepth]
      rfl
  | @cons α β f rest write kept ms keptRest h hrest hname ih =>
    rcases hos with _ | ⟨hkey, ho, hos⟩
    rename_i w o os
    have hread : (Outline.string w).readKey = .ok f.name := hkey
    have hempty : (Fields.cons f rest).empty = addSlot none rest.empty := rfl
    have hfill : fill f n o none = some <$> f.value n o := rfl
    have hvalue := h.value.reads a.1 n hn o ho
    rw [putAll_cons, hread, ok_bind, hempty, put_cons_self, hfill, hvalue, Json.membersDepth,
      fit_congr Nat.max_le]
    by_cases hdepth : (write a.1).depth ≤ n
    · rw [fit_of hdepth]
      change (Fields.cons f rest).putAll n .closed os (addSlot (some (kept a.1)) rest.empty) >>=
        (Fields.cons f rest).finish = _
      have hfinish : (addSlot (some (kept a.1)) <$> rest.putAll n .closed os rest.empty) >>=
          (Fields.cons f rest).finish = (fun b => (kept a.1, b)) <$>
            (rest.putAll n .closed os rest.empty >>= rest.finish) := by
        cases rest.putAll n .closed os rest.empty with
        | error e => rfl
        | ok slots => exact finish_addSlot f rest (kept a.1) slots
      rw [putAll_cons_of_ne n hos (hname a.2), hfinish, ih a.2 hos, map_fit]
      exact fit_congr (and_iff_right hdepth).symm _
    · rw [fit_of_not hdepth, fit_of_not fun hboth => hdepth hboth.1]
      rfl

theorem settles_fill {f : Field α} {write : α → Json} {kept : α → α}
    (h : f.Inverts limit write kept) {n : Nat} {o : Outline} {slot slot' : Option α}
    (hfill : fill f n o slot = .ok slot') : ∀ a ∈ slot', (write a).depth ≤ n ∧ kept a = a := by
  cases slot with
  | some a => cases hfill
  | none =>
    obtain ⟨a, ha, rfl⟩ := map_eq_ok hfill
    intro b hb
    cases hb
    exact h.value.settles n o a ha

theorem settles_take {f : Field α} {write : α → Json} {kept : α → α}
    (h : f.Inverts limit write kept) {n : Nat} {slot : Option α}
    (hslot : ∀ a ∈ slot, (write a).depth ≤ n ∧ kept a = a) {a : α} (htake : take f slot = .ok a) :
    (write a).depth ≤ n ∧ kept a = a := by
  cases slot with
  | some b =>
    cases htake
    exact hslot a rfl
  | none =>
    unfold take at htake
    split at htake
    · contradiction
    · rename_i hnone habsent
      cases htake
      obtain ⟨hdepth, hkept⟩ := h.absent a habsent
      exact ⟨by omega, hkept⟩
    · cases htake

/-- Whatever is read into the slots of some fields stays whole and fits. -/
theorem exists_invariant {fs : Fields α} {ms : α → List (String × Json)} {kept : α → α}
    (h : fs.Inverts limit ms kept) (n : Nat) :
    ∃ I : fs.Slots → Prop, I fs.empty ∧
      (∀ name o slots slots', I slots → fs.put n name o slots = .ok slots' → I slots') ∧
      ∀ slots a, I slots → fs.finish slots = .ok a →
        Json.membersDepth (ms a) ≤ n ∧ kept a = a := by
  -- The type of the slots hangs on the fields, so the invariant is built by the same induction.
  induction h with
  | @last α f write kept h =>
    refine ⟨fun slot : Option α => ∀ a ∈ slot, (write a).depth ≤ n ∧ kept a = a, nofun, ?_, ?_⟩
    · intro name o slot slot' hslot hput
      by_cases hname : name = f.name
      · exact settles_fill h ((if_pos hname).symm.trans hput)
      · obtain ⟨_, _, hsame⟩ := bind_eq_ok ((if_neg hname).symm.trans hput)
        cases hsame
        exact hslot
    · intro slot a hslot hfinish
      obtain ⟨hdepth, hkept⟩ := settles_take h hslot hfinish
      exact ⟨Nat.max_le.2 ⟨hdepth, Nat.zero_le n⟩, hkept⟩
  | @cons α β f rest write kept ms keptRest h hrest hname ih =>
    obtain ⟨I, hempty, hput, hfinish⟩ := ih
    refine ⟨fun slots : Option α × rest.Slots =>
      (∀ a ∈ slots.1, (write a).depth ≤ n ∧ kept a = a) ∧ I slots.2, ⟨nofun, hempty⟩, ?_, ?_⟩
    · intro name o slots slots' hslots hread
      by_cases hname : name = f.name
      · obtain ⟨slot, hfill, hslot⟩ := bind_eq_ok ((if_pos hname).symm.trans hread)
        cases hslot
        exact ⟨settles_fill h hfill, hslots.2⟩
      · have hpass : (rest.put n name o slots.2 >>= fun others => .ok (slots.1, others)) =
            .ok slots' := (if_neg hname).symm.trans hread
        obtain ⟨others, hothers, hpair⟩ := bind_eq_ok hpass
        cases hpair
        exact ⟨hslots.1, hput name o _ _ hslots.2 hothers⟩
    · intro slots a hslots hread
      obtain ⟨first, htake, hread⟩ := bind_eq_ok hread
      obtain ⟨others, hothers, hpair⟩ := bind_eq_ok hread
      cases hpair
      obtain ⟨hdepth, hkept⟩ := settles_take h hslots.1 htake
      obtain ⟨hdepthRest, hkeptRest⟩ := hfinish _ _ hslots.2 hothers
      refine ⟨Nat.max_le.2 ⟨hdepth, hdepthRest⟩, ?_⟩
      rw [Prod.map_apply, hkept, hkeptRest]

theorem settles_inOrder {fs : Fields α} {ms : α → List (String × Json)} {kept : α → α}
    (h : fs.Inverts limit ms kept) {full : String} {count n : Nat} {ending : Ending}
    {os : List Outline} {a : α} (hread : fs.inOrder full count n ending os = .ok a) :
    Json.membersDepth (ms a) ≤ n ∧ kept a = a := by
  induction h generalizing count os with
  | @last α f write kept h =>
    cases os with
    | nil => exact absurd hread short_ne_ok
    | cons o os =>
      obtain ⟨b, hb, hread⟩ := bind_eq_ok hread
      obtain ⟨_, _, hsame⟩ := bind_eq_ok hread
      cases hsame
      obtain ⟨hdepth, hkept⟩ := h.value.settles n o a hb
      exact ⟨Nat.max_le.2 ⟨hdepth, Nat.zero_le n⟩, hkept⟩
  | @cons α β f rest write kept ms keptRest h hrest hname ih =>
    cases os with
    | nil => exact absurd hread short_ne_ok
    | cons o os =>
      obtain ⟨first, hfirst, hread⟩ := bind_eq_ok hread
      obtain ⟨others, hothers, hpair⟩ := bind_eq_ok hread
      cases hpair
      obtain ⟨hdepth, hkept⟩ := h.value.settles n o first hfirst
      obtain ⟨hdepthRest, hkeptRest⟩ := ih hothers
      refine ⟨Nat.max_le.2 ⟨hdepth, hdepthRest⟩, ?_⟩
      rw [Prod.map_apply, hkept, hkeptRest]

/-- A record that is read from its fields. -/
theorem Inverts.decoder {fs : Fields α} {ms : α → List (String × Json)} {kept : α → α}
    (h : fs.Inverts limit ms kept) (kind : String) :
    (fs.decoder kind).Inverts (limit + 1) (fun a => .record (ms a)) kept where
  reads := by
    intro a n hn o ho
    rcases ho with _ | _ | _ | _ | _ | _ | _ | hos
    apply within_fit
    intro m hm
    exact putAll_fit h (by omega) a hos
  settles := by
    intro n o a hread
    cases o
    case list os ending =>
      obtain ⟨m, rfl, hread⟩ := exists_of_within hread
      obtain ⟨hdepth, hkept⟩ := settles_inOrder h hread
      exact ⟨Nat.succ_le_succ hdepth, hkept⟩
    case record os ending =>
      obtain ⟨m, rfl, hread⟩ := exists_of_within hread
      obtain ⟨slots, hslots, hread⟩ := bind_eq_ok hread
      obtain ⟨I, hempty, hput, hfinish⟩ := exists_invariant h m
      obtain ⟨hdepth, hkept⟩ := hfinish slots a (settles_putAll hput hempty hslots) hread
      exact ⟨Nat.succ_le_succ hdepth, hkept⟩
    all_goals exact absurd hread mismatch_ne_ok

end Fields

namespace Variant

open Decoder

variable {α : Type} {limit : Nat} {write : α → Json} {kept : α → α} {vs : List (Variant α)}
  {v : Variant α} {range : α → Prop}

/-- Whether a variant is the written form of the values in a range: a bare name of one value, a name
with a payload of all that are made of the payload. -/
inductive Inverts (limit : Nat) (write : α → Json) (kept : α → α) :
    Variant α → (α → Prop) → Prop where
  | bare {name : String} {a : α} (hwrite : write a = .string name) (hkept : kept a = a) :
      Inverts limit write kept (.bare name a) (· = a)
  | holding {β : Type} {name shape : String} {d : Decoder β} {part : β → Json} {keptPart : β → β}
      {f : β → α} (h : d.Inverts limit part keptPart)
      (hwrite : ∀ b, write (f b) = .record [(name, part b)])
      (hkept : ∀ b, kept (f b) = f (keptPart b)) :
      Inverts limit write kept (.holding name shape (d.as f)) fun a => ∃ b, f b = a

/-- Whether some variants are the written forms of the values in a range. -/
inductive Forms (limit : Nat) (write : α → Json) (kept : α → α) :
    List (Variant α) → (α → Prop) → Prop where
  | nil : Forms limit write kept [] fun _ => False
  | cons {v : Variant α} {vs : List (Variant α)} {range others : α → Prop}
      (h : v.Inverts limit write kept range) (hrest : Forms limit write kept vs others) :
      Forms limit write kept (v :: vs) fun a => range a ∨ others a

theorem Forms.exists_of_mem (h : Forms limit write kept vs range) (hv : v ∈ vs) :
    ∃ range, v.Inverts limit write kept range := by
  induction h with
  | nil => cases hv
  | cons h hrest ih =>
    rcases List.mem_cons.1 hv with rfl | hv
    · exact ⟨_, h⟩
    · exact ih hv

theorem Forms.exists_mem (h : Forms limit write kept vs range) {a : α} (ha : range a) :
    ∃ v ∈ vs, ∃ range : α → Prop, range a ∧ v.Inverts limit write kept range := by
  induction h with
  | nil => cases ha
  | @cons v vs range others h hrest ih =>
    rcases ha with ha | ha
    · exact ⟨v, List.mem_cons_self, range, ha, h⟩
    · obtain ⟨u, hu, hrange⟩ := ih ha
      exact ⟨u, List.mem_cons_of_mem v hu, hrange⟩

theorem settles_payload (h : v.Inverts limit write kept range) {n : Nat} {o : Outline} {a : α}
    (hread : v.payload n o = .ok a) : (write a).depth ≤ n + 1 ∧ kept a = a := by
  cases h with
  | bare hwrite hkept =>
    cases o
    case null =>
      cases hread
      rw [hwrite]
      exact ⟨Nat.zero_le _, hkept⟩
    all_goals exact absurd hread mismatch_ne_ok
  | holding hd hwrite hkept =>
    obtain ⟨b, hb, rfl⟩ := map_eq_ok hread
    obtain ⟨hdepth, hpart⟩ := hd.settles n o b hb
    rw [hwrite, hkept, hpart]
    exact ⟨Nat.succ_le_succ (Nat.max_le.2 ⟨hdepth, Nat.zero_le n⟩), rfl⟩

/-- Types whose variants are the written forms of all their values. -/
theorem Forms.decoder (h : Forms limit write kept vs range) (hnames : (vs.map name).Nodup)
    (hall : ∀ a, range a) : (decoder vs).Inverts (limit + 1) write kept where
  reads := by
    intro a n hn o ho
    obtain ⟨v, hv, range, ha, hform⟩ := h.exists_mem (hall a)
    have hfind := find_of_mem hnames hv
    cases hform with
    | @bare name a hwrite hkept =>
      cases ha
      rw [hwrite] at ho ⊢
      cases ho with
      | @string _ w hread =>
        have hbare : find vs name = .ok (.bare name a) := hfind
        change (do let v ← find vs (← w.read); v.alone) = _
        rw [hread, ok_bind, hbare, hkept]
        exact (fit_of (Nat.zero_le n) a).symm
    | @holding β name shape part writePart keptPart f hd hwrite hkept =>
      obtain ⟨b, rfl⟩ := ha
      rw [hwrite] at ho ⊢
      rcases ho with _ | _ | _ | _ | _ | _ | _ | hos
      rcases hos with _ | ⟨hkey, ho, hos⟩
      cases hos
      rename_i w o
      have hname : readName (.string w) = .ok name := hkey
      have hholding : find vs name = .ok (.holding name shape (part.as f)) := hfind
      apply within_fit
      intro m hm
      have hpart : part.as f m o = fit ((writePart b).depth ≤ m) (f (keptPart b)) := by
        rw [Decoder.as, hd.reads b m (by omega) o ho, map_fit]
      change (do let v ← find vs (← readName (.string w)); v.payload m o >>= .ok) = _
      rw [hname, ok_bind, hholding, ok_bind, payload, hpart, hkept, Json.membersDepth,
        Json.membersDepth, Nat.max_zero]
      by_cases hdepth : (writePart b).depth ≤ m
      · rw [fit_of hdepth]
        rfl
      · rw [fit_of_not hdepth]
        rfl
  settles := by
    intro n o a hread
    cases o
    case string w =>
      obtain ⟨name, _, hread⟩ := bind_eq_ok hread
      obtain ⟨v, hfind, halone⟩ := bind_eq_ok hread
      obtain ⟨range, hform⟩ := h.exists_of_mem (mem_of_find hfind)
      cases hform with
      | bare hwrite hkept =>
        cases halone
        rw [hwrite]
        exact ⟨Nat.zero_le n, hkept⟩
      | holding hd hwrite hkept => cases halone
    case record os ending =>
      obtain ⟨m, rfl, hread⟩ := exists_of_within hread
      cases os with
      | nil => cases ending <;> cases hread
      | cons member more =>
        obtain ⟨name, _, hread⟩ := bind_eq_ok hread
        obtain ⟨v, hfind, hread⟩ := bind_eq_ok hread
        obtain ⟨b, hpayload, hread⟩ := bind_eq_ok hread
        obtain ⟨range, hform⟩ := h.exists_of_mem (mem_of_find hfind)
        cases more with
        | nil =>
          obtain ⟨_, _, hsame⟩ := bind_eq_ok hread
          cases hsame
          exact settles_payload hform hpayload
        | cons _ _ => cases hread
    case fault f => cases f <;> cases hread
    all_goals cases hread

end Variant

end CypherTemplate
