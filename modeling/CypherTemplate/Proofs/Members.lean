import CypherTemplate.Proofs.InvertibleRecord
import CypherTemplate.Proofs.WholeNumber

/-!
What stands where in an outline that is read. A value under a name of a record, in front of a record
that is written as a list, under the name of a variant or in a list or pair is read as the part of the
result that it stands for.
-/
namespace CypherTemplate

namespace Outline

/-- Whether a value stands under a name in a record. -/
inductive Member (name : String) (x : Outline) : Outline → Prop where
  | intro {key : Outline} {ms : List (Outline × Outline)} {ending : Ending} (hmem : (key, x) ∈ ms)
      (hkey : key.readKey = .ok name) : Member name x (.record ms ending)

/-- Whether a value stands for the first field of a record: under the name of the field, or in front
where the record is written as a list. -/
inductive FirstField (name : String) (x : Outline) : Outline → Prop where
  | named {o : Outline} (h : Member name x o) : FirstField name x o
  | listed {xs : List Outline} {ending : Ending} : FirstField name x (.list (x :: xs) ending)

end Outline

open Outline

namespace Variant

open Decoder

/-- What stands under the name of a variant is read as the part that the variant holds. -/
theorem exists_part [DoubleReader] {α β : Type} {vs : List (Variant α)} {name shape : String}
    {d : Decoder β} {f : β → α} {x o : Outline} {n : Nat} {a : α}
    (hfind : find vs name = .ok (.holding name shape (d.as f))) (hx : Member name x o)
    (hread : decoder vs n o = .ok a) : ∃ m b, d m x = .ok b ∧ f b = a := by
  cases hx with
  | @intro key ms ending hmem hkey =>
    obtain ⟨m, rfl, hread⟩ := exists_of_within hread
    match ms, hmem with
    | (key', x') :: more, hmem =>
      obtain ⟨name', hname, hread⟩ := bind_eq_ok hread
      obtain ⟨v, hv, hread⟩ := bind_eq_ok hread
      obtain ⟨a', hpayload, hread⟩ := bind_eq_ok hread
      cases more with
      | cons _ _ => cases hread
      | nil =>
        obtain ⟨_, _, hsame⟩ := bind_eq_ok hread
        cases hsame
        obtain ⟨rfl, rfl⟩ := Prod.mk.inj (List.mem_singleton.1 hmem)
        cases key with
        | string s =>
          cases hname.symm.trans hkey
          cases hv.symm.trans hfind
          exact ⟨m, map_eq_ok hpayload⟩
        | fault f => cases f <;> cases hkey
        | _ => cases hkey

end Variant

namespace Fields

open Decoder

variable {α β : Type} {f : Field β} {fs : Fields α} {part : α → β}

/-- Whether a field is the first of a record, and its value a part of the record. -/
inductive Starts {β : Type} (f : Field β) : {α : Type} → Fields α → (α → β) → Prop where
  | last : Starts f (.last f) id
  | cons {γ : Type} (rest : Fields γ) : Starts f (.cons f rest) Prod.fst

/-- How a slot is filled: once, by the member of its field's name, and it stays what it is. -/
structure Slot (f : Field β) (fs : Fields α) (part : α → β) (slot : fs.Slots → Option β) : Prop where
  fills : ∀ {n o slots slots'}, fs.put n f.name o slots = .ok slots' →
    slot slots = none ∧ ∃ b, slot slots' = some b ∧ f.value n o = .ok b
  keeps : ∀ {n name o slots slots'}, name ≠ f.name → fs.put n name o slots = .ok slots' →
    slot slots' = slot slots
  finishes : ∀ {slots a b}, slot slots = some b → fs.finish slots = .ok a → part a = b

theorem exists_of_fill {n : Nat} {o : Outline} {slot slot' : Option β}
    (h : fill f n o slot = .ok slot') : slot = none ∧ ∃ b, slot' = some b ∧ f.value n o = .ok b := by
  cases slot with
  | some b => cases h
  | none =>
    obtain ⟨b, hb, rfl⟩ := map_eq_ok h
    exact ⟨rfl, b, rfl, hb⟩

theorem Starts.exists_slot (h : Starts f fs part) : ∃ slot, Slot f fs part slot := by
  -- The type of the slots hangs on the fields, so each form of fields has its own slot.
  cases h with
  | last =>
    refine ⟨fun slot : Option _ => slot, fun hput => ?_, fun hname hput => ?_,
      fun hslot hread => ?_⟩
    · exact exists_of_fill ((if_pos rfl).symm.trans hput)
    · obtain ⟨_, _, hsame⟩ := bind_eq_ok ((if_neg hname).symm.trans hput)
      cases hsame
      rfl
    · cases hslot
      cases hread
      rfl
  | cons rest =>
    refine ⟨fun slots : Option _ × rest.Slots => slots.1, fun hput => ?_, fun hname hput => ?_,
      fun hslot hread => ?_⟩
    · obtain ⟨slot, hfill, hslots⟩ := bind_eq_ok ((if_pos rfl).symm.trans hput)
      cases hslots
      exact exists_of_fill hfill
    · obtain ⟨others, _, hslots⟩ := bind_eq_ok ((if_neg hname).symm.trans hput)
      cases hslots
      rfl
    · obtain ⟨first, htake, hread⟩ := bind_eq_ok hread
      obtain ⟨others, _, hpair⟩ := bind_eq_ok hread
      cases hpair
      rw [hslot] at htake
      cases htake
      rfl

/-- A slot that is filled stays as it is, for its name may not come again. -/
theorem Slot.kept {slot : fs.Slots → Option β} (h : Slot f fs part slot) {n : Nat} {ending : Ending}
    {ms : List (Outline × Outline)} {slots slots' : fs.Slots} {b : β} (hslot : slot slots = some b)
    (hread : fs.putAll n ending ms slots = .ok slots') : slot slots' = some b := by
  induction ms generalizing slots with
  | nil =>
    obtain ⟨_, _, hsame⟩ := bind_eq_ok hread
    cases hsame
    exact hslot
  | cons m ms ih =>
    rw [putAll_cons] at hread
    obtain ⟨name, _, hread⟩ := bind_eq_ok hread
    obtain ⟨next, hput, hread⟩ := bind_eq_ok hread
    by_cases hname : name = f.name
    · subst hname
      cases hslot.symm.trans (h.fills hput).1
    · exact ih ((h.keeps hname hput).trans hslot) hread

/-- The member of a field's name is the one that its slot is filled with. -/
theorem Slot.filled {slot : fs.Slots → Option β} (h : Slot f fs part slot) {n : Nat}
    {ending : Ending} {ms : List (Outline × Outline)} {slots slots' : fs.Slots} {key x : Outline}
    (hmem : (key, x) ∈ ms) (hkey : key.readKey = .ok f.name)
    (hread : fs.putAll n ending ms slots = .ok slots') :
    ∃ b, slot slots' = some b ∧ f.value n x = .ok b := by
  induction ms generalizing slots with
  | nil => cases hmem
  | cons m ms ih =>
    rw [putAll_cons] at hread
    obtain ⟨name, hname, hread⟩ := bind_eq_ok hread
    obtain ⟨next, hput, hrest⟩ := bind_eq_ok hread
    rcases List.mem_cons.1 hmem with rfl | hmem
    · cases hname.symm.trans hkey
      obtain ⟨_, b, hslot, hb⟩ := h.fills hput
      exact ⟨b, h.kept hslot hrest, hb⟩
    · exact ih hmem hrest

/-- What stands for the first field of a record is read as this field. -/
theorem Starts.exists_value [DoubleReader] (h : Starts f fs part) {kind : String} {n : Nat}
    {x o : Outline} {a : α} (hx : FirstField f.name x o) (hread : fs.decoder kind n o = .ok a) :
    ∃ m, f.value m x = .ok (part a) := by
  cases hx with
  | named hmember =>
    cases hmember with
    | intro hmem hkey =>
      obtain ⟨m, rfl, hread⟩ := exists_of_within hread
      obtain ⟨slots, hslots, hread⟩ := bind_eq_ok hread
      obtain ⟨slot, hslot⟩ := h.exists_slot
      obtain ⟨b, hb, hvalue⟩ := hslot.filled hmem hkey hslots
      exact ⟨m, hslot.finishes hb hread ▸ hvalue⟩
  | listed =>
    obtain ⟨m, rfl, hread⟩ := exists_of_within hread
    cases h with
    | last =>
      obtain ⟨b, hb, hread⟩ := bind_eq_ok hread
      obtain ⟨_, _, hsame⟩ := bind_eq_ok hread
      cases hsame
      exact ⟨m, hb⟩
    | cons rest =>
      obtain ⟨b, hb, hread⟩ := bind_eq_ok hread
      obtain ⟨_, _, hsame⟩ := bind_eq_ok hread
      cases hsame
      exact ⟨m, hb⟩

end Fields

namespace Decoder

variable {α β : Type} {d : Decoder α} {n : Nat} {os : List Outline} {ending : Ending}

theorem map_of_items {read : Outline → Except JsonError α} {as : List α} {f : Outline → β} {g : α → β}
    (hread : items read ending os = .ok as) (hfg : ∀ o a, read o = .ok a → f o = g a) :
    os.map f = as.map g := by
  induction os generalizing as with
  | nil =>
    obtain ⟨_, _, hsame⟩ := bind_eq_ok hread
    cases hsame
    rfl
  | cons o os ih =>
    obtain ⟨a, ha, hread⟩ := bind_eq_ok hread
    obtain ⟨as', has, hsame⟩ := bind_eq_ok hread
    cases hsame
    rw [List.map_cons, List.map_cons, hfg o a ha, ih has]

variable [DoubleReader]

/-- Each item of a list is read as an item of what is read. -/
theorem exists_of_mem_list {as : List α} (hread : list d n (.list os ending) = .ok as) {o : Outline}
    (ho : o ∈ os) : ∃ a ∈ as, ∃ m, d m o = .ok a := by
  obtain ⟨m, rfl, hread⟩ := exists_of_within hread
  obtain ⟨i, hi⟩ := List.mem_iff_getElem?.1 ho
  obtain ⟨a, ha, hitem⟩ := getElem?_of_items hread hi
  exact ⟨a, List.mem_of_getElem? ha, m, hitem⟩

theorem map_of_list {as : List α} {f : Outline → β} {g : α → β}
    (hread : list d n (.list os ending) = .ok as) (hfg : ∀ m o a, d m o = .ok a → f o = g a) :
    os.map f = as.map g := by
  obtain ⟨m, rfl, hread⟩ := exists_of_within hread
  exact map_of_items hread (hfg m)

/-- What is read as a pair is a list of two. -/
theorem exists_of_pair {e : Decoder β} {kind full : String} {o : Outline} {p : α × β}
    (hread : pair kind full d e n o = .ok p) :
    ∃ x y ending m, o = .list [x, y] ending ∧ d m x = .ok p.1 ∧ e m y = .ok p.2 := by
  cases o
  case list os ending =>
    obtain ⟨m, rfl, hread⟩ := exists_of_within hread
    rcases os with _ | ⟨x, _ | ⟨y, more⟩⟩
    · exact absurd hread short_ne_ok
    · obtain ⟨_, _, hread⟩ := bind_eq_ok hread
      exact absurd hread short_ne_ok
    · obtain ⟨a, ha, hread⟩ := bind_eq_ok hread
      obtain ⟨b, hb, hread⟩ := bind_eq_ok hread
      obtain ⟨_, hmore, hpair⟩ := bind_eq_ok hread
      cases hpair
      cases more with
      | nil => exact ⟨x, y, ending, m, rfl, ha, hb⟩
      | cons _ _ => cases hmore
  all_goals exact absurd hread mismatch_ne_ok

end Decoder

end CypherTemplate
