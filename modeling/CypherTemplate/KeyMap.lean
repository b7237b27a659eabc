/-!
Finite maps from text keys, held as entries in strictly increasing order of their keys, so a map has
one form. The order is that of code points. A write replaces the value of a key that is there.
-/
namespace CypherTemplate

/-- Entries with one key replaced or put in its place. -/
def insertEntry {α : Type} (key : String) (value : α) : List (String × α) → List (String × α)
  | [] => [(key, value)]
  | (k, v) :: es =>
    if key < k then (key, value) :: (k, v) :: es
    else if key = k then (key, value) :: es
    else (k, v) :: insertEntry key value es

/-- Whether entries stand in strictly increasing order of their keys. -/
abbrev Increasing {α : Type} (es : List (String × α)) : Prop :=
  es.Pairwise fun a b => a.1 < b.1

theorem fst_mem_insertEntry {α : Type} {key : String} {value : α} {es : List (String × α)}
    {e : String × α} (h : e ∈ insertEntry key value es) : e.1 = key ∨ e ∈ es := by
  induction es with
  | nil => simp_all [insertEntry]
  | cons a es ih =>
    simp only [insertEntry] at h
    split at h
    · rcases List.mem_cons.1 h with rfl | h
      · exact .inl rfl
      · exact .inr h
    · split at h
      · rcases List.mem_cons.1 h with rfl | h
        · exact .inl rfl
        · exact .inr (List.mem_cons_of_mem _ h)
      · rcases List.mem_cons.1 h with rfl | h
        · exact .inr List.mem_cons_self
        · exact (ih h).imp_right (List.mem_cons_of_mem _)

theorem lt_of_not_lt_of_ne {a b : String} (h : ¬a < b) (hne : a ≠ b) : b < a :=
  Std.lt_of_le_of_ne (Std.not_lt.1 h) (Ne.symm hne)

theorem increasing_insertEntry {α : Type} (key : String) (value : α) {es : List (String × α)}
    (h : Increasing es) : Increasing (insertEntry key value es) := by
  induction es with
  | nil => simp [insertEntry]
  | cons a es ih =>
    obtain ⟨ha, hes⟩ := List.pairwise_cons.1 h
    simp only [insertEntry]
    split
    · rename_i hlt
      refine List.pairwise_cons.2 ⟨fun e he => ?_, h⟩
      rcases List.mem_cons.1 he with rfl | he
      · exact hlt
      · exact Std.lt_trans hlt (ha e he)
    · split
      · rename_i heq
        exact List.pairwise_cons.2 ⟨fun e he => heq ▸ ha e he, hes⟩
      · rename_i hlt hne
        refine List.pairwise_cons.2 ⟨fun e he => ?_, ih hes⟩
        rcases fst_mem_insertEntry he with he | he
        · exact he ▸ lt_of_not_lt_of_ne hlt hne
        · exact ha e he

structure KeyMap (α : Type) where
  entries : List (String × α)
  increasing : Increasing entries

namespace KeyMap

variable {α : Type}

def empty : KeyMap α := ⟨[], .nil⟩

def insert (m : KeyMap α) (key : String) (value : α) : KeyMap α :=
  ⟨insertEntry key value m.entries, increasing_insertEntry key value m.increasing⟩

/-- Writes one entry after another. -/
def insertAll (m : KeyMap α) (es : List (String × α)) : KeyMap α :=
  es.foldl (fun m e => m.insert e.1 e.2) m

def ofList (es : List (String × α)) : KeyMap α := empty.insertAll es

def get? (m : KeyMap α) (key : String) : Option α := m.entries.lookup key

def size (m : KeyMap α) : Nat := m.entries.length

def isEmpty (m : KeyMap α) : Bool := m.entries.isEmpty

@[simp] theorem entries_empty : (empty : KeyMap α).entries = [] := rfl

@[simp] theorem get?_empty (key : String) : (empty : KeyMap α).get? key = none := rfl

theorem ext {m n : KeyMap α} (h : m.entries = n.entries) : m = n := by
  cases m; cases n; cases h; rfl

theorem lookup_cons_of_ne {es : List (String × α)} {key k : String} {v : α} (h : key ≠ k) :
    ((k, v) :: es).lookup key = es.lookup key := by
  have hb : (key == k) = false := by simpa using h
  simp [List.lookup_cons, hb]

theorem lookup_insertEntry (es : List (String × α)) (key key' : String) (value : α) :
    (insertEntry key value es).lookup key' = if key' = key then some value else es.lookup key' := by
  induction es with
  | nil => by_cases h : key' = key <;> simp [insertEntry, h, lookup_cons_of_ne]
  | cons e es ih =>
    obtain ⟨k, v⟩ := e
    simp only [insertEntry]
    split
    · by_cases h : key' = key <;> simp [h, lookup_cons_of_ne]
    · split
      · rename_i heq
        subst heq
        by_cases h : key' = key <;> simp [h, lookup_cons_of_ne]
      · rename_i hne
        by_cases h : key' = k
        · subst h; simp [Ne.symm hne]
        · rw [lookup_cons_of_ne h, lookup_cons_of_ne h, ih]

theorem get?_insert (m : KeyMap α) (key key' : String) (value : α) :
    (m.insert key value).get? key' = if key' = key then some value else m.get? key' :=
  lookup_insertEntry m.entries key key' value

/-- The last write to a key counts. -/
theorem get?_insertAll (m : KeyMap α) (es : List (String × α)) (key : String) :
    (m.insertAll es).get? key = (es.reverse.lookup key).or (m.get? key) := by
  induction es generalizing m with
  | nil => rfl
  | cons e es ih =>
    obtain ⟨k, v⟩ := e
    have hcons : m.insertAll ((k, v) :: es) = (m.insert k v).insertAll es := rfl
    rw [hcons, ih, get?_insert, List.reverse_cons, List.lookup_append, Option.or_assoc]
    by_cases hkey : key = k
    · rw [if_pos hkey, hkey, List.lookup_cons_self, Option.some_or]
    · rw [if_neg hkey, lookup_cons_of_ne hkey]
      rfl

theorem get?_ofList (es : List (String × α)) (key : String) :
    (ofList es).get? key = es.reverse.lookup key := by
  rw [ofList, get?_insertAll, get?_empty, Option.or_none]

theorem lookup_eq_none_of_lt {es : List (String × α)} {key : String} (h : ∀ e ∈ es, key < e.1) :
    es.lookup key = none :=
  List.lookup_eq_none_iff.2 fun e he => bne_iff_ne.2 (Std.ne_of_lt (h e he))

/-- The first key of increasing entries is not below the keys of entries with the same lookups. -/
theorem not_lt_of_lookup {k l : String} {v w : α} {es fs : List (String × α)}
    (hl : ∀ f ∈ fs, l < f.1) (h : ((k, v) :: es).lookup k = ((l, w) :: fs).lookup k) : ¬k < l := by
  intro hlt
  have hnone : ((l, w) :: fs).lookup k = none := lookup_eq_none_of_lt
    (List.forall_mem_cons.2 ⟨hlt, fun f hf => Std.lt_trans hlt (hl f hf)⟩)
  rw [hnone, List.lookup_cons_self] at h
  cases h

/-- Increasing entries that are found alike are the same. -/
theorem eq_of_lookup {es fs : List (String × α)} (hes : Increasing es) (hfs : Increasing fs)
    (h : ∀ key, es.lookup key = fs.lookup key) : es = fs := by
  induction es generalizing fs with
  | nil =>
    cases fs with
    | nil => rfl
    | cons f fs =>
      have hf := h f.1
      rw [List.lookup_cons_self] at hf
      cases hf
  | cons e es ih =>
    obtain ⟨k, v⟩ := e
    cases fs with
    | nil =>
      have hk := h k
      rw [List.lookup_cons_self] at hk
      cases hk
    | cons f fs =>
      obtain ⟨l, w⟩ := f
      obtain ⟨hk, hes'⟩ := List.pairwise_cons.1 hes
      obtain ⟨hl, hfs'⟩ := List.pairwise_cons.1 hfs
      have hkey : k = l :=
        Std.le_antisymm (Std.not_lt.1 (not_lt_of_lookup hk (h l).symm))
          (Std.not_lt.1 (not_lt_of_lookup hl (h k)))
      subst hkey
      have hvalue := h k
      rw [List.lookup_cons_self, List.lookup_cons_self] at hvalue
      cases hvalue
      have htail : ∀ key, es.lookup key = fs.lookup key := by
        intro key
        by_cases hkey : key = k
        · rw [hkey, lookup_eq_none_of_lt hk, lookup_eq_none_of_lt hl]
        · have hcons := h key
          rwa [lookup_cons_of_ne hkey, lookup_cons_of_ne hkey] at hcons
      rw [ih hes' hfs' htail]

/-- A map is known by what is found in it. -/
theorem eq_of_get? {m n : KeyMap α} (h : ∀ key, m.get? key = n.get? key) : m = n :=
  ext (eq_of_lookup m.increasing n.increasing h)

end KeyMap

end CypherTemplate
