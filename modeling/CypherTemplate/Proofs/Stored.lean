import CypherTemplate.Codec.Value
import CypherTemplate.Proofs.Induction
import CypherTemplate.Proofs.InvertibleRecord

/-!
What stays of a value that is written and read again: doubles without a written form become null, and
maps are put in order. Ordered values of finite doubles stay as they are.
-/
namespace CypherTemplate

section

variable {α : Type} {key : String} {value : α} {es : List (String × α)}

theorem mem_of_mem_insertEntry {e : String × α} (h : e ∈ insertEntry key value es) :
    e = (key, value) ∨ e ∈ es := by
  induction es with
  | nil => simpa [insertEntry] using h
  | cons a es ih =>
    simp only [insertEntry] at h
    split at h
    · exact List.mem_cons.1 h
    · split at h
      · exact (List.mem_cons.1 h).imp_right (List.mem_cons_of_mem a)
      · rcases List.mem_cons.1 h with rfl | h
        · exact .inr List.mem_cons_self
        · exact (ih h).imp_right (List.mem_cons_of_mem a)

/-- A greatest key is put at the end. -/
theorem insertEntry_of_lt (h : ∀ e ∈ es, e.1 < key) :
    insertEntry key value es = es ++ [(key, value)] := by
  induction es with
  | nil => rfl
  | cons a es ih =>
    obtain ⟨ha, hes⟩ := List.forall_mem_cons.1 h
    have hne : key ≠ a.1 := by
      intro heq
      rw [heq] at ha
      exact Std.lt_irrefl ha
    have hlt : ¬key < a.1 := fun h => Std.lt_irrefl (Std.lt_trans ha h)
    rw [insertEntry, if_neg hlt, if_neg hne, ih hes, List.cons_append]

end

namespace KeyMap

variable {α : Type}

theorem mem_of_mem_insertAll {es : List (String × α)} {m : KeyMap α} {e : String × α}
    (h : e ∈ (m.insertAll es).entries) : e ∈ m.entries ∨ e ∈ es := by
  induction es generalizing m with
  | nil => exact .inl h
  | cons a es ih =>
    rcases ih h with h | h
    · rcases mem_of_mem_insertEntry h with rfl | h
      · exact .inr List.mem_cons_self
      · exact .inl h
    · exact .inr (List.mem_cons_of_mem a h)

theorem mem_of_mem_ofList {es : List (String × α)} {e : String × α}
    (h : e ∈ (ofList es).entries) : e ∈ es :=
  (mem_of_mem_insertAll h).resolve_left (by simp)

theorem entries_insertAll {es : List (String × α)} {m : KeyMap α}
    (h : Increasing (m.entries ++ es)) : (m.insertAll es).entries = m.entries ++ es := by
  induction es generalizing m with
  | nil => exact (List.append_nil _).symm
  | cons a es ih =>
    have hlt : ∀ e ∈ m.entries, e.1 < a.1 := by
      intro e he
      exact (List.pairwise_append.1 h).2.2 e he a List.mem_cons_self
    have hinsert : (m.insert a.1 a.2).entries = m.entries ++ [a] := insertEntry_of_lt hlt
    have happend : (m.insert a.1 a.2).entries ++ es = m.entries ++ a :: es := by
      rw [hinsert, List.append_assoc, List.singleton_append]
    rw [← happend] at h ⊢
    exact ih h

/-- Entries are those of their map if they are in order. -/
theorem entries_ofList_iff {es : List (String × α)} : (ofList es).entries = es ↔ Increasing es := by
  constructor
  · intro h
    rw [← h]
    exact (ofList es).increasing
  · intro h
    exact entries_insertAll h

theorem ofList_entries (m : KeyMap α) : ofList m.entries = m :=
  ext (entries_ofList_iff.2 m.increasing)

/-- Entries stay as they are under a change of values if they are in order and no value changes. -/
theorem entries_ofList_map_iff {es : List (String × α)} {f : α → α} :
    (ofList (es.map fun e => (e.1, f e.2))).entries = es ↔ Increasing es ∧ ∀ e ∈ es, f e.2 = e.2 := by
  have hkeys : Increasing (es.map fun e => (e.1, f e.2)) ↔ Increasing es := List.pairwise_map
  constructor
  · intro h
    have hes : Increasing es := by
      rw [← h]
      exact (ofList _).increasing
    rw [entries_ofList_iff.2 (hkeys.2 hes), map_eq_self_iff] at h
    exact ⟨hes, fun e he => congrArg Prod.snd (h e he)⟩
  · intro h
    rw [entries_ofList_iff.2 (hkeys.2 h.1), map_eq_self_iff]
    exact fun e he => Prod.ext rfl (h.2 e he)

end KeyMap

namespace Value

mutual
/-- The value that is read of what a value is written as. -/
def stored : Value → Value
  | .double d => if d.isFinite then .double d else .null
  | .list items => .list (storedItems items)
  | .map entries => ofEntries (storedEntries entries)
  | v => v

def storedItems : List Value → List Value
  | [] => []
  | v :: vs => v.stored :: storedItems vs

def storedEntries : List (String × Value) → List (String × Value)
  | [] => []
  | (key, v) :: es => (key, v.stored) :: storedEntries es
end

mutual
/-- Whether every double in a value has a written form. -/
def Finite : Value → Prop
  | .double d => d.isFinite
  | .list items => FiniteItems items
  | .map entries => FiniteEntries entries
  | _ => True

def FiniteItems : List Value → Prop
  | [] => True
  | v :: vs => v.Finite ∧ FiniteItems vs

def FiniteEntries : List (String × Value) → Prop
  | [] => True
  | (_, v) :: es => v.Finite ∧ FiniteEntries es
end

theorem storedItems_eq (items : List Value) : storedItems items = items.map stored := by
  induction items with
  | nil => rfl
  | cons v vs ih => rw [storedItems, ih, List.map_cons]

theorem storedEntries_eq (es : List (String × Value)) :
    storedEntries es = es.map fun e => (e.1, e.2.stored) := by
  induction es with
  | nil => rfl
  | cons e es ih => rw [storedEntries, ih, List.map_cons]

theorem itemsToJson_eq (items : List Value) : itemsToJson items = items.map toJson := by
  induction items with
  | nil => rfl
  | cons v vs ih => rw [itemsToJson, ih, List.map_cons]

theorem entriesToJson_eq (es : List (String × Value)) :
    entriesToJson es = es.map fun e => (e.1, e.2.toJson) := by
  induction es with
  | nil => rfl
  | cons e es ih => rw [entriesToJson, ih, List.map_cons]

theorem finiteItems_iff {items : List Value} : FiniteItems items ↔ ∀ v ∈ items, v.Finite := by
  induction items with
  | nil => simp [FiniteItems]
  | cons v vs ih => rw [FiniteItems, ih, List.forall_mem_cons]

theorem finiteEntries_iff {es : List (String × Value)} :
    FiniteEntries es ↔ ∀ e ∈ es, e.2.Finite := by
  induction es with
  | nil => simp [FiniteEntries]
  | cons e es ih => rw [FiniteEntries, ih, List.forall_mem_cons]

theorem orderedItems_iff {items : List Value} : OrderedItems items ↔ ∀ v ∈ items, v.Ordered := by
  induction items with
  | nil => simp [OrderedItems]
  | cons v vs ih => rw [OrderedItems, ih, List.forall_mem_cons]

theorem orderedEntries_iff {es : List (String × Value)} :
    OrderedEntries es ↔ ∀ e ∈ es, e.2.Ordered := by
  induction es with
  | nil => simp [OrderedEntries]
  | cons e es ih => rw [OrderedEntries, ih, List.forall_mem_cons]

/-- Ordered values of finite doubles, and no others, stay as they are. -/
theorem stored_eq_self_iff (v : Value) : v.stored = v ↔ v.Ordered ∧ v.Finite := by
  induction v with
  | null => simp [stored, Ordered, Finite]
  | bool b => simp [stored, Ordered, Finite]
  | int i => simp [stored, Ordered, Finite]
  | double d => simp [stored, Ordered, Finite]
  | string s => simp [stored, Ordered, Finite]
  | list items ih =>
    rw [stored, Ordered, Finite, storedItems_eq, orderedItems_iff, finiteItems_iff, list.injEq,
      map_eq_self_iff, ← forall₂_and]
    exact forall₂_congr ih
  | map es ih =>
    rw [stored, Ordered, Finite, storedEntries_eq, orderedEntries_iff, finiteEntries_iff, and_assoc,
      ← forall₂_and, ofEntries, map.injEq, KeyMap.entries_ofList_map_iff]
    exact and_congr_right fun _ => forall₂_congr ih

end Value

namespace KeyMap

/-- The map that is read of what a map of values is written as. -/
def stored (m : KeyMap Value) : KeyMap Value :=
  ofList (m.entries.map fun e => (e.1, e.2.stored))

theorem toJson_eq (m : KeyMap Value) :
    m.toJson = .record (m.entries.map fun e => (e.1, e.2.toJson)) := by
  rw [toJson, Value.entriesToJson_eq]

/-- Whether all maps in the values of a map are in order. -/
def Ordered (m : KeyMap Value) : Prop := ∀ e ∈ m.entries, e.2.Ordered

/-- Whether all doubles in the values of a map are finite. -/
def Finite (m : KeyMap Value) : Prop := ∀ e ∈ m.entries, e.2.Finite

theorem stored_eq_self_iff (m : KeyMap Value) : m.stored = m ↔ m.Ordered ∧ m.Finite := by
  have hentries : m.stored.entries = m.entries ↔ m.Ordered ∧ m.Finite := by
    rw [stored, entries_ofList_map_iff, and_iff_right m.increasing, Ordered, Finite, ← forall₂_and]
    exact forall₂_congr fun e _ => e.2.stored_eq_self_iff
  rw [← hentries]
  exact ⟨congrArg entries, ext⟩

/-- Only entries of a list are in its map, so nothing in the map is too deep. -/
theorem settles_ofList {n : Nat} {es : List (String × Value)}
    (hdepth : (Json.record (es.map fun e => (e.1, e.2.toJson))).depth ≤ n)
    (hkept : (es.map fun e => (e.1, e.2.stored)) = es) :
    (ofList es).toJson.depth ≤ n ∧ (ofList es).stored = ofList es := by
  have hmem : ∀ e ∈ (ofList es).entries, e ∈ es := fun e => mem_of_mem_ofList
  rw [map_eq_self_iff] at hkept
  constructor
  · rw [toJson_eq]
    cases n with
    | zero => cases hdepth
    | succ n =>
      apply Nat.succ_le_succ
      have hall := Json.membersDepth_le_iff.1 (Nat.le_of_succ_le_succ hdepth)
      rw [List.forall_mem_map] at hall
      rw [Json.membersDepth_le_iff, List.forall_mem_map]
      exact fun e he => hall e (hmem e he)
  · rw [stored, map_eq_self_iff.2 fun e he => hkept e (hmem e he), ofList_entries]

end KeyMap

namespace Value

theorem toJson_list (items : List Value) : (list items).toJson = .list (items.map toJson) := by
  rw [toJson, itemsToJson_eq]

theorem toJson_map (es : List (String × Value)) :
    (map es).toJson = .record (es.map fun e => (e.1, e.2.toJson)) := by
  rw [toJson, entriesToJson_eq]

theorem stored_list (items : List Value) : (list items).stored = .list (items.map stored) := by
  rw [stored, storedItems_eq]

theorem stored_map (es : List (String × Value)) :
    (map es).stored = ofEntries (es.map fun e => (e.1, e.2.stored)) := by
  rw [stored, storedEntries_eq]

theorem ofNumber_toInt (i : Int64) : ofNumber (.whole i.toInt) = .ok (.int i) := by
  have hfits : (Int64.minValue.toInt ≤ i.toInt && i.toInt ≤ Int64.maxValue.toInt) = true := by
    simpa using ⟨i.minValue_le_toInt, i.toInt_le⟩
  rw [ofNumber, if_pos hfits, Int64.ofInt_toInt]

variable [DoubleReader]

theorem read_toInt (i : Int64) : (Numeral.ofInt i.toInt).read = .ok (.whole i.toInt) := by
  have hlow := i.le_toInt
  have hhigh := i.toInt_lt
  have hsize : UInt64.size = 18446744073709551616 := rfl
  exact Numeral.read_ofInt (by omega) (by omega)

/-- A value that is read from a written one. -/
theorem reads_toJson {level : Nat} (ih : (decoder level).Inverts level toJson stored) (v : Value)
    {n : Nat} (hn : n < level + 1) {o : Outline} (ho : v.toJson.HasOutline o) :
    decoder (level + 1) n o = Decoder.fit (v.toJson.depth ≤ n) v.stored := by
  have hflat : ∀ w : Value, Decoder.fit (0 ≤ n) w = .ok w := Decoder.fit_of (Nat.zero_le n)
  cases v with
  | null =>
    cases ho
    exact (hflat _).symm
  | bool b =>
    cases ho
    exact (hflat _).symm
  | int i =>
    cases ho
    change (do ofNumber (← (Numeral.ofInt i.toInt).read)) = _
    rw [read_toInt, Decoder.ok_bind, ofNumber_toInt]
    exact (hflat _).symm
  | double d =>
    rw [toJson] at ho
    cases ho with
    | double hread =>
      change (do ofNumber (← Numeral.read _)) = _
      rw [hread, Decoder.ok_bind]
      exact (hflat _).symm
    | unwritten hd =>
      rw [stored, if_neg (by simp [hd])]
      exact (hflat _).symm
  | string s =>
    rw [toJson] at ho
    cases ho with
    | string hread =>
      change string <$> WrittenString.read _ = _
      rw [hread]
      exact (hflat _).symm
  | list items =>
    rw [toJson_list] at ho ⊢
    have hread := (Decoder.inverts_list ih).reads items n hn o ho
    cases ho with
    | list hos =>
      change list <$> Decoder.list (decoder level) n _ = _
      rw [hread, Decoder.map_fit, stored_list]
  | map es =>
    rw [toJson_map] at ho ⊢
    have hread := (Decoder.inverts_map ih).reads es n hn o ho
    cases ho with
    | record hos =>
      change ofEntries <$> Decoder.map (decoder level) n _ = _
      rw [hread, Decoder.map_fit, stored_map]

theorem isFinite_of_read {m : Numeral} {d : Double} (h : m.read = .ok (.double d)) : d.isFinite := by
  unfold Numeral.read at h
  split at h
  · cases h
  · split at h
    · cases h
    · unfold Numeral.readDouble at h
      split at h
      · cases h
        rfl
      · cases h

theorem settles_ofNumber {m : Numeral} {v : Value} (n : Nat)
    (h : (do ofNumber (← m.read)) = .ok v) : v.toJson.depth ≤ n ∧ v.stored = v := by
  obtain ⟨number, hnumber, hvalue⟩ := Decoder.bind_eq_ok h
  cases number with
  | whole i =>
    rw [ofNumber] at hvalue
    split at hvalue
    · cases hvalue
      exact ⟨Nat.zero_le n, rfl⟩
    · cases hvalue
  | double d =>
    cases hvalue
    exact ⟨Nat.zero_le n, if_pos (isFinite_of_read hnumber)⟩

/-- Values that were read stay as they are. -/
theorem inverts_decoder (level : Nat) : (decoder level).Inverts level toJson stored := by
  -- The budget falls with the level, so a level above it at first never runs out before it.
  induction level with
  | zero => exact ⟨nofun, nofun⟩
  | succ level ih =>
    refine ⟨fun v n hn o ho => reads_toJson ih v hn ho, fun n o v hread => ?_⟩
    cases o with
    | null =>
      cases hread
      exact ⟨Nat.zero_le n, rfl⟩
    | bool b =>
      cases hread
      exact ⟨Nat.zero_le n, rfl⟩
    | number m => exact settles_ofNumber n hread
    | string w =>
      obtain ⟨s, _, rfl⟩ := Decoder.map_eq_ok hread
      exact ⟨Nat.zero_le n, rfl⟩
    | list os ending =>
      obtain ⟨items, hitems, rfl⟩ := Decoder.map_eq_ok hread
      rw [toJson_list, stored_list, list.injEq]
      exact (Decoder.inverts_list ih).settles n _ items hitems
    | record os ending =>
      obtain ⟨es, hes, rfl⟩ := Decoder.map_eq_ok hread
      obtain ⟨hdepth, hkept⟩ := (Decoder.inverts_map ih).settles n _ es hes
      obtain ⟨hmap, hstored⟩ := KeyMap.settles_ofList hdepth hkept
      refine ⟨hmap, ?_⟩
      rw [ofEntries, stored_map]
      exact congrArg (fun m => map (KeyMap.entries m)) hstored
    | fault f => cases hread

end Value

/-- Maps that were read stay as they are. -/
theorem KeyMap.inverts_decoder [DoubleReader] :
    KeyMap.decoder.Inverts (Value.maxLevel + 1) KeyMap.toJson KeyMap.stored where
  reads := by
    intro m n hn o ho
    rw [toJson_eq] at ho ⊢
    have hentries := Decoder.inverts_map (Value.inverts_decoder Value.maxLevel)
    have hread := hentries.reads m.entries n hn o ho
    rw [decoder, Decoder.as, hread, Decoder.map_fit, stored]
  settles := by
    intro n o m hread
    obtain ⟨es, hes, rfl⟩ := Decoder.map_eq_ok hread
    have hentries := Decoder.inverts_map (Value.inverts_decoder Value.maxLevel)
    obtain ⟨hdepth, hkept⟩ := hentries.settles n o es hes
    exact settles_ofList hdepth hkept

end CypherTemplate
