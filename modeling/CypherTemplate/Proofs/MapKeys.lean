import Mathlib.Data.List.Nodup
import Mathlib.Data.List.Perm.Subperm
import CypherTemplate.Proofs.Literal
import CypherTemplate.Proofs.Segmentation

/-!
What becomes of the entries of a map in its literal. Each key is written by its sanitized form alone, so
keys with one such form are written alike, and of their entries the last one shadows the others where
the literal is read. Nothing is lost just when the keys stay apart.
-/
namespace CypherTemplate

namespace KeyMap

variable {α : Type} {es : List (String × α)}

theorem mem_keys_iff {key : String} : key ∈ es.map Prod.fst ↔ (es.lookup key).isSome := by
  rw [List.lookup_isSome_iff, List.mem_map]
  exact exists_congr fun e => and_congr_right fun _ => by rw [beq_iff_eq, eq_comm]

theorem lookup_of_mem {key : String} {value : α} (h : (es.map Prod.fst).Nodup)
    (he : (key, value) ∈ es) : es.lookup key = some value := by
  induction es with
  | nil => cases he
  | cons f es ih =>
    obtain ⟨hf, hes⟩ := List.nodup_cons.1 h
    rcases List.mem_cons.1 he with rfl | he
    · exact List.lookup_cons_self
    · have hne : key ≠ f.1 := fun heq => hf (heq ▸ List.mem_map_of_mem he)
      rw [lookup_cons_of_ne hne, ih hes he]

/-- A map has the keys of the entries it is made of. -/
theorem mem_keys_ofList {key : String} :
    key ∈ (ofList es).entries.map Prod.fst ↔ key ∈ es.map Prod.fst := by
  have hget := get?_ofList es key
  rw [mem_keys_iff, ← get?, hget, ← mem_keys_iff, List.map_reverse, List.mem_reverse]

theorem nodup_keys (m : KeyMap α) : (m.entries.map Prod.fst).Nodup :=
  List.pairwise_map.2 (m.increasing.imp Std.ne_of_lt)

/-- Entries are lost just when two of them have one key. -/
theorem size_ofList_iff : (ofList es).size = es.length ↔ (es.map Prod.fst).Nodup := by
  have hkeys := (ofList es).nodup_keys
  constructor
  · intro h
    have hperm := (List.subperm_of_subset hkeys fun _ => mem_keys_ofList.1).perm_of_length_le
      (by rw [List.length_map, List.length_map]; exact h.ge)
    exact hperm.nodup_iff.1 hkeys
  · intro h
    have hperm := (List.perm_ext_iff_of_nodup hkeys h).2 fun _ => mem_keys_ofList
    simpa [size] using hperm.length_eq

theorem get?_ofList_of_mem {key : String} {value : α} (h : (es.map Prod.fst).Nodup)
    (he : (key, value) ∈ es) : (ofList es).get? key = some value := by
  rw [get?_ofList]
  exact lookup_of_mem (by rwa [List.map_reverse, List.nodup_reverse]) (List.mem_reverse.2 he)

end KeyMap

theorem isInfix_intercalate {sep x : List Char} {xs : List (List Char)} (h : x ∈ xs) :
    x <:+: sep.intercalate xs := by
  induction xs with
  | nil => cases h
  | cons y ys ih =>
    cases ys with
    | nil =>
      rw [List.intercalate_singleton]
      exact List.mem_singleton.1 h ▸ List.infix_rfl
    | cons z zs =>
      rw [List.intercalate_cons_cons]
      rcases List.mem_cons.1 h with rfl | h
      · exact (List.prefix_append x _).isInfix.trans (List.prefix_append _ _).isInfix
      · exact (ih h).trans (List.suffix_append _ _).isInfix

namespace Value

/-- The maps that occur in a value, at any depth. -/
inductive MapIn (es : List (String × Value)) : Value → Prop where
  | here : MapIn es (.map es)
  | item {items : List Value} {v : Value} : v ∈ items → MapIn es v → MapIn es (.list items)
  | entry {fs : List (String × Value)} {f : String × Value} : f ∈ fs → MapIn es f.2 →
    MapIn es (.map fs)

theorem isInfix_literal_list {v : Value} {items : List Value} (h : v ∈ items) :
    v.literal <:+: (list items).literal := by
  rw [literal_list]
  exact (isInfix_intercalate (List.mem_map_of_mem h)).trans (List.infix_append ['['] _ [']'])

theorem isInfix_literal_map {e : String × Value} {es : List (String × Value)} (h : e ∈ es) :
    e.2.literal <:+: (map es).literal := by
  have hentry : e.2.literal <:+: entryLiteral e :=
    ⟨Name.escape e.1 ++ [':', ' '], [], by simp [entryLiteral]⟩
  rw [literal_map]
  exact (hentry.trans (isInfix_intercalate (List.mem_map_of_mem h))).trans
    (List.infix_append ['\x7b'] _ ['\x7d'])

/-- The literal of a map stands in that of each value the map occurs in. -/
theorem MapIn.isInfix_literal {es : List (String × Value)} {v : Value} (h : MapIn es v) :
    (map es).literal <:+: v.literal := by
  induction h with
  | here => exact List.infix_rfl
  | item hv _ ih => exact ih.trans (isInfix_literal_list hv)
  | entry hf _ ih => exact ih.trans (isInfix_literal_map hf)

mutual
/-- The value with the entries of each map, at any depth, written one after another, the last of each
key counting. -/
def merged : Value → Value
  | .list items => .list (mergedItems items)
  | .map es => ofEntries (mergedEntries es)
  | v => v

def mergedItems : List Value → List Value
  | [] => []
  | v :: vs => v.merged :: mergedItems vs

def mergedEntries : List (String × Value) → List (String × Value)
  | [] => []
  | (key, v) :: es => (key, v.merged) :: mergedEntries es
end

theorem mergedEntries_eq (es : List (String × Value)) :
    mergedEntries es = es.map fun e => (e.1, e.2.merged) := by
  induction es with
  | nil => rfl
  | cons e es ih => rw [mergedEntries, ih, List.map_cons]

/-- The value that a literal stands for: the keys of its maps are the names that are written, and a
later entry of a name shadows an earlier one. -/
def denoted (v : Value) : Value := v.sanitized.merged

theorem denoted_eq_of_literal {v w : Value} (h : v.literal = w.literal) : v.denoted = w.denoted :=
  congrArg merged (sanitized_eq_of_literal h)

/-- An entry with the name of its key and what its value stands for. -/
def denotedEntry (e : String × Value) : String × Value := (Name.sanitized e.1, e.2.denoted)

theorem denoted_map (es : List (String × Value)) :
    (map es).denoted = ofEntries (es.map denotedEntry) := by
  rw [denoted, sanitized_map, merged, mergedEntries_eq, List.map_map]
  rfl

/-- The tokens that are written for the keys of a map. -/
def keyTokens (es : List (String × Value)) : List (List Char) := es.map (Name.escape ·.1)

theorem nodup_keyTokens_iff {es : List (String × Value)} :
    (keyTokens es).Nodup ↔ (es.map (Name.sanitized ·.1)).Nodup := by
  rw [keyTokens, List.Nodup, List.pairwise_map, List.Nodup, List.pairwise_map]
  simp only [ne_eq, Name.escape_eq_iff]

end Value

theorem Query.isInfix_inline {q : Query} {name : List Char} {v : Value}
    (hname : .placeholder name ∈ q.paramStyle.segments q.text.toList)
    (hv : q.parameters.get? (String.ofList name) = some v) : v.literal <:+: q.inline.toList := by
  have hliteral : Segment.inline q.parameters q.paramStyle (.placeholder name) = v.literal := by
    rw [Segment.inline, hv]
  rw [toList_inline, ← hliteral, List.flatMap_def]
  exact List.infix_of_mem_flatten (List.mem_map_of_mem hname)

namespace Value

/-- The literal of a map stands wherever the map is written, and it is read as a map with as many
entries just when the keys stay apart once sanitized: just then their tokens are distinct, and each
entry is found under its name. -/
theorem entries_kept_iff {es : List (String × Value)} {v : Value} (h : MapIn es v) :
    (map es).literal <:+: v.literal ∧
      (∀ (q : Query) (name : List Char), .placeholder name ∈ q.paramStyle.segments q.text.toList →
        q.parameters.get? (String.ofList name) = some v → (map es).literal <:+: q.inline.toList) ∧
      ((keyTokens es).Nodup ↔ (es.map (Name.sanitized ·.1)).Nodup) ∧
      ∃ fs, (∀ w : Value, w.literal = (map es).literal → w.denoted = .map fs) ∧
        (fs.length = es.length ↔ (keyTokens es).Nodup) ∧
        ((keyTokens es).Nodup → ∀ e ∈ es, fs.lookup (Name.sanitized e.1) = some e.2.denoted) := by
  have hkeys : (es.map denotedEntry).map Prod.fst = es.map (Name.sanitized ·.1) := List.map_map
  refine ⟨h.isInfix_literal, fun q name hname hv => ?_, nodup_keyTokens_iff,
    (KeyMap.ofList (es.map denotedEntry)).entries,
    fun w hw => (denoted_eq_of_literal hw).trans (denoted_map es), ?_, fun hnodup e he => ?_⟩
  · exact h.isInfix_literal.trans (Query.isInfix_inline hname hv)
  · rw [nodup_keyTokens_iff, ← hkeys, ← KeyMap.size_ofList_iff, List.length_map, KeyMap.size]
  · rw [nodup_keyTokens_iff, ← hkeys] at hnodup
    have hentry : denotedEntry e ∈ es.map denotedEntry := List.mem_map_of_mem he
    exact KeyMap.get?_ofList_of_mem hnodup hentry

/-- Two keys that stay apart, one of them between backticks. -/
def apart : List (String × Value) := [("first name", .string "Ada"), ("name", .null)]

theorem entries_kept_apart :
    MapIn apart (.list [.map apart]) ∧ (keyTokens apart).Nodup ∧
      ∃ fs, (∀ w : Value, w.literal = (map apart).literal → w.denoted = .map fs) ∧ fs.length = 2 := by
  have hin : MapIn apart (.list [.map apart]) := .item (List.mem_singleton_self _) .here
  have hnodup : (keyTokens apart).Nodup := nodup_keyTokens_iff.2 (by decide +kernel)
  obtain ⟨_, _, _, fs, hdenoted, hlength, _⟩ := entries_kept_iff hin
  exact ⟨hin, hnodup, fs, hdenoted, hlength.2 hnodup⟩

/-- Two keys that only a zero-width space keeps apart. -/
def shadowed : List (String × Value) := [("name", .int 1), ("na\u200bme", .int 2)]

/-- Such keys are written alike, and of their entries one is left. -/
theorem not_nodup_keyTokens_shadowed :
    (map shadowed).Ordered ∧ MapIn shadowed (map shadowed) ∧ ¬(keyTokens shadowed).Nodup ∧
      (map shadowed).denoted = .map [("name", .int 2)] := by
  have hnames : shadowed.map denotedEntry = [("name", .int 1), ("name", .int 2)] := by
    have hplain : Name.sanitized "name" = "name" := by decide +kernel
    have hspaced : Name.sanitized "na\u200bme" = "name" := by decide +kernel
    simp [shadowed, denotedEntry, hplain, hspaced, denoted, sanitized, merged]
  refine ⟨⟨?_, trivial, trivial, trivial⟩, .here, mt nodup_keyTokens_iff.1 ?_, ?_⟩
  · decide
  · decide +kernel
  · rw [denoted_map, hnames]
    rfl

end Value

end CypherTemplate
