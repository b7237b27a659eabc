import Mathlib.Data.Finset.Card
import CypherTemplate.Proofs.MapKeys
import CypherTemplate.Proofs.WholeNumber
import CypherTemplate.Query.Compile

/-!
How contexts come about. A context is what its history has written, the last write to each key
counting: be it built by insertions one by one or many at once, collected from entries, or read from
a text, whose members are writes in the order of the text. The maps in a text are read alike at
every depth. Histories with the same last writes are not told apart.
-/
namespace CypherTemplate

variable {α : Type}

/-- Whether the last write to a key writes a value. -/
def LastWrite (es : List (String × α)) (key : String) (value : α) : Prop :=
  ∃ front back, es = front ++ (key, value) :: back ∧ key ∉ back.map Prod.fst

/-- Whether a map is what is left of some writes. -/
structure LastWins (es : List (String × α)) (m : KeyMap α) : Prop where
  found : ∀ key value, m.get? key = some value ↔ LastWrite es key value
  absent : ∀ key, m.get? key = none ↔ key ∉ es.map Prod.fst
  size : m.size = (es.map Prod.fst).toFinset.card
  /-- The entries are those that are found, in the order of the code points of their keys. -/
  entries : ∀ key value, (key, value) ∈ m.entries ↔ LastWrite es key value
  increasing : m.entries.Pairwise fun a b => a.1.toList < b.1.toList

theorem lastWrite_iff {es : List (String × α)} {key : String} {value : α} :
    LastWrite es key value ↔ es.reverse.lookup key = some value := by
  rw [List.lookup_eq_some_iff]
  constructor
  · rintro ⟨front, back, rfl, hback⟩
    refine ⟨back.reverse, front.reverse, by simp, fun p hp => ?_⟩
    have hne : key ≠ p.1 := fun heq => hback (heq ▸ List.mem_map_of_mem (List.mem_reverse.1 hp))
    exact bne_iff_ne.2 hne
  · rintro ⟨later, earlier, hes, hlater⟩
    refine ⟨earlier.reverse, later.reverse, by rw [← es.reverse_reverse, hes]; simp, fun hkey => ?_⟩
    obtain ⟨p, hp, rfl⟩ := List.mem_map.1 hkey
    exact bne_iff_ne.1 (hlater p (List.mem_reverse.1 hp)) rfl

namespace KeyMap

theorem mem_entries_iff {m : KeyMap α} {key : String} {value : α} :
    (key, value) ∈ m.entries ↔ m.get? key = some value := by
  refine ⟨lookup_of_mem m.nodup_keys, fun h => ?_⟩
  obtain ⟨front, back, hentries, _⟩ := List.lookup_eq_some_iff.1 h
  rw [hentries]
  exact List.mem_append_right front List.mem_cons_self

theorem ofList_append (es fs : List (String × α)) : ofList (es ++ fs) = (ofList es).insertAll fs :=
  List.foldl_append

theorem lastWins_ofList (es : List (String × α)) : LastWins es (ofList es) where
  found key value := by rw [get?_ofList, lastWrite_iff]
  absent key := by
    rw [← mem_keys_ofList, mem_keys_iff, ← get?]
    cases (ofList es).get? key <;> simp
  size := by
    have hkeys : (es.map Prod.fst).toFinset = ((ofList es).entries.map Prod.fst).toFinset :=
      Finset.ext fun key => by rw [List.mem_toFinset, List.mem_toFinset, mem_keys_ofList]
    rw [hkeys, List.toFinset_card_of_nodup (ofList es).nodup_keys, List.length_map, size]
  entries key value := by rw [mem_entries_iff, get?_ofList, lastWrite_iff]
  increasing := (ofList es).increasing

end KeyMap

namespace Outline

variable [DoubleReader]

mutual
/-- The value that an outline stands for, at any depth and however many brackets are open. -/
def value? : Outline → Option Value
  | .null => some .null
  | .bool b => some (.bool b)
  | .number n => (n.read >>= Value.ofNumber).toOption
  | .string s => s.read.toOption.map .string
  | .list os .closed => (items? os).map .list
  | .record ms .closed => (members? ms).map .ofEntries
  | _ => none

def items? : List Outline → Option (List Value)
  | [] => some []
  | o :: os => return (← o.value?) :: (← items? os)

/-- The members of a record in the order of the text, as writes of values to their names. -/
def members? : List (Outline × Outline) → Option (List (String × Value))
  | [] => some []
  | (key, o) :: ms => return (← key.readKey.toOption, ← o.value?) :: (← members? ms)
end

/-- Whether a record stands somewhere in an outline. -/
inductive RecordIn (ms : List (Outline × Outline)) : Outline → Prop where
  | here {ending : Ending} : RecordIn ms (.record ms ending)
  | item {o : Outline} {os : List Outline} {ending : Ending} :
    o ∈ os → RecordIn ms o → RecordIn ms (.list os ending)
  | member {m : Outline × Outline} {ns : List (Outline × Outline)} {ending : Ending} :
    m ∈ ns → RecordIn ms m.2 → RecordIn ms (.record ns ending)

theorem exists_of_mem_items? {os : List Outline} {vs : List Value} (h : items? os = some vs)
    {v : Value} (hv : v ∈ vs) : ∃ o ∈ os, o.value? = some v := by
  induction os generalizing vs with
  | nil =>
    cases h
    cases hv
  | cons o os ih =>
    obtain ⟨w, hw, h⟩ := Option.bind_eq_some_iff.1 h
    obtain ⟨ws, hws, h⟩ := Option.bind_eq_some_iff.1 h
    cases h
    rcases List.mem_cons.1 hv with rfl | hv
    · exact ⟨o, List.mem_cons_self, hw⟩
    · obtain ⟨o', ho', hread⟩ := ih hws hv
      exact ⟨o', List.mem_cons_of_mem o ho', hread⟩

theorem exists_of_mem_members? {ms : List (Outline × Outline)} {es : List (String × Value)}
    (h : members? ms = some es) {e : String × Value} (he : e ∈ es) :
    ∃ m ∈ ms, m.2.value? = some e.2 := by
  induction ms generalizing es with
  | nil =>
    cases h
    cases he
  | cons m ms ih =>
    obtain ⟨key, hkey, h⟩ := Option.bind_eq_some_iff.1 h
    obtain ⟨w, hw, h⟩ := Option.bind_eq_some_iff.1 h
    obtain ⟨fs, hfs, h⟩ := Option.bind_eq_some_iff.1 h
    cases h
    rcases List.mem_cons.1 he with rfl | he
    · exact ⟨m, List.mem_cons_self, hw⟩
    · obtain ⟨m', hm', hread⟩ := ih hfs he
      exact ⟨m', List.mem_cons_of_mem m hm', hread⟩

end Outline

namespace Decoder

variable [DoubleReader]

theorem items?_of_items {read : Outline → Except JsonError Value} {ending : Ending}
    (hread : ∀ o v, read o = .ok v → o.value? = some v) {os : List Outline} {vs : List Value}
    (h : items read ending os = .ok vs) : ending = .closed ∧ Outline.items? os = some vs := by
  induction os generalizing vs with
  | nil =>
    obtain ⟨_, hend, h⟩ := bind_eq_ok h
    cases h
    cases ending <;> first | exact ⟨rfl, rfl⟩ | cases hend
  | cons o os ih =>
    obtain ⟨v, hv, h⟩ := bind_eq_ok h
    obtain ⟨ws, hws, h⟩ := bind_eq_ok h
    cases h
    obtain ⟨rfl, hitems⟩ := ih hws
    refine ⟨rfl, ?_⟩
    rw [Outline.items?, hread o v hv, hitems]
    rfl

theorem members?_of_members {read : Outline → Except JsonError Value} {ending : Ending}
    (hread : ∀ o v, read o = .ok v → o.value? = some v) {ms : List (Outline × Outline)}
    {es : List (String × Value)} (h : members read ending ms = .ok es) :
    ending = .closed ∧ Outline.members? ms = some es := by
  induction ms generalizing es with
  | nil =>
    obtain ⟨_, hend, h⟩ := bind_eq_ok h
    cases h
    cases ending <;> first | exact ⟨rfl, rfl⟩ | cases hend
  | cons m ms ih =>
    obtain ⟨key, o⟩ := m
    obtain ⟨name, hname, h⟩ := bind_eq_ok h
    obtain ⟨v, hv, h⟩ := bind_eq_ok h
    obtain ⟨fs, hfs, h⟩ := bind_eq_ok h
    cases h
    obtain ⟨rfl, hmembers⟩ := ih hfs
    refine ⟨rfl, ?_⟩
    rw [Outline.members?, hname, hread o v hv, hmembers]
    rfl

end Decoder

namespace Value

variable [DoubleReader]

/-- What is read, within whatever bounds, is what the outline stands for. -/
theorem value?_of_decoder {level budget : Nat} {o : Outline} {v : Value}
    (h : decoder level budget o = .ok v) : o.value? = some v := by
  induction level generalizing budget o v with
  | zero => cases h
  | succ level ih =>
    cases o with
    | null => cases h; rfl
    | bool b => cases h; rfl
    | number n => rw [Outline.value?, show (n.read >>= ofNumber) = .ok v from h]; rfl
    | string s =>
      obtain ⟨text, htext, rfl⟩ := Decoder.map_eq_ok h
      rw [Outline.value?, htext]
      rfl
    | list os ending =>
      obtain ⟨vs, hvs, rfl⟩ := Decoder.map_eq_ok h
      obtain ⟨n, _, hitems⟩ := Decoder.exists_of_within hvs
      obtain ⟨rfl, hread⟩ := Decoder.items?_of_items (fun _ _ => ih) hitems
      rw [Outline.value?, hread]
      rfl
    | record ms ending =>
      obtain ⟨es, hes, rfl⟩ := Decoder.map_eq_ok h
      obtain ⟨n, _, hmembers⟩ := Decoder.exists_of_within hes
      obtain ⟨rfl, hread⟩ := Decoder.members?_of_members (fun _ _ => ih) hmembers
      rw [Outline.value?, hread]
      rfl
    | fault f => cases h

/-- Whether a value has no parts. -/
def isScalar : Value → Bool
  | .list _ | .map _ => false
  | _ => true

theorem isScalar_of_number {n : Numeral} {v : Value} (h : (n.read >>= ofNumber).toOption = some v) :
    v.isScalar := by
  cases hread : n.read with
  | error err =>
    rw [hread] at h
    cases h
  | ok m =>
    rw [hread, Decoder.ok_bind] at h
    cases m with
    | double d =>
      cases h
      rfl
    | whole i =>
      rw [ofNumber] at h
      split at h <;> cases h
      rfl

/-- Lists and maps come of lists and records that are closed. -/
theorem value?_cases {o : Outline} {v : Value} (h : o.value? = some v) :
    v.isScalar ∨
      (∃ os vs, o = .list os .closed ∧ Outline.items? os = some vs ∧ v = .list vs) ∨
      ∃ ms es, o = .record ms .closed ∧ Outline.members? ms = some es ∧ v = .ofEntries es := by
  cases o with
  | number n => exact .inl (isScalar_of_number h)
  | string s =>
    obtain ⟨_, _, rfl⟩ := Option.map_eq_some_iff.1 h
    exact .inl rfl
  | list os ending =>
    cases ending with
    | closed =>
      obtain ⟨vs, hitems, rfl⟩ := Option.map_eq_some_iff.1 h
      exact .inr (.inl ⟨os, vs, rfl, hitems, rfl⟩)
    | _ => cases h
  | record ms ending =>
    cases ending with
    | closed =>
      obtain ⟨es, hmembers, rfl⟩ := Option.map_eq_some_iff.1 h
      exact .inr (.inr ⟨ms, es, rfl, hmembers, rfl⟩)
    | _ => cases h
  | fault f => cases h
  | _ =>
    cases h
    exact .inl rfl

theorem outline_of_list {o : Outline} {vs : List Value} (h : o.value? = some (.list vs)) :
    ∃ os, o = .list os .closed ∧ Outline.items? os = some vs := by
  rcases value?_cases h with hscalar | ⟨os, _, ho, hitems, heq⟩ | ⟨_, _, _, _, heq⟩
  · cases hscalar
  · cases heq
    exact ⟨os, ho, hitems⟩
  · cases heq

theorem outline_of_map {o : Outline} {fs : List (String × Value)} (h : o.value? = some (.map fs)) :
    ∃ ms es, o = .record ms .closed ∧ Outline.members? ms = some es ∧
      fs = (KeyMap.ofList es).entries := by
  rcases value?_cases h with hscalar | ⟨_, _, _, _, heq⟩ | ⟨ms, es, ho, hmembers, heq⟩
  · cases hscalar
  · cases heq
  · cases heq
    exact ⟨ms, es, ho, hmembers, rfl⟩

/-- Each map in a value is what the members of a record in the outline have written. -/
theorem MapIn.exists_record {fs : List (String × Value)} {o : Outline} {v : Value} (h : MapIn fs v)
    (ho : o.value? = some v) : ∃ ms es, o.RecordIn ms ∧ Outline.members? ms = some es ∧
      fs = (KeyMap.ofList es).entries := by
  induction h generalizing o with
  | here =>
    obtain ⟨ms, es, rfl, hmembers, hfs⟩ := outline_of_map ho
    exact ⟨ms, es, .here, hmembers, hfs⟩
  | item hv _ ih =>
    obtain ⟨os, rfl, hitems⟩ := outline_of_list ho
    obtain ⟨o', ho', hread⟩ := Outline.exists_of_mem_items? hitems hv
    obtain ⟨ms, es, hin, hmembers, hfs⟩ := ih hread
    exact ⟨ms, es, .item ho' hin, hmembers, hfs⟩
  | entry hf _ ih =>
    obtain ⟨ns, gs, rfl, hmembers, rfl⟩ := outline_of_map ho
    obtain ⟨m, hm, hread⟩ := Outline.exists_of_mem_members? hmembers (KeyMap.mem_of_mem_ofList hf)
    obtain ⟨ms, es, hin, hmembers, hfs⟩ := ih hread
    exact ⟨ms, es, .member hm hin, hmembers, hfs⟩

end Value

namespace Context

theorem selects_iff {es : List (String × Value)} {ctx : Context} (h : LastWins es ctx)
    (key : String) :
    ctx.selects key ↔ ∃ v, LastWrite es key v ∧ v ≠ .null ∧ v ≠ .bool false := by
  have hselecting : ∀ v : Value, v.isSelecting ↔ v ≠ .null ∧ v ≠ .bool false := by
    intro v
    unfold Value.isSelecting
    split <;> simp_all
  rw [selects, Option.any_eq_true]
  exact exists_congr fun v => and_congr (h.found key v) (hselecting v)

/-- Histories come to one context just when their last writes are the same. -/
theorem eq_iff_of_lastWins {es fs : List (String × Value)} {ctx ctx' : Context}
    (h : LastWins es ctx) (h' : LastWins fs ctx') :
    ctx = ctx' ↔ ∀ key value, LastWrite es key value ↔ LastWrite fs key value := by
  constructor
  · rintro rfl key value
    rw [← h.found, h'.found]
  · intro hlast
    refine KeyMap.eq_of_get? fun key => Option.ext fun value => ?_
    exact (h.found key value).trans ((hlast key value).trans (h'.found key value).symm)

section

variable [DoubleReader]

/-- The members of a text that is a record, in the order of the text. -/
def textWrites? (text : String) : Option (List (String × Value)) :=
  match (Outline.ofChars text.toList).1 with
  | .record ms .closed => Outline.members? ms
  | _ => none

/-- How a context comes about, and the writes of its history. -/
inductive BuiltBy : List (String × Value) → Context → Prop where
  | empty : BuiltBy [] .empty
  | insert {es : List (String × Value)} {ctx : Context} (h : BuiltBy es ctx) (key : String)
    (value : Value) : BuiltBy (es ++ [(key, value)]) (ctx.insert key value)
  | extend {es : List (String × Value)} {ctx : Context} (h : BuiltBy es ctx)
    (fs : List (String × Value)) : BuiltBy (es ++ fs) (ctx.insertAll fs)
  | collect (es : List (String × Value)) : BuiltBy es (.ofList es)
  | read {text : String} {es : List (String × Value)} {ctx : Context} (h : ofJson text = .ok ctx)
    (hes : textWrites? text = some es) : BuiltBy es ctx

/-- What is read of a text is what its members write. -/
theorem exists_textWrites {text : String} {ctx : Context} (h : ofJson text = .ok ctx) :
    ∃ es, textWrites? text = some es ∧ ctx = .ofList es := by
  obtain ⟨level, hread⟩ := Value.exists_decoder_of_isReadFrom (.context h)
  obtain ⟨ms, es, hscan, hmembers, hentries⟩ := Value.outline_of_map (Value.value?_of_decoder hread)
  refine ⟨es, ?_, KeyMap.ext hentries⟩
  rw [textWrites?, hscan]
  exact hmembers

/-- Each step of a history writes what is added to its writes. -/
theorem BuiltBy.eq_ofList {es : List (String × Value)} {ctx : Context} (h : BuiltBy es ctx) :
    ctx = .ofList es := by
  induction h with
  | empty => rfl
  | insert _ key value ih => exact (ih ▸ KeyMap.ofList_append _ [(key, value)]).symm
  | extend _ fs ih => exact (ih ▸ KeyMap.ofList_append _ fs).symm
  | collect es => rfl
  | read h hes =>
    obtain ⟨fs, hfs, hctx⟩ := exists_textWrites h
    rw [hctx, Option.some.inj (hes.symm.trans hfs)]

/-- A context is a finite map in which the last write to each key counts, however it is built and
whatever is written to it; each text that is accepted builds one, and so do the records in it at
every depth. A history shows in nothing but its last writes. -/
theorem builtBy_lastWins :
    (∀ {es : List (String × Value)} {ctx : Context}, BuiltBy es ctx → LastWins es ctx ∧
      ∀ key, ctx.selects key ↔ ∃ v, LastWrite es key v ∧ v ≠ .null ∧ v ≠ .bool false) ∧
    (∀ {text : String} {ctx : Context}, ofJson text = .ok ctx →
      (∃ es, textWrites? text = some es ∧ BuiltBy es ctx) ∧
      ∀ fs, Value.MapIn fs (.map ctx.entries) → ∃ ms es, ∃ m : KeyMap Value,
        (Outline.ofChars text.toList).1.RecordIn ms ∧ Outline.members? ms = some es ∧
          LastWins es m ∧ fs = m.entries) ∧
    ∀ {es fs : List (String × Value)} {ctx ctx' : Context}, BuiltBy es ctx → BuiltBy fs ctx' →
      (ctx = ctx' ↔ ∀ key value, LastWrite es key value ↔ LastWrite fs key value) ∧
      ((∀ key value, LastWrite es key value ↔ LastWrite fs key value) →
        ctx = ctx' ∧ ctx.toJson.compact = ctx'.toJson.compact ∧
          ∀ (t : Template) (config : Config), t.compile ctx config = t.compile ctx' config) := by
  have hbuilt : ∀ {es : List (String × Value)} {ctx : Context}, BuiltBy es ctx → LastWins es ctx :=
    fun h => h.eq_ofList ▸ KeyMap.lastWins_ofList _
  refine ⟨fun h => ⟨hbuilt h, selects_iff (hbuilt h)⟩, fun h => ⟨?_, fun fs hfs => ?_⟩,
    fun h h' => ?_⟩
  · obtain ⟨es, hes, _⟩ := exists_textWrites h
    exact ⟨es, hes, .read h hes⟩
  · obtain ⟨level, hread⟩ := Value.exists_decoder_of_isReadFrom (.context h)
    obtain ⟨ms, es, hin, hmembers, rfl⟩ := hfs.exists_record (Value.value?_of_decoder hread)
    exact ⟨ms, es, .ofList es, hin, hmembers, KeyMap.lastWins_ofList es, rfl⟩
  · have heq := eq_iff_of_lastWins (hbuilt h) (hbuilt h')
    refine ⟨heq, fun hlast => ?_⟩
    obtain rfl := heq.2 hlast
    exact ⟨rfl, rfl, fun _ _ => rfl⟩

end

/-- A key that is written twice in a text. -/
def twiceText : String := "\x7b\"b\":1,\"a\":null,\"b\":false\x7d"

def twice : List (String × Value) := [("b", .int 1), ("a", .null), ("b", .bool false)]

theorem builtBy_twice :
    (∃ ctx es, ofJson twiceText = .ok ctx ∧ textWrites? twiceText = some es ∧
      es.map Prod.fst = ["b", "a", "b"] ∧ LastWins es ctx ∧ ctx.size = 2) ∧
    (KeyMap.insert .empty "b" (Value.int 1)).insertAll [("a", .null), ("b", .bool false)] =
      .ofList [("b", .bool false), ("a", .null)] := by
  constructor
  · have hkeys : (textWrites? twiceText).map (List.map Prod.fst) = some ["b", "a", "b"] := by
      decide +kernel
    have hsome : (ofJson twiceText).toOption.isSome := by decide +kernel
    cases hread : ofJson twiceText with
    | error err =>
      rw [hread] at hsome
      cases hsome
    | ok ctx =>
      obtain ⟨es, hes, hbuilt⟩ := (builtBy_lastWins.2.1 hread).1
      have hlast := (builtBy_lastWins.1 hbuilt).1
      rw [hes] at hkeys
      refine ⟨ctx, es, rfl, hes, Option.some.inj hkeys, hlast, ?_⟩
      rw [hlast.size, Option.some.inj hkeys]
      decide
  · have hbuilt : BuiltBy twice ((KeyMap.insert .empty "b" (.int 1)).insertAll _) :=
      (BuiltBy.empty.insert "b" (.int 1)).extend [("a", .null), ("b", .bool false)]
    refine (builtBy_lastWins.2.2 hbuilt (.collect _)).1.2 fun key value => ?_
    rw [lastWrite_iff, lastWrite_iff]
    by_cases hb : key = "b" <;> by_cases ha : key = "a" <;>
      simp [twice, hb, ha, KeyMap.lookup_cons_of_ne, List.lookup_cons_self]

end Context

end CypherTemplate
