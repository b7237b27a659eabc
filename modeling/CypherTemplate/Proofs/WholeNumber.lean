import CypherTemplate.Proofs.Stored

/-!
Whole numbers in the JSON texts of values and contexts. A numeral with neither point nor exponent is
read as the whole number that it denotes, or the text is refused, as long as 64 bits hold the number
with a sign or without one. Every other such numeral, minus zero among them, is read as a finite double,
unless the reader of doubles refuses it.
-/
namespace CypherTemplate

/-- A step from a list or a record to something in it. -/
inductive Step where
  | item (index : Nat)
  | member (name : String)
  deriving DecidableEq, Repr

namespace Outline

/-- The value of the last member of a name. -/
def lastMember? (name : String) : List (Outline × Outline) → Option Outline
  | [] => none
  | (key, value) :: ms =>
    (lastMember? name ms).or (if key.readKey.toOption = some name then some value else none)

/-- The numeral at a place. A member that a later one of its name replaces has no place. -/
def numeralAt? : List Step → Outline → Option Numeral
  | [], .number n => some n
  | .item i :: path, .list os _ => os[i]?.bind (numeralAt? path)
  | .member name :: path, .record ms _ => (lastMember? name ms).bind (numeralAt? path)
  | _, _ => none

/-- Whether a numeral stands for a value at any depth, be it replaced or not. -/
inductive Mentions (n : Numeral) : Outline → Prop where
  | here : Mentions n (.number n)
  | item {o : Outline} {os : List Outline} {ending : Ending} :
    o ∈ os → Mentions n o → Mentions n (.list os ending)
  | member {m : Outline × Outline} {ms : List (Outline × Outline)} {ending : Ending} :
    m ∈ ms → Mentions n m.2 → Mentions n (.record ms ending)

theorem exists_mem_of_lastMember? {name : String} {ms : List (Outline × Outline)} {o : Outline}
    (h : lastMember? name ms = some o) : ∃ m ∈ ms, m.2 = o := by
  induction ms with
  | nil => cases h
  | cons m ms ih =>
    rw [lastMember?] at h
    rcases Option.or_eq_some_iff.1 h with hrest | ⟨_, hfirst⟩
    · obtain ⟨m', hm', ho⟩ := ih hrest
      exact ⟨m', List.mem_cons_of_mem _ hm', ho⟩
    · split at hfirst
      · exact ⟨m, List.mem_cons_self, Option.some.inj hfirst⟩
      · cases hfirst

theorem mentions_of_numeralAt? {path : List Step} {o : Outline} {n : Numeral}
    (h : o.numeralAt? path = some n) : o.Mentions n := by
  induction path generalizing o with
  | nil =>
    cases o with
    | number m =>
      cases h
      exact .here
    | _ => cases h
  | cons step path ih =>
    rcases step with i | name <;> cases o
    case item.list os ending =>
      obtain ⟨x, hx, hpath⟩ := Option.bind_eq_some_iff.1 h
      exact .item (List.mem_of_getElem? hx) (ih hpath)
    case member.record ms ending =>
      obtain ⟨x, hx, hpath⟩ := Option.bind_eq_some_iff.1 h
      obtain ⟨m, hm, rfl⟩ := exists_mem_of_lastMember? hx
      exact .member hm (ih hpath)
    all_goals cases h

end Outline

/-- What stands at a place of a value. -/
def Value.at? : List Step → Value → Option Value
  | [], v => some v
  | .item i :: path, .list items => items[i]?.bind (at? path)
  | .member name :: path, .map entries => (entries.lookup name).bind (at? path)
  | _ :: _, _ => none

namespace Decoder

variable {α : Type} {read : Outline → Except JsonError α} {ending : Ending}

/-- The items of a list are read one by one. -/
theorem getElem?_of_items {os : List Outline} {as : List α} (h : items read ending os = .ok as)
    {i : Nat} {o : Outline} (ho : os[i]? = some o) : ∃ a, as[i]? = some a ∧ read o = .ok a := by
  induction os generalizing as i with
  | nil => simp at ho
  | cons x os ih =>
    obtain ⟨a, ha, h⟩ := bind_eq_ok h
    obtain ⟨as', has, h⟩ := bind_eq_ok h
    cases h
    cases i with
    | zero =>
      cases ho
      exact ⟨a, rfl, ha⟩
    | succ i => exact ih has ho

theorem exists_of_mem_items {os : List Outline} {as : List α} (h : items read ending os = .ok as)
    {o : Outline} (ho : o ∈ os) : ∃ a, read o = .ok a := by
  obtain ⟨i, hi⟩ := List.mem_iff_getElem?.1 ho
  obtain ⟨a, _, ha⟩ := getElem?_of_items h hi
  exact ⟨a, ha⟩

theorem exists_of_mem_members {ms : List (Outline × Outline)} {es : List (String × α)}
    (h : members read ending ms = .ok es) {m : Outline × Outline} (hm : m ∈ ms) :
    ∃ a, read m.2 = .ok a := by
  induction ms generalizing es with
  | nil => cases hm
  | cons x ms ih =>
    obtain ⟨key, _, h⟩ := bind_eq_ok h
    obtain ⟨a, ha, h⟩ := bind_eq_ok h
    obtain ⟨es', hes, _⟩ := bind_eq_ok h
    cases hm with
    | head => exact ⟨a, ha⟩
    | tail _ hm => exact ih hes hm

/-- The last member of a name is the one whose value stays. -/
theorem lookup_of_members {ms : List (Outline × Outline)} {es : List (String × α)}
    (h : members read ending ms = .ok es) (name : String) :
    Option.Rel (fun o a => read o = .ok a) (Outline.lastMember? name ms)
      (es.reverse.lookup name) := by
  induction ms generalizing es with
  | nil =>
    obtain ⟨_, _, h⟩ := bind_eq_ok h
    cases h
    exact .none
  | cons m ms ih =>
    obtain ⟨key, o⟩ := m
    obtain ⟨k, hk, h⟩ := bind_eq_ok h
    obtain ⟨a, ha, h⟩ := bind_eq_ok h
    obtain ⟨es', hes, h⟩ := bind_eq_ok h
    cases h
    have hrest := ih hes
    rw [Outline.lastMember?, List.reverse_cons, List.lookup_append, hk]
    generalize Outline.lastMember? name ms = last, es'.reverse.lookup name = stays at hrest ⊢
    cases hrest with
    | some hlast => exact .some hlast
    | none =>
      by_cases hname : name = k
      · subst hname
        rw [List.lookup_cons_self]
        simpa [Except.toOption] using ha
      · rw [KeyMap.lookup_cons_of_ne hname]
        simp [Except.toOption, Ne.symm hname]

theorem exists_lookup_of_members {ms : List (Outline × Outline)} {es : List (String × α)}
    (h : members read ending ms = .ok es) {name : String} {o : Outline}
    (ho : Outline.lastMember? name ms = some o) :
    ∃ a, es.reverse.lookup name = some a ∧ read o = .ok a := by
  have hrel := lookup_of_members h name
  rw [ho] at hrel
  generalize es.reverse.lookup name = found at hrel
  cases hrel with
  | some hread => exact ⟨_, rfl, hread⟩

end Decoder

namespace Value

variable [DoubleReader] {level budget : Nat} {o : Outline} {v : Value}

/-- The numeral at a place of a text was read as what stands at this place of the value. -/
theorem exists_ofNumber_of_numeralAt? {path : List Step} {n : Numeral}
    (hread : decoder level budget o = .ok v) (hn : o.numeralAt? path = some n) :
    ∃ w, (do ofNumber (← n.read)) = .ok w ∧ v.at? path = some w := by
  induction path generalizing level budget o v with
  | nil =>
    cases level with
    | zero => cases hread
    | succ level =>
      cases o with
      | number m =>
        cases hn
        exact ⟨v, hread, rfl⟩
      | _ => cases hn
  | cons step path ih =>
    cases level with
    | zero => cases hread
    | succ level =>
      rcases step with i | name <;> cases o
      case item.list os ending =>
        obtain ⟨items, hitems, rfl⟩ := Decoder.map_eq_ok hread
        obtain ⟨_, _, hitems⟩ := Decoder.exists_of_within hitems
        obtain ⟨x, hx, hpath⟩ := Option.bind_eq_some_iff.1 hn
        obtain ⟨u, hu, hxread⟩ := Decoder.getElem?_of_items hitems hx
        obtain ⟨w, hw, hplace⟩ := ih hxread hpath
        exact ⟨w, hw, Option.bind_eq_some_iff.2 ⟨u, hu, hplace⟩⟩
      case member.record ms ending =>
        obtain ⟨es, hes, rfl⟩ := Decoder.map_eq_ok hread
        obtain ⟨_, _, hes⟩ := Decoder.exists_of_within hes
        obtain ⟨x, hx, hpath⟩ := Option.bind_eq_some_iff.1 hn
        obtain ⟨u, hu, hxread⟩ := Decoder.exists_lookup_of_members hes hx
        obtain ⟨w, hw, hplace⟩ := ih hxread hpath
        rw [← KeyMap.get?_ofList] at hu
        exact ⟨w, hw, Option.bind_eq_some_iff.2 ⟨u, hu, hplace⟩⟩
      all_goals cases hn

/-- Every numeral of a text that was read has a value, also where that was replaced. -/
theorem exists_ofNumber_of_mentions {n : Numeral} (hn : o.Mentions n)
    (hread : decoder level budget o = .ok v) : ∃ w, (do ofNumber (← n.read)) = .ok w := by
  induction hn generalizing level budget v with
  | here =>
    cases level with
    | zero => cases hread
    | succ level => exact ⟨v, hread⟩
  | item ho _ ih =>
    cases level with
    | zero => cases hread
    | succ level =>
      obtain ⟨items, hitems, _⟩ := Decoder.map_eq_ok hread
      obtain ⟨_, _, hitems⟩ := Decoder.exists_of_within hitems
      obtain ⟨w, hw⟩ := Decoder.exists_of_mem_items hitems ho
      exact ih hw
  | member hm _ ih =>
    cases level with
    | zero => cases hread
    | succ level =>
      obtain ⟨es, hes, _⟩ := Decoder.map_eq_ok hread
      obtain ⟨_, _, hes⟩ := Decoder.exists_of_within hes
      obtain ⟨w, hw⟩ := Decoder.exists_of_mem_members hes hm
      exact ih hw

end Value

namespace Numeral

/-- What a whole numeral denotes. -/
def toInt (n : Numeral) : Int :=
  if n.negative then -n.significand else n.significand

/-- Whether 64 bits with a sign hold what a whole numeral denotes. -/
def InRange (n : Numeral) : Prop :=
  Int64.minValue.toInt ≤ n.toInt ∧ n.toInt ≤ Int64.maxValue.toInt

/-- Whether 64 bits, with or without a sign, hold what a whole numeral denotes, its sign included. -/
def KeptWhole (n : Numeral) : Prop :=
  Int64.minValue.toInt ≤ n.toInt ∧ n.toInt < UInt64.size ∧ (n.negative → n.significand ≠ 0)

instance (n : Numeral) : Decidable n.InRange :=
  inferInstanceAs (Decidable (_ ∧ _))

instance (n : Numeral) : Decidable n.KeptWhole :=
  inferInstanceAs (Decidable (_ ∧ _ ∧ _))

variable {n : Numeral}

theorem keptWhole_of_not_negative (h : n.negative = false) :
    n.KeptWhole ↔ n.significand < UInt64.size := by
  have hsize : UInt64.size = 18446744073709551616 := rfl
  rw [KeptWhole, toInt, h, Int64.toInt_minValue, hsize]
  simp only [Bool.false_eq_true, ↓reduceIte, false_implies, and_true]
  omega

theorem keptWhole_of_negative (h : n.negative = true) :
    n.KeptWhole ↔ n.significand ≠ 0 ∧ 2 * n.significand ≤ UInt64.size := by
  have hsize : UInt64.size = 18446744073709551616 := rfl
  rw [KeptWhole, toInt, h, Int64.toInt_minValue, hsize]
  simp only [↓reduceIte, true_implies]
  omega

/-- Whole numerals are read as whole numbers where 64 bits hold them, and as doubles elsewhere. -/
theorem read_of_isWhole [DoubleReader] (hwhole : n.isWhole) :
    n.read = if n.KeptWhole then .ok (.whole n.toInt) else n.readDouble := by
  cases hneg : n.negative with
  | false => simp [read, hwhole, hneg, keptWhole_of_not_negative hneg, toInt]
  | true => simp [read, hwhole, hneg, keptWhole_of_negative hneg, toInt]

end Numeral

namespace Value

variable [DoubleReader]

/-- What a text is read as: a value, or the map of a context. -/
inductive IsReadFrom (text : String) : Value → Prop where
  | value {v : Value} : ofJson text = .ok v → IsReadFrom text v
  | context {ctx : Context} : Context.ofJson text = .ok ctx → IsReadFrom text (.map ctx.entries)

theorem exists_decoder_of_isReadFrom {text : String} {v : Value} (h : v.IsReadFrom text) :
    ∃ level, decoder level 127 (Outline.ofChars text.toList).1 = .ok v := by
  cases h with
  | value hread => exact ⟨maxLevel, Decoder.of_read_eq_ok hread⟩
  | @context ctx hread =>
    have hmap : KeyMap.decoder.read text = .ok ctx := by
      unfold Context.ofJson at hread
      cases hcontext : KeyMap.decoder.read text with
      | error e =>
        rw [hcontext] at hread
        cases hread
      | ok m =>
        rw [hcontext] at hread
        cases hread
        rfl
    obtain ⟨es, hes, rfl⟩ := Decoder.map_eq_ok (Decoder.of_read_eq_ok hmap)
    refine ⟨maxLevel + 1, ?_⟩
    cases hscan : (Outline.ofChars text.toList).1 with
    | record ms ending =>
      rw [hscan] at hes
      exact congrArg (ofEntries <$> ·) hes
    | _ =>
      rw [hscan] at hes
      exact absurd hes Decoder.mismatch_ne_ok

theorem int_of_ofNumber {n : Numeral} {v : Value} (hwhole : n.isWhole) (hkept : n.KeptWhole)
    (h : (do ofNumber (← n.read)) = .ok v) :
    n.InRange ∧ ∃ i : Int64, i.toInt = n.toInt ∧ v = .int i := by
  rw [n.read_of_isWhole hwhole, if_pos hkept, Decoder.ok_bind, ofNumber] at h
  split at h
  · rename_i hrange
    cases h
    have hin : n.InRange := by
      rwa [Bool.and_eq_true, decide_eq_true_iff, decide_eq_true_iff] at hrange
    refine ⟨hin, _, Int64.toInt_ofInt_of_le hin.1 ?_, rfl⟩
    exact Int.lt_of_le_sub_one hin.2
  · cases h

theorem double_of_ofNumber {n : Numeral} {v : Value} (hwhole : n.isWhole) (hkept : ¬n.KeptWhole)
    (h : (do ofNumber (← n.read)) = .ok v) :
    ∃ rank, DoubleReader.rank? n = some rank ∧ v = .double (.finite n.negative rank) := by
  rw [n.read_of_isWhole hwhole, if_neg hkept, Numeral.readDouble] at h
  cases hrank : DoubleReader.rank? n with
  | none =>
    rw [hrank] at h
    cases h
  | some rank =>
    rw [hrank] at h
    cases h
    exact ⟨rank, rfl, rfl⟩

end Value

namespace Numeral

/-- Whether a whole numeral is exact or refused: whatever a text with it is read as, 64 bits with a sign
hold what it denotes, and just that stands at each of its places. -/
def ExactIn [DoubleReader] (n : Numeral) (text : String) : Prop :=
  ∀ v : Value, v.IsReadFrom text →
    n.InRange ∧
      ∀ path, (Outline.ofChars text.toList).1.numeralAt? path = some n →
        ∃ i : Int64, i.toInt = n.toInt ∧ v.at? path = some (.int i)

/-- A whole numeral is exact or refused if 64 bits hold it, with a sign or without one, and also if the
reader of doubles refuses it. Any other, which is minus zero or too great for 64 bits, stands as one
finite double of its sign at each of its places. -/
theorem exactIn_or_double [DoubleReader] {text : String} {n : Numeral} (hwhole : n.isWhole)
    (hn : (Outline.ofChars text.toList).1.Mentions n) :
    (n.KeptWhole ∨ DoubleReader.rank? n = none → n.ExactIn text) ∧
      (¬n.KeptWhole → ∀ v : Value, v.IsReadFrom text →
        ∃ rank, DoubleReader.rank? n = some rank ∧
          ∀ path, (Outline.ofChars text.toList).1.numeralAt? path = some n →
            v.at? path = some (.double (.finite n.negative rank))) := by
  constructor
  · intro hcase v hv
    obtain ⟨level, hread⟩ := Value.exists_decoder_of_isReadFrom hv
    obtain ⟨w, hw⟩ := Value.exists_ofNumber_of_mentions hn hread
    have hkept : n.KeptWhole := by
      by_contra hlost
      obtain ⟨rank, hrank, _⟩ := Value.double_of_ofNumber hwhole hlost hw
      exact hcase.elim hlost fun hnone => absurd (hnone.symm.trans hrank) nofun
    refine ⟨(Value.int_of_ofNumber hwhole hkept hw).1, fun path hpath => ?_⟩
    obtain ⟨u, hu, hplace⟩ := Value.exists_ofNumber_of_numeralAt? hread hpath
    obtain ⟨_, i, hi, rfl⟩ := Value.int_of_ofNumber hwhole hkept hu
    exact ⟨i, hi, hplace⟩
  · intro hlost v hv
    obtain ⟨level, hread⟩ := Value.exists_decoder_of_isReadFrom hv
    obtain ⟨w, hw⟩ := Value.exists_ofNumber_of_mentions hn hread
    obtain ⟨rank, hrank, _⟩ := Value.double_of_ofNumber hwhole hlost hw
    refine ⟨rank, hrank, fun path hpath => ?_⟩
    obtain ⟨u, hu, hplace⟩ := Value.exists_ofNumber_of_numeralAt? hread hpath
    obtain ⟨_, hsame, rfl⟩ := Value.double_of_ofNumber hwhole hlost hu
    rw [hplace, Option.some.inj (hsame.symm.trans hrank)]

/-- The least whole number of 64 bits, two levels down in a context. -/
def leastText : String := "\x7b\"m\":[0,\x7b\"id\":-9223372036854775808\x7d]\x7d"

def least : Numeral := ⟨true, "9223372036854775808".toList, [], 0, true⟩

theorem exactIn_leastText :
    ∃ ctx, Context.ofJson leastText = .ok ctx ∧
      (Value.map ctx.entries).at? [.member "m", .item 1, .member "id"] =
        some (.int Int64.minValue) := by
  have hplace : (Outline.ofChars leastText.toList).1.numeralAt?
      [.member "m", .item 1, .member "id"] = some least := by decide +kernel
  have hsome : (Context.ofJson leastText).toOption.isSome := by decide +kernel
  have hkept : least.KeptWhole := by decide +kernel
  have hvalue : least.toInt = Int64.minValue.toInt := by decide +kernel
  cases hread : Context.ofJson leastText with
  | error e =>
    rw [hread] at hsome
    cases hsome
  | ok ctx =>
    have hexact := (exactIn_or_double rfl (Outline.mentions_of_numeralAt? hplace)).1 (.inl hkept)
    obtain ⟨i, hi, hat⟩ := (hexact _ (.context hread)).2 _ hplace
    refine ⟨ctx, rfl, ?_⟩
    rw [hat, Int64.toInt_inj.1 (hi.trans hvalue)]

/-- The least whole number that is too great for 64 bits without a sign. -/
def beyondText : String := "\x7b\"id\":18446744073709551616\x7d"

def beyond : Numeral := ⟨false, "18446744073709551616".toList, [], 0, true⟩

/-- Whole numerals are not always exact or refused. -/
theorem not_exactIn_beyondText :
    ¬∀ (text : String) (n : Numeral), n.isWhole → (Outline.ofChars text.toList).1.Mentions n →
      n.ExactIn text := by
  intro hall
  have hplace : (Outline.ofChars beyondText.toList).1.numeralAt? [.member "id"] = some beyond := by
    decide +kernel
  have hsome : (Context.ofJson beyondText).toOption.isSome := by decide +kernel
  have hrange : ¬beyond.InRange := by decide +kernel
  cases hread : Context.ofJson beyondText with
  | error e =>
    rw [hread] at hsome
    cases hsome
  | ok ctx =>
    have hexact := hall beyondText beyond rfl (Outline.mentions_of_numeralAt? hplace)
    exact hrange (hexact _ (.context hread)).1

end Numeral

end CypherTemplate
