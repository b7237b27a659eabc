import CypherTemplate.Proofs.ScanText

/-!
How many lists and records of a JSON text are open at once, counted along its characters. In the text
of a value these are as many as the value is deep.
-/
namespace CypherTemplate

namespace Json

/-- The most brackets and braces open at once, counted from where `opened` are open. Those inside
strings do not count, and `quoted` tells whether the text begins inside one. -/
def mostOpen : (quoted : Bool) → (opened : Nat) → List Char → Nat
  | _, opened, [] => opened
  | true, opened, '\\' :: _ :: cs => mostOpen true opened cs
  | true, opened, c :: cs => mostOpen (c ≠ '"') opened cs
  | false, opened, c :: cs =>
    if c = '"' then mostOpen true opened cs
    else if c = '[' ∨ c = '\x7b' then mostOpen false (opened + 1) cs
    else if c = ']' ∨ c = '\x7d' then max opened (mostOpen false (opened - 1) cs)
    else mostOpen false opened cs

/-- The most lists and records open at once in a text. -/
def nesting (text : String) : Nat := mostOpen false 0 text.toList

section

variable (opened : Nat) (rest : List Char)

/-- Whether a character neither opens nor closes anything, a string included. -/
def isNeutral (c : Char) : Bool := c ∉ ['"', '[', ']', '\x7b', '\x7d']

theorem mostOpen_neutral {cs : List Char} (h : cs.all isNeutral) :
    mostOpen false opened (cs ++ rest) = mostOpen false opened rest := by
  induction cs with
  | nil => rfl
  | cons c cs ih =>
    rw [List.all_cons, Bool.and_eq_true] at h
    obtain ⟨hc, hcs⟩ := h
    simp only [isNeutral, List.mem_cons, List.not_mem_nil, or_false, not_or, decide_eq_true_eq] at hc
    rw [List.cons_append, mostOpen, ih hcs]
    simp [hc]

theorem mostOpen_opening {c : Char} (h : c = '[' ∨ c = '\x7b') :
    mostOpen false opened (c :: rest) = mostOpen false (opened + 1) rest := by
  rcases h with rfl | rfl <;> rfl

theorem mostOpen_closing {c : Char} (h : c = ']' ∨ c = '\x7d') :
    mostOpen false opened (c :: rest) = max opened (mostOpen false (opened - 1) rest) := by
  rcases h with rfl | rfl <;> rfl

/-- A character inside a string that stands for itself. -/
theorem mostOpen_inside {c : Char} (hquote : c ≠ '"') (hescape : c ≠ '\\') :
    mostOpen true opened (c :: rest) = mostOpen true opened rest := by
  rw [mostOpen.eq_def]
  split <;> simp_all

theorem digitChar_inside : ∀ n < 16, Nat.digitChar n ≠ '"' ∧ Nat.digitChar n ≠ '\\' := by
  decide

theorem mostOpen_escapeChar (c : Char) :
    mostOpen true opened (escapeChar c ++ rest) = mostOpen true opened rest := by
  unfold escapeChar
  split
  case h_8 hquote hbackslash _ _ _ _ _ =>
    by_cases hcontrol : c.toNat < 0x20
    · have hhigh := digitChar_inside (c.toNat / 16) (by omega)
      have hlow := digitChar_inside (c.toNat % 16) (by omega)
      have hescape : mostOpen true opened (['\\', 'u', '0', '0', Nat.digitChar (c.toNat / 16),
          Nat.digitChar (c.toNat % 16)] ++ rest) = mostOpen true opened
            (Nat.digitChar (c.toNat / 16) :: Nat.digitChar (c.toNat % 16) :: rest) := rfl
      rw [if_pos hcontrol, hescape, mostOpen_inside _ _ hhigh.1 hhigh.2,
        mostOpen_inside _ _ hlow.1 hlow.2]
    · rw [if_neg hcontrol]
      exact mostOpen_inside opened rest hquote hbackslash
  all_goals rfl

theorem mostOpen_stringText (s : String) :
    mostOpen false opened (stringText s ++ rest) = mostOpen false opened rest := by
  have hinside : ∀ cs : List Char,
      mostOpen true opened (cs.flatMap escapeChar ++ '"' :: rest) = mostOpen false opened rest := by
    intro cs
    induction cs with
    | nil => rfl
    | cons c cs ih => rw [List.flatMap_cons, List.append_assoc, mostOpen_escapeChar, ih]
  have hopen : mostOpen false opened (stringText s ++ rest) =
      mostOpen true opened (s.toList.flatMap escapeChar ++ '"' :: rest) := by
    rw [stringText, List.append_assoc]
    rfl
  rw [hopen, hinside]

end

/-! Numbers have neither brackets nor quotes. -/

theorem isNeutral_of_isDigit {c : Char} (hc : c.isDigit) : isNeutral c := by
  rw [isNeutral, decide_eq_true_eq]
  intro h
  simp only [List.mem_cons, List.not_mem_nil, or_false] at h
  rcases h with rfl | rfl | rfl | rfl | rfl <;> exact absurd hc (by decide)

theorem all_isNeutral_digits {cs : List Char} (h : ∀ c ∈ cs, c.isDigit) : cs.all isNeutral :=
  List.all_eq_true.2 fun c hc => isNeutral_of_isDigit (h c hc)

theorem all_isNeutral_toDigits (n : Nat) : (Nat.toDigits 10 n).all isNeutral :=
  all_isNeutral_digits (wholeDigits_toDigits n).digits

theorem all_isNeutral_wholeText (i : Int) : (wholeText i).all isNeutral := by
  cases i with
  | ofNat n => exact all_isNeutral_toDigits n
  | negSucc n => exact all_isNeutral_toDigits (n + 1)

theorem all_isNeutral_exponentText (e : Int) : (Outline.exponentText e).all isNeutral := by
  have hsign : isNeutral (if e < 0 then '-' else '+') := by
    split <;> rfl
  rw [Outline.exponentText, List.all_cons, List.all_cons, hsign, all_isNeutral_toDigits]
  rfl

theorem all_isNeutral_decimal (l : Layout) (d : Decimal) : (l.decimal d).all isNeutral := by
  have hdigits := wholeDigits_toDigits d.significand
  rw [Layout.decimal]
  split
  · obtain ⟨whole, fraction, htext, _, _, hw, hf, _⟩ :=
      Layout.exists_positional hdigits.digits hdigits.ne_nil d.exponent
    rw [htext, List.all_append, List.all_cons, all_isNeutral_digits hw, all_isNeutral_digits hf]
    rfl
  · have hneutral := all_isNeutral_toDigits d.significand
    cases hds : Nat.toDigits 10 d.significand with
    | nil => exact absurd hds hdigits.ne_nil
    | cons c cs =>
      rw [hds, List.all_cons, Bool.and_eq_true] at hneutral
      have hfraction : (if cs = [] then [] else '.' :: cs).all isNeutral := by
        split
        · rfl
        · exact hneutral.2
      rw [Layout.scientific_eq, List.cons_append, List.all_cons, List.all_append, hneutral.1, hfraction,
        all_isNeutral_exponentText]
      rfl

theorem all_isNeutral_doubleText (d : Double) : (doubleText d).all isNeutral := by
  cases d with
  | finite negative rank =>
    rw [doubleText, Layout.finite, List.all_append, all_isNeutral_decimal]
    cases negative <;> rfl
  | _ => rfl

/-! Lists and records. -/

theorem le_mostOpen (quoted : Bool) (opened : Nat) (cs : List Char) :
    opened ≤ mostOpen quoted opened cs := by
  fun_induction mostOpen quoted opened cs <;> omega

theorem itemsDepth_eq (js : List Json) : itemsDepth js = (js.map depth).foldr max 0 := by
  induction js with
  | nil => rfl
  | cons j js ih => rw [itemsDepth, ih, List.map_cons, List.foldr_cons]

theorem membersDepth_eq (ms : List (String × Json)) :
    membersDepth ms = (ms.map (·.2.depth)).foldr max 0 := by
  induction ms with
  | nil => rfl
  | cons m ms ih => rw [membersDepth, ih, List.map_cons, List.foldr_cons]

/-- Whether a text opens at most so many lists and records at once, and closes all of them. -/
def Nested (cs : List Char) (depth : Nat) : Prop :=
  ∀ opened rest, mostOpen false opened (cs ++ rest) =
    max (opened + depth) (mostOpen false opened rest)

theorem nested_neutral {cs : List Char} (h : cs.all isNeutral) : Nested cs 0 := by
  intro opened rest
  rw [mostOpen_neutral opened rest h, Nat.add_zero, Nat.max_eq_right (le_mostOpen _ _ _)]

theorem Nested.append {as bs : List Char} {a b : Nat} (ha : Nested as a) (hb : Nested bs b) :
    Nested (as ++ bs) (max a b) := by
  intro opened rest
  rw [List.append_assoc, ha, hb]
  omega

theorem nested_intercalate {α : Type} {write : α → List Char} {depth : α → Nat} {xs : List α}
    (h : ∀ x ∈ xs, Nested (write x) (depth x)) :
    Nested ([','].intercalate (xs.map write)) ((xs.map depth).foldr max 0) := by
  have hcomma : Nested [','] 0 := nested_neutral rfl
  induction xs with
  | nil => exact nested_neutral rfl
  | cons x xs ih =>
    obtain ⟨hx, hxs⟩ := List.forall_mem_cons.1 h
    cases xs with
    | nil => simpa using hx
    | cons y ys =>
      have happend := (hx.append hcomma).append (ih hxs)
      simpa [List.intercalate_cons_cons] using happend

theorem nested_enclosed {cs : List Char} {depth : Nat} (h : Nested cs depth) {o c : Char}
    (ho : o = '[' ∨ o = '\x7b') (hc : c = ']' ∨ c = '\x7d') :
    Nested (o :: cs ++ [c]) (depth + 1) := by
  intro opened rest
  rw [List.append_assoc, List.cons_append, List.singleton_append, mostOpen_opening _ _ ho, h,
    mostOpen_closing _ _ hc, Nat.add_sub_cancel]
  omega

theorem nested_stringText (s : String) : Nested (stringText s) 0 := by
  intro opened rest
  rw [mostOpen_stringText, Nat.add_zero, Nat.max_eq_right (le_mostOpen _ _ _)]

theorem nested_memberText {m : String × Json} (h : Nested m.2.text m.2.depth) :
    Nested (memberText m) m.2.depth := by
  have hcolon : Nested [':'] 0 := nested_neutral rfl
  simpa [memberText] using (nested_stringText m.1).append (hcolon.append h)

theorem nested_text (j : Json) : Nested j.text j.depth := by
  induction j with
  | null => exact nested_neutral rfl
  | bool b => cases b <;> exact nested_neutral rfl
  | whole i => exact nested_neutral (all_isNeutral_wholeText i)
  | double d => exact nested_neutral (all_isNeutral_doubleText d)
  | string s => exact nested_stringText s
  | list js ih =>
    rw [text_list, depth, itemsDepth_eq]
    exact nested_enclosed (nested_intercalate ih) (.inl rfl) (.inl rfl)
  | record ms ih =>
    rw [text_record, depth, membersDepth_eq]
    exact nested_enclosed (nested_intercalate fun m hm => nested_memberText (ih m hm)) (.inr rfl)
      (.inr rfl)

/-- As many lists and records are open at once in the text of a value as the value is deep. -/
theorem nesting_compact (j : Json) : nesting j.compact = j.depth := by
  have h := j.nested_text 0 []
  rw [List.append_nil] at h
  rw [nesting, compact, String.toList_ofList, h, mostOpen]
  omega

example : nesting "[\"[\\\"[\",\x7b\"a\":[]\x7d,[]]" = 3 := by rfl

end Json

end CypherTemplate
