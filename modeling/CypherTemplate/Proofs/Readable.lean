import CypherTemplate.Proofs.Cut

/-!
Readable texts. Of two texts that agree, whatever stands behind them, the things that they are written
for have the same normal form and the rests are the same. Tokens, values and lists of readable things
are readable in front of a break; a name is known by its sanitized form.
-/
namespace CypherTemplate

variable {α β : Type} {follow : List Char → Prop} {write : α → List Char} {norm : α → β}

/-- Whether two things are told apart by their texts in front of what may follow, up to their normal
forms. -/
def Reads (follow : List Char → Prop) (write : α → List Char) (norm : α → β) (x y : α) : Prop :=
  ∀ r s, follow r → follow s → write x ++ r = write y ++ s → norm x = norm y ∧ r = s

section Lists

variable {sep : List Char}

/-- Texts with a separator in front of each. -/
def separated (sep : List Char) (write : α → List Char) (xs : List α) : List Char :=
  xs.flatMap fun x => sep ++ write x

theorem separated_cons (x : α) (xs : List α) :
    separated sep write (x :: xs) = sep ++ (write x ++ separated sep write xs) := by
  rw [separated, List.flatMap_cons, List.append_assoc]
  rfl

theorem separated_append (xs ys : List α) :
    separated sep write (xs ++ ys) = separated sep write xs ++ separated sep write ys :=
  List.flatMap_append

theorem separated_eq_flatMap (xs : List α) :
    separated sep write xs = (xs.map write).flatMap (sep ++ ·) := by
  rw [separated, List.flatMap_map]

theorem intercalate_map_cons (x : α) (xs : List α) :
    sep.intercalate ((x :: xs).map write) = write x ++ separated sep write xs := by
  induction xs generalizing x with
  | nil => simp [separated]
  | cons y ys ih =>
    have hy := ih y
    rw [List.map_cons] at hy
    rw [List.map_cons, List.map_cons, List.intercalate_cons_cons, hy, separated_cons,
      List.append_assoc]

theorem follow_separated {xs : List α} {r : List Char}
    (hsep : ∀ x ∈ xs, ∀ t, follow (sep ++ (write x ++ t))) (hr : follow r) :
    follow (separated sep write xs ++ r) := by
  cases xs with
  | nil => exact hr
  | cons x xs =>
    rw [separated_cons, List.append_assoc, List.append_assoc]
    exact hsep x List.mem_cons_self _

/-- A list is readable if its items are and no separator stands behind it. -/
theorem reads_separated {xs ys : List α} (h : ∀ x ∈ xs, ∀ y ∈ ys, Reads follow write norm x y)
    (hx : ∀ x ∈ xs, ∀ t, follow (sep ++ (write x ++ t)))
    (hy : ∀ y ∈ ys, ∀ t, follow (sep ++ (write y ++ t))) {r s : List Char} (hr : follow r)
    (hs : follow s) (hnr : ¬sep <+: r) (hns : ¬sep <+: s)
    (heq : separated sep write xs ++ r = separated sep write ys ++ s) :
    xs.map norm = ys.map norm ∧ r = s := by
  induction xs generalizing ys with
  | nil =>
    cases ys with
    | nil => exact ⟨rfl, heq⟩
    | cons y ys =>
      have hbehind : r = sep ++ (write y ++ separated sep write ys ++ s) := by
        rw [← List.append_assoc, ← separated_cons]
        exact heq
      exact absurd ⟨_, hbehind.symm⟩ hnr
  | cons x xs ih =>
    cases ys with
    | nil =>
      have hbehind : s = sep ++ (write x ++ separated sep write xs ++ r) := by
        rw [← List.append_assoc, ← separated_cons]
        exact heq.symm
      exact absurd ⟨_, hbehind.symm⟩ hns
    | cons y ys =>
      have hxs : ∀ x ∈ xs, ∀ t, follow (sep ++ (write x ++ t)) := fun z hz =>
        hx z (List.mem_cons_of_mem x hz)
      have hys : ∀ y ∈ ys, ∀ t, follow (sep ++ (write y ++ t)) := fun z hz =>
        hy z (List.mem_cons_of_mem y hz)
      rw [separated_cons, separated_cons, List.append_assoc, List.append_assoc, List.append_assoc,
        List.append_assoc] at heq
      obtain ⟨hhead, hrest⟩ := h x List.mem_cons_self y List.mem_cons_self _ _
        (follow_separated hxs hr) (follow_separated hys hs) (List.append_cancel_left heq)
      obtain ⟨htail, rfl⟩ := ih
        (fun a ha b hb => h a (List.mem_cons_of_mem x ha) b (List.mem_cons_of_mem y hb)) hxs hys hrest
      rw [List.map_cons, List.map_cons, hhead, htail]
      exact ⟨rfl, rfl⟩

/-- The same for lists with separators between their items, neither of them empty. -/
theorem reads_intercalate {xs ys : List α} (hxs : xs ≠ []) (hys : ys ≠ [])
    (h : ∀ x ∈ xs, ∀ y ∈ ys, Reads follow write norm x y)
    (hx : ∀ x ∈ xs, ∀ t, follow (sep ++ (write x ++ t)))
    (hy : ∀ y ∈ ys, ∀ t, follow (sep ++ (write y ++ t))) {r s : List Char} (hr : follow r)
    (hs : follow s) (hnr : ¬sep <+: r) (hns : ¬sep <+: s)
    (heq : sep.intercalate (xs.map write) ++ r = sep.intercalate (ys.map write) ++ s) :
    xs.map norm = ys.map norm ∧ r = s := by
  cases xs with
  | nil => exact absurd rfl hxs
  | cons x xs =>
    cases ys with
    | nil => exact absurd rfl hys
    | cons y ys =>
      have hsame : separated sep write (x :: xs) ++ r = separated sep write (y :: ys) ++ s := by
        rw [intercalate_map_cons, intercalate_map_cons] at heq
        simp only [separated_cons, List.append_assoc] at heq ⊢
        rw [heq]
      exact reads_separated h hx hy hr hs hnr hns hsame

/-- The same for lists that may be empty, in front of a character that begins no item. -/
theorem reads_enclosed {xs ys : List α} {close : Char}
    (h : ∀ x ∈ xs, ∀ y ∈ ys, Reads follow write norm x y)
    (hx : ∀ x ∈ xs, ∀ t, follow (sep ++ (write x ++ t)))
    (hy : ∀ y ∈ ys, ∀ t, follow (sep ++ (write y ++ t)))
    (hstartx : ∀ x ∈ xs, ∀ t r, write x ++ t ≠ close :: r)
    (hstarty : ∀ y ∈ ys, ∀ t r, write y ++ t ≠ close :: r)
    (hclose : ∀ t, follow (close :: t)) (hsep : ∀ t, ¬sep <+: close :: t) {r s : List Char}
    (heq : sep.intercalate (xs.map write) ++ close :: r =
      sep.intercalate (ys.map write) ++ close :: s) :
    xs.map norm = ys.map norm ∧ r = s := by
  cases xs with
  | nil =>
    cases ys with
    | nil => exact ⟨rfl, (List.cons.inj heq).2⟩
    | cons y ys =>
      rw [intercalate_map_cons, List.append_assoc] at heq
      exact absurd heq.symm (hstarty y List.mem_cons_self _ _)
  | cons x xs =>
    cases ys with
    | nil =>
      rw [intercalate_map_cons, List.append_assoc] at heq
      exact absurd heq (hstartx x List.mem_cons_self _ _)
    | cons y ys =>
      obtain ⟨hmap, hrest⟩ := reads_intercalate (List.cons_ne_nil x xs) (List.cons_ne_nil y ys) h
        hx hy (hclose r) (hclose s) (hsep r) (hsep s) heq
      exact ⟨hmap, (List.cons.inj hrest).2⟩

end Lists

/-- A quoted string ends by itself and gives its text back. -/
theorem Quoted.quote_append_inj {as bs r s : List Char} (h : quote as ++ r = quote bs ++ s) :
    as = bs ∧ r = s := by
  have hend : ∀ cs rest : List Char, splitEnd ((quote cs ++ rest).drop 1) =
      (escape cs ++ ['"'], rest) := by
    intro cs rest
    have he := splitEnd_escape cs rest
    simpa [quote] using he
  have hsplit := hend as r
  rw [h, hend] at hsplit
  obtain ⟨hescape, hrest⟩ := Prod.mk.inj hsplit
  exact ⟨(escape_injective (List.append_cancel_right hescape)).symm, hrest.symm⟩

theorem Backticked.quote_append_inj {as bs r s : List Char} (hr : ∀ c ∈ r.head?, c ≠ '\x60')
    (hs : ∀ c ∈ s.head?, c ≠ '\x60') (h : quote as ++ r = quote bs ++ s) : as = bs ∧ r = s := by
  have hend : ∀ cs rest : List Char, (∀ c ∈ rest.head?, c ≠ '\x60') →
      splitEnd ((quote cs ++ rest).drop 1) = (double cs ++ ['\x60'], rest) := by
    intro cs rest hrest
    have he := splitEnd_double cs hrest
    simpa [quote] using he
  have hsplit := hend as r hr
  rw [h, hend bs s hs] at hsplit
  obtain ⟨hdouble, hrest⟩ := Prod.mk.inj hsplit
  have hbody := congrArg halve (List.append_cancel_right hdouble)
  rw [halve_double, halve_double] at hbody
  exact ⟨hbody.symm, hrest.symm⟩

namespace Name

/-- The name that is written for a name. -/
def sanitized (name : String) : String := String.ofList (sanitize name.toList)

theorem exists_head (name : String) :
    ∃ c cs, escape name = c :: cs ∧ (Identifier.isPart c ∨ c = '\x60') := by
  unfold escape
  rcases token_cases (sanitize name.toList) with ⟨h, ht⟩ | ht
  · rw [ht]
    cases hcs : sanitize name.toList with
    | nil => simp [hcs, Identifier.isVariable] at h
    | cons c cs =>
      rw [hcs] at h
      exact ⟨c, cs, rfl, .inl (Identifier.isPart_of_isVariable h c List.mem_cons_self)⟩
  · exact ⟨'\x60', _, ht, .inr rfl⟩

/-- Bare names and backticked ones are told apart by their first characters. -/
theorem token_append_inj {as bs r s : List Char} (hr : Breaks r) (hs : Breaks s)
    (h : token as ++ r = token bs ++ s) : as = bs ∧ r = s := by
  have hnot : ∀ {cs : List Char}, Breaks cs → ∀ c ∈ cs.head?, Identifier.isPart c = false :=
    fun hcs c hc => not_isPart_of_isBreak (hcs c hc)
  have hback : Identifier.isPart '\x60' = false := by decide
  have hcross : ∀ {xs ys t u : List Char}, Identifier.isVariable xs →
      xs ++ t ≠ Backticked.quote ys ++ u := by
    intro xs ys t u hx heq
    cases xs with
    | nil => simp [Identifier.isVariable] at hx
    | cons x xs =>
      obtain ⟨rfl, _⟩ := List.cons.inj heq
      have hpart := Identifier.isPart_of_isVariable hx '\x60' List.mem_cons_self
      simp [hback] at hpart
  rcases token_cases as with ⟨ha, hta⟩ | hta
  · rcases token_cases bs with ⟨hb, htb⟩ | htb
    · rw [hta, htb] at h
      exact append_inj_of_forall (Identifier.isPart_of_isVariable ha)
        (Identifier.isPart_of_isVariable hb) (hnot hr) (hnot hs) h
    · rw [hta, htb] at h
      exact absurd h (hcross ha)
  · rcases token_cases bs with ⟨hb, htb⟩ | htb
    · rw [hta, htb] at h
      exact absurd h.symm (hcross hb)
    · rw [hta, htb] at h
      exact Backticked.quote_append_inj (ParamStyle.ne_backtick_of_breaks hr)
        (ParamStyle.ne_backtick_of_breaks hs) h

/-- A written name gives its sanitized form back. -/
theorem reads_escape (a b : String) : Reads Breaks escape sanitized a b := by
  intro r s hr hs h
  obtain ⟨hname, hrest⟩ := token_append_inj hr hs h
  exact ⟨congrArg String.ofList hname, hrest⟩

end Name

namespace Value

mutual
/-- The value with every key of its maps sanitized, all entries staying in their order. -/
def sanitized : Value → Value
  | .list items => .list (sanitizedItems items)
  | .map entries => .map (sanitizedEntries entries)
  | v => v

def sanitizedItems : List Value → List Value
  | [] => []
  | v :: vs => v.sanitized :: sanitizedItems vs

def sanitizedEntries : List (String × Value) → List (String × Value)
  | [] => []
  | (key, v) :: es => (Name.sanitized key, v.sanitized) :: sanitizedEntries es
end

/-- An entry with its key and its value sanitized. -/
def sanitizedEntry (e : String × Value) : String × Value := (Name.sanitized e.1, e.2.sanitized)

theorem sanitizedItems_eq (items : List Value) : sanitizedItems items = items.map sanitized := by
  induction items with
  | nil => rfl
  | cons v vs ih => rw [sanitizedItems, ih, List.map_cons]

theorem sanitizedEntries_eq (es : List (String × Value)) :
    sanitizedEntries es = es.map sanitizedEntry := by
  induction es with
  | nil => rfl
  | cons e es ih => rw [sanitizedEntries, ih, List.map_cons, sanitizedEntry]

@[simp] theorem sanitized_list (items : List Value) :
    (list items).sanitized = .list (items.map sanitized) := by
  rw [sanitized, sanitizedItems_eq]

@[simp] theorem sanitized_map (es : List (String × Value)) :
    (map es).sanitized = .map (es.map sanitizedEntry) := by
  rw [sanitized, sanitizedEntries_eq]

/-- What kind of literal a character begins: numbers begin alike, and so do words. -/
def kindOf (c : Char) : Char :=
  if isNumeric c then '0' else if c.isAlpha then 'a' else c

/-- The kind of the first character of a literal. -/
def kind : Value → Char
  | .null | .bool _ => 'a'
  | .int _ | .double _ => '0'
  | .string _ => '"'
  | .list _ => '['
  | .map _ => '\x7b'

theorem forall_isNumeric_literal {v : Value} (h : v.kind = '0') : ∀ c ∈ v.literal, isNumeric c := by
  cases v with
  | int i => exact forall_isNumeric_wholeText i.toInt
  | double d => exact forall_isNumeric_doubleLiteral d
  | _ => simp [kind] at h

theorem literal_ne_nil (v : Value) : v.literal ≠ [] := by
  cases v with
  | null => exact List.cons_ne_nil _ _
  | bool b => cases b <;> exact List.cons_ne_nil _ _
  | int i =>
    rw [literal, Json.wholeText_eq]
    simp [Nat.toDigits_ne_nil]
  | double d => exact List.ne_nil_of_mem (point_mem_doubleLiteral d)
  | string t => exact List.cons_ne_nil _ _
  | list items => simp [literal_list]
  | map es => simp [literal_map]

/-- A literal shows its kind at once. -/
theorem exists_head (v : Value) : ∃ c cs, v.literal = c :: cs ∧ kindOf c = v.kind := by
  by_cases h : v.kind = '0'
  · have hnumeric := forall_isNumeric_literal h
    cases hv : v.literal with
    | nil => exact absurd hv v.literal_ne_nil
    | cons c cs =>
      rw [hv] at hnumeric
      exact ⟨c, cs, rfl, h ▸ if_pos (hnumeric c List.mem_cons_self)⟩
  · cases v with
    | null => exact ⟨'n', _, rfl, rfl⟩
    | bool b =>
      cases b with
      | false => exact ⟨'f', _, rfl, rfl⟩
      | true => exact ⟨'t', _, rfl, rfl⟩
    | string t => exact ⟨'"', _, rfl, rfl⟩
    | list items => exact ⟨'[', _, literal_list items, rfl⟩
    | map es => exact ⟨'\x7b', _, literal_map es, rfl⟩
    | _ => exact absurd rfl h

theorem kind_eq_of_append_eq {v w : Value} {r s : List Char}
    (h : v.literal ++ r = w.literal ++ s) : v.kind = w.kind := by
  obtain ⟨c, cs, hv, hc⟩ := v.exists_head
  obtain ⟨d, ds, hw, hd⟩ := w.exists_head
  rw [hv, hw] at h
  obtain ⟨rfl, _⟩ := List.cons.inj h
  exact hc.symm.trans hd

theorem not_isNumeric_of_breaks {cs : List Char} (h : Breaks cs) :
    ∀ c ∈ cs.head?, isNumeric c = false := by
  intro c hc
  have hb := h c hc
  simp only [isBreak, Bool.or_eq_true, decide_eq_true_eq] at hb
  rcases hb with ((((rfl | rfl) | rfl) | rfl) | rfl) | rfl <;> decide

/-- Numbers go as far as their characters. -/
theorem numeric_append_inj {as bs r s : List Char} (ha : ∀ c ∈ as, isNumeric c)
    (hb : ∀ c ∈ bs, isNumeric c) (hr : Breaks r) (hs : Breaks s) (h : as ++ r = bs ++ s) :
    as = bs ∧ r = s :=
  append_inj_of_forall ha hb (not_isNumeric_of_breaks hr) (not_isNumeric_of_breaks hs) h

theorem breaks_comma (t : List Char) : Breaks ([',', ' '] ++ t) := breaks_cons.2 rfl

theorem not_comma_of_ne {c : Char} (hc : c ≠ ',') (t : List Char) : ¬[',', ' '] <+: c :: t := by
  rintro ⟨u, hu⟩
  exact hc (List.cons.inj hu).1.symm

theorem forall_isPart_literal {v : Value} (h : v.kind = 'a') :
    ∀ c ∈ v.literal, Identifier.isPart c := by
  cases v with
  | null => exact List.all_eq_true.1 (by decide)
  | bool b => exact List.all_eq_true.1 (by cases b <;> decide)
  | _ => simp [kind] at h

theorem le_toNat_of_isAlpha {c : Char} (h : c.isAlpha) : 'A'.toNat ≤ c.toNat := by
  rcases Bool.or_eq_true_iff.1 h with hupper | hlower
  · exact UInt32.le_iff_toNat_le.1 (of_decide_eq_true hupper).1
  · have hle := of_decide_eq_true (Bool.and_eq_true_iff.1 hlower).1
    exact Nat.le_trans (by decide) (UInt32.le_iff_toNat_le.1 hle)

/-- A letter is no part of a number. -/
theorem not_isNumeric_of_isAlpha {c : Char} (h : c.isAlpha) : isNumeric c = false := by
  rw [Bool.eq_false_iff]
  intro hn
  simp only [isNumeric, Bool.or_eq_true, decide_eq_true_eq] at hn
  rcases hn with ((hd | rfl) | rfl) | rfl
  · have hlow : 65 ≤ c.toNat := le_toNat_of_isAlpha h
    have hhigh : c.toNat ≤ 57 := (Char.isDigit_iff_toNat.1 hd).2
    omega
  · exact absurd h (by decide)
  · exact absurd h (by decide)
  · exact absurd h (by decide)

theorem kindOf_of_isStart {c : Char} (h : Identifier.isStart c) : kindOf c = 'a' ∨ kindOf c = '_' := by
  simp only [Identifier.isStart, Bool.or_eq_true, decide_eq_true_eq] at h
  rcases h with h | rfl
  · exact .inl (by simp [kindOf, h, not_isNumeric_of_isAlpha h])
  · exact .inr rfl

theorem kind_ne_underscore (v : Value) : v.kind ≠ '_' := by
  cases v <;> simp [kind]

theorem kind_ne_close (v : Value) : v.kind ≠ ']' := by
  cases v <;> simp [kind]

theorem literal_ne_close (v : Value) (t r : List Char) : v.literal ++ t ≠ ']' :: r := by
  obtain ⟨c, cs, hv, hc⟩ := v.exists_head
  intro h
  rw [hv] at h
  obtain ⟨rfl, _⟩ := List.cons.inj h
  exact v.kind_ne_close hc.symm

theorem entryLiteral_ne_close (e : String × Value) (t r : List Char) :
    entryLiteral e ++ t ≠ '\x7d' :: r := by
  obtain ⟨c, cs, hkey, hc⟩ := Name.exists_head e.1
  intro h
  rw [entryLiteral, hkey] at h
  obtain ⟨rfl, _⟩ := List.cons.inj h
  revert hc
  decide

theorem reads_entry {e f : String × Value} (h : Reads Breaks literal sanitized e.2 f.2) :
    Reads Breaks entryLiteral sanitizedEntry e f := by
  intro r s hr hs heq
  simp only [entryLiteral, List.append_assoc, List.cons_append] at heq
  obtain ⟨hkey, hrest⟩ := Name.reads_escape e.1 f.1 _ _ (breaks_cons.2 rfl) (breaks_cons.2 rfl) heq
  obtain ⟨hvalue, rfl⟩ := h r s hr hs (List.cons.inj (List.cons.inj hrest).2).2
  exact ⟨Prod.ext hkey hvalue, rfl⟩

/-- No two numbers have the same literal, whole or not. -/
theorem number_injective {v w : Value} (hv : v.kind = '0') (hw : w.kind = '0')
    (h : v.literal = w.literal) : v = w := by
  cases v with
  | int i =>
    cases w with
    | int j => rw [Int64.toInt_inj.1 (Json.wholeText_injective h)]
    | double d =>
      have hpoint : '.' ∈ (int i).literal := h ▸ point_mem_doubleLiteral d
      exact absurd hpoint (Json.point_notMem_wholeText i.toInt)
    | _ => simp [kind] at hw
  | double d =>
    cases w with
    | int j =>
      have hpoint : '.' ∈ (int j).literal := h ▸ point_mem_doubleLiteral d
      exact absurd hpoint (Json.point_notMem_wholeText j.toInt)
    | double e => rw [doubleLiteral_injective h]
    | _ => simp [kind] at hw
  | _ => simp [kind] at hv

theorem reads_number {v : Value} (hv : v.kind = '0') (w : Value) :
    Reads Breaks literal sanitized v w := by
  intro r s hr hs h
  have hw : w.kind = '0' := (kind_eq_of_append_eq h).symm.trans hv
  obtain ⟨htext, hrest⟩ :=
    numeric_append_inj (forall_isNumeric_literal hv) (forall_isNumeric_literal hw) hr hs h
  rw [number_injective hv hw htext]
  exact ⟨rfl, hrest⟩

/-- A literal gives its value back, with the keys in it sanitized. -/
theorem reads_literal (v w : Value) : Reads Breaks literal sanitized v w := by
  induction v generalizing w with
  | null =>
    intro r s hr hs h
    have hkind := kind_eq_of_append_eq h
    cases w with
    | null => exact ⟨rfl, List.append_cancel_left h⟩
    | bool b => cases b <;> simp [literal] at h
    | _ => simp [kind] at hkind
  | bool b =>
    intro r s hr hs h
    have hkind := kind_eq_of_append_eq h
    cases w with
    | null => cases b <;> simp [literal] at h
    | bool c =>
      cases b <;> cases c <;> first | exact ⟨rfl, List.append_cancel_left h⟩ | simp [literal] at h
    | _ => simp [kind] at hkind
  | int i => exact reads_number rfl w
  | double d => exact reads_number rfl w
  | string t =>
    intro r s hr hs h
    have hkind := kind_eq_of_append_eq h
    cases w with
    | string u =>
      obtain ⟨htext, hrest⟩ := Quoted.quote_append_inj h
      rw [String.toList_inj.1 htext]
      exact ⟨rfl, hrest⟩
    | _ => simp [kind] at hkind
  | list items ih =>
    intro r s hr hs h
    have hkind := kind_eq_of_append_eq h
    cases w with
    | list others =>
      rw [literal_list, literal_list] at h
      simp only [List.cons_append, List.append_assoc, List.nil_append, List.cons.injEq,
        true_and] at h
      obtain ⟨hitems, hrest⟩ := reads_enclosed (fun v hv w _ => ih v hv w)
        (fun _ _ _ => breaks_comma _) (fun _ _ _ => breaks_comma _) (fun v _ => v.literal_ne_close)
        (fun v _ => v.literal_ne_close) (fun _ => breaks_cons.2 rfl) (not_comma_of_ne (by decide)) h
      rw [sanitized_list, sanitized_list, hitems]
      exact ⟨rfl, hrest⟩
    | _ => simp [kind] at hkind
  | map es ih =>
    intro r s hr hs h
    have hkind := kind_eq_of_append_eq h
    cases w with
    | map fs =>
      rw [literal_map, literal_map] at h
      simp only [List.cons_append, List.append_assoc, List.nil_append, List.cons.injEq,
        true_and] at h
      obtain ⟨hentries, hrest⟩ := reads_enclosed (fun e he f _ => reads_entry (ih e he f.2))
        (fun _ _ _ => breaks_comma _) (fun _ _ _ => breaks_comma _)
        (fun e _ => entryLiteral_ne_close e) (fun e _ => entryLiteral_ne_close e)
        (fun _ => breaks_cons.2 rfl) (not_comma_of_ne (by decide)) h
      rw [sanitized_map, sanitized_map, hentries]
      exact ⟨rfl, hrest⟩
    | _ => simp [kind] at hkind

end Value

end CypherTemplate
