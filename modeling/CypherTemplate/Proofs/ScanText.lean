import CypherTemplate.Proofs.Scaling
import CypherTemplate.Proofs.ScanNumber

/-!
The outline of written JSON. The text of a value is scanned to an outline of just this value, to its
last character and whatever stands behind it, as long as the doubles in it are read back from their
texts; only numbers without a written form are scanned as null. A reader that takes the nearest double
reads all of them back.
-/
namespace CypherTemplate

/-- Induction over JSON values, with a hypothesis for every item and every member. -/
@[elab_as_elim, induction_eliminator]
theorem Json.induction {motive : Json → Prop} (null : motive .null)
    (bool : ∀ b, motive (.bool b)) (whole : ∀ i, motive (.whole i))
    (double : ∀ d, motive (.double d)) (string : ∀ s, motive (.string s))
    (list : ∀ items, (∀ j ∈ items, motive j) → motive (.list items))
    (record : ∀ members, (∀ m ∈ members, motive m.2) → motive (.record members)) (j : Json) :
    motive j := by
  refine @Json.rec motive (fun items => ∀ j ∈ items, motive j)
    (fun members => ∀ m ∈ members, motive m.2) (fun m => motive m.2) null bool whole double string
    list record ?_ ?_ ?_ ?_ ?_ j
  · simp
  · intro j js hj hjs
    simpa using ⟨hj, hjs⟩
  · simp
  · intro m ms hm hms
    simpa only [List.mem_cons, forall_eq_or_imp] using ⟨hm, hms⟩
  · intro key j hj
    exact hj

section

variable [DoubleReader]

/-- Whether a double is read from its text as the same double. -/
def Double.readsBack (d : Double) : Bool :=
  match (Outline.ofChars (Json.doubleText d)).1 with
  | .number n => n.read.toOption = some (.double d)
  | _ => false

mutual
/-- Whether each finite double in a JSON value is read back from its text. -/
def Json.readsBack : Json → Bool
  | .double d => !d.isFinite || d.readsBack
  | .list items => itemsReadBack items
  | .record members => membersReadBack members
  | _ => true

def Json.itemsReadBack : List Json → Bool
  | [] => true
  | j :: js => j.readsBack && itemsReadBack js

def Json.membersReadBack : List (String × Json) → Bool
  | [] => true
  | (_, j) :: ms => j.readsBack && membersReadBack ms
end

theorem Json.itemsReadBack_iff {js : List Json} :
    itemsReadBack js ↔ ∀ j ∈ js, j.readsBack := by
  induction js with
  | nil => simp [itemsReadBack]
  | cons j js ih => rw [itemsReadBack, Bool.and_eq_true, ih, List.forall_mem_cons]

theorem Json.membersReadBack_iff {ms : List (String × Json)} :
    membersReadBack ms ↔ ∀ m ∈ ms, m.2.readsBack := by
  induction ms with
  | nil => simp [membersReadBack]
  | cons m ms ih => rw [membersReadBack, Bool.and_eq_true, ih, List.forall_mem_cons]

mutual
/-- Whether an outline is that of a JSON value: its numbers and strings are read as those of the
value. -/
inductive Json.HasOutline : Json → Outline → Prop where
  | null : HasOutline .null .null
  | bool (b : Bool) : HasOutline (.bool b) (.bool b)
  | whole (i : Int) : HasOutline (.whole i) (.number (.ofInt i))
  | double {negative : Bool} {rank : Fin Double.count} {n : Numeral}
      (h : n.read = .ok (.double (.finite negative rank))) :
      HasOutline (.double (.finite negative rank)) (.number n)
  | unwritten {d : Double} (h : d.isFinite = false) : HasOutline (.double d) .null
  | string {s : String} {w : WrittenString} (h : w.read = .ok s) : HasOutline (.string s) (.string w)
  | list {js : List Json} {os : List Outline} (h : Json.HaveOutlines js os) :
      HasOutline (.list js) (.list os .closed)
  | record {ms : List (String × Json)} {os : List (Outline × Outline)}
      (h : Json.MembersHaveOutlines ms os) : HasOutline (.record ms) (.record os .closed)

inductive Json.HaveOutlines : List Json → List Outline → Prop where
  | nil : HaveOutlines [] []
  | cons {j : Json} {js : List Json} {o : Outline} {os : List Outline} (hj : Json.HasOutline j o)
      (hjs : HaveOutlines js os) : HaveOutlines (j :: js) (o :: os)

inductive Json.MembersHaveOutlines :
    List (String × Json) → List (Outline × Outline) → Prop where
  | nil : MembersHaveOutlines [] []
  | cons {key : String} {w : WrittenString} {j : Json} {ms : List (String × Json)} {o : Outline}
      {os : List (Outline × Outline)} (hkey : w.read = .ok key) (hj : Json.HasOutline j o)
      (hms : MembersHaveOutlines ms os) : MembersHaveOutlines ((key, j) :: ms) ((.string w, o) :: os)
end

end

namespace Json

open Outline

/-- The text of a member of a record. -/
def memberText (m : String × Json) : List Char := stringText m.1 ++ ':' :: m.2.text

theorem itemTexts_eq (js : List Json) : itemTexts js = js.map text := by
  induction js with
  | nil => rfl
  | cons j js ih => rw [itemTexts, ih, List.map_cons]

theorem memberTexts_eq (ms : List (String × Json)) : memberTexts ms = ms.map memberText := by
  induction ms with
  | nil => rfl
  | cons m ms ih => rw [memberTexts, ih, List.map_cons, memberText]

theorem text_list (js : List Json) :
    (list js).text = '[' :: [','].intercalate (js.map text) ++ [']'] := by
  rw [text, itemTexts_eq]

theorem text_record (ms : List (String × Json)) :
    (record ms).text = '\x7b' :: [','].intercalate (ms.map memberText) ++ ['\x7d'] := by
  rw [text, memberTexts_eq]

/-! Strings. -/

theorem hexUnit?_control : ∀ n < 0x20,
    hexUnit? '0' '0' (Nat.digitChar (n / 16)) (Nat.digitChar (n % 16)) = some n := by
  decide

/-- A written character is scanned as one unit, which is read as the character. -/
theorem exists_scanString_escapeChar (c : Char) :
    ∃ u, (∀ cs, scanString (escapeChar c ++ cs) =
        (⟨u :: (scanString cs).1.units, (scanString cs).1.ending⟩, (scanString cs).2)) ∧
      ∀ ending us, WrittenString.chars ending (u :: us) =
        (WrittenString.chars ending us).map (c :: ·) := by
  have hchar : ∀ d ending us, WrittenString.chars ending (.char d :: us) =
      (WrittenString.chars ending us).map (d :: ·) := by
    intro d ending us
    rw [WrittenString.chars]
    cases WrittenString.chars ending us <;> rfl
  unfold escapeChar
  split
  · exact ⟨.char '"', fun cs => by simp [scanString, shortEscape?], hchar _⟩
  · exact ⟨.char '\\', fun cs => by simp [scanString, shortEscape?], hchar _⟩
  · exact ⟨.char '\x08', fun cs => by simp [scanString, shortEscape?], hchar _⟩
  · exact ⟨.char '\t', fun cs => by simp [scanString, shortEscape?], hchar _⟩
  · exact ⟨.char '\n', fun cs => by simp [scanString, shortEscape?], hchar _⟩
  · exact ⟨.char '\x0c', fun cs => by simp [scanString, shortEscape?], hchar _⟩
  · exact ⟨.char '\r', fun cs => by simp [scanString, shortEscape?], hchar _⟩
  · rename_i hquote hbackslash _ _ _ _ _
    by_cases hcontrol : c.toNat < 0x20
    · refine ⟨.code c.toNat, fun cs => ?_, fun ending us => ?_⟩
      · simp [hcontrol, scanString, hexUnit?_control c.toNat hcontrol]
      · have hlow : WrittenString.isLow c.toNat = false := by
          simp [WrittenString.isLow]
          omega
        have hhigh : WrittenString.isHigh c.toNat = false := by
          simp [WrittenString.isHigh]
          omega
        rw [WrittenString.chars.eq_def]
        simp only [hlow, hhigh, Bool.false_eq_true, if_false, Char.ofNat_toNat]
        cases WrittenString.chars ending us <;> rfl
    · refine ⟨.char c, fun cs => ?_, hchar c⟩
      simp only [hcontrol, if_false, List.singleton_append]
      rw [scanString.eq_def]
      split <;> simp_all

/-- A written string is scanned up to its closing quote and read as itself. -/
theorem exists_scanString (s : String) (rest : List Char) :
    ∃ w : WrittenString, w.read = .ok s ∧
      scanString (s.toList.flatMap escapeChar ++ '"' :: rest) = (w, rest) := by
  have hunits : ∀ cs : List Char, ∃ us, WrittenString.chars .closed us = .ok cs ∧
      scanString (cs.flatMap escapeChar ++ '"' :: rest) = (⟨us, .closed⟩, rest) := by
    intro cs
    induction cs with
    | nil => exact ⟨[], rfl, by simp [scanString]⟩
    | cons c cs ih =>
      obtain ⟨us, hus, hscan⟩ := ih
      obtain ⟨u, hu, hread⟩ := exists_scanString_escapeChar c
      refine ⟨u :: us, by rw [hread, hus]; rfl, ?_⟩
      rw [List.flatMap_cons, List.append_assoc, hu, hscan]
  obtain ⟨us, hus, hscan⟩ := hunits s.toList
  refine ⟨⟨us, .closed⟩, ?_, hscan⟩
  rw [WrittenString.read, hus]
  exact congrArg Except.ok String.ofList_toList

/-! Values. -/

theorem skipBlanks_cons {c : Char} (h : isBlank c = false) (cs : List Char) :
    skipBlanks (c :: cs) = c :: cs := by
  rw [skipBlanks, List.dropWhile_cons_of_neg (by simp [h])]

/-- A number begins with a digit behind its sign. -/
theorem exists_digit_of_scanNumber {negative : Bool} {cs rest : List Char} {n : Numeral}
    (h : scanNumber negative cs = (.number n, rest)) : ∃ c cs', cs = c :: cs' ∧ c.isDigit := by
  cases cs with
  | nil => cases h
  | cons c cs =>
    refine ⟨c, cs, rfl, ?_⟩
    by_contra hc
    have htake : (c :: cs).takeWhile Char.isDigit = [] := by
      rw [List.takeWhile_cons_of_neg hc]
    rw [scanNumber, htake] at h
    cases h

/-- The sign of a number. -/
def signText (negative : Bool) : List Char := if negative then ['-'] else []

/-- Whether a number is written as a sign in front of what is scanned as a numeral. -/
def Spells (j : Json) (n : Numeral) : Prop :=
  ∃ negative cs, j.text = signText negative ++ cs ∧
    ∀ rest, Follows rest → scanNumber negative (cs ++ rest) = (.number n, rest)

theorem spells_whole (i : Int) : (whole i).Spells (.ofInt i) :=
  ⟨decide (i < 0), Nat.toDigits 10 i.natAbs, wholeText_eq i,
    fun _ hrest => scanNumber_toDigits i.natAbs hrest⟩

theorem exists_spells_double (negative : Bool) (rank : Fin Double.count) :
    ∃ n : Numeral, (double (.finite negative rank)).Spells n ∧
      n.isWhole = false ∧ n.negative = negative ∧ n.toDecimal.rank = rank := by
  obtain ⟨n, hscan, hn⟩ := exists_scanNumber_double negative rank
  exact ⟨n, ⟨negative, _, rfl, hscan⟩, hn⟩

/-- Each kind of value is scanned from its first character. -/
theorem scan_null (fuel : Nat) (rest : List Char) :
    scan (fuel + 1) ("null".toList ++ rest) = (.null, rest) := rfl

theorem scan_bool (fuel : Nat) (b : Bool) (rest : List Char) :
    scan (fuel + 1) ((bool b).text ++ rest) = (.bool b, rest) := by
  cases b <;> rfl

theorem isBlank_of_isDigit {c : Char} (hc : c.isDigit) : isBlank c = false := by
  rw [Bool.eq_false_iff]
  intro h
  simp only [isBlank, Bool.or_eq_true, decide_eq_true_eq] at h
  rcases h with ((rfl | rfl) | rfl) | rfl <;> exact absurd hc (by decide)

theorem scan_signText (fuel : Nat) (negative : Bool) {c : Char} (hc : c.isDigit) (cs : List Char) :
    scan (fuel + 1) (signText negative ++ c :: cs) = scanNumber negative (c :: cs) := by
  have hne : c ≠ 'n' ∧ c ≠ 't' ∧ c ≠ 'f' ∧ c ≠ '-' := by
    refine ⟨?_, ?_, ?_, ?_⟩ <;> rintro rfl <;> exact absurd hc (by decide)
  cases negative with
  | true => rfl
  | false =>
    rw [signText, if_neg (by decide), List.nil_append, scan, skipBlanks_cons (isBlank_of_isDigit hc)]
    simp [hne, hc]

theorem scan_string (fuel : Nat) (cs : List Char) :
    scan (fuel + 1) ('"' :: cs) = (.string (scanString cs).1, (scanString cs).2) := rfl

theorem scan_list_nil (fuel : Nat) (rest : List Char) :
    scan (fuel + 1) ('[' :: ']' :: rest) = (.list [] .closed, rest) := rfl

theorem scan_record_nil (fuel : Nat) (rest : List Char) :
    scan (fuel + 1) ('\x7b' :: '\x7d' :: rest) = (.record [] .closed, rest) := rfl

theorem scan_list_cons (fuel : Nat) {c : Char} (hblank : isBlank c = false) (hc : c ≠ ']')
    (cs : List Char) :
    scan (fuel + 1) ('[' :: c :: cs) =
      (.list (scanItems fuel (c :: cs)).1.1 (scanItems fuel (c :: cs)).1.2,
        (scanItems fuel (c :: cs)).2) := by
  have hopen : isBlank '[' = false := by decide
  rw [scan, skipBlanks_cons hopen]
  simp [skipBlanks_cons hblank, hc]

theorem scan_record_cons (fuel : Nat) (cs : List Char) :
    scan (fuel + 1) ('\x7b' :: '"' :: cs) =
      (.record (scanMembers fuel ('"' :: cs)).1.1 (scanMembers fuel ('"' :: cs)).1.2,
        (scanMembers fuel ('"' :: cs)).2) := rfl

theorem scanItems_last {fuel : Nat} {cs rest : List Char} {o : Outline}
    (h : scan fuel cs = (o, ']' :: rest)) : scanItems (fuel + 1) cs = (([o], .closed), rest) := by
  have hclose : isBlank ']' = false := by decide
  simp only [scanItems, h, skipBlanks_cons hclose]

theorem scanItems_cons {fuel : Nat} {cs rest : List Char} {o : Outline}
    (h : scan fuel cs = (o, ',' :: rest)) :
    scanItems (fuel + 1) cs =
      ((o :: (scanItems fuel rest).1.1, (scanItems fuel rest).1.2), (scanItems fuel rest).2) := by
  have hcomma : isBlank ',' = false := by decide
  simp only [scanItems, h, skipBlanks_cons hcomma]

theorem scanMembers_last {fuel : Nat} {cs ds rest : List Char} {k o : Outline}
    (hk : scan fuel cs = (k, ':' :: ds)) (ho : scan fuel ds = (o, '\x7d' :: rest)) :
    scanMembers (fuel + 1) cs = (([(k, o)], .closed), rest) := by
  have hcolon : isBlank ':' = false := by decide
  have hclose : isBlank '\x7d' = false := by decide
  simp only [scanMembers, hk, scanColon, skipBlanks_cons hcolon, ho, skipBlanks_cons hclose]

theorem scanMembers_cons {fuel : Nat} {cs ds rest : List Char} {k o : Outline}
    (hk : scan fuel cs = (k, ':' :: ds)) (ho : scan fuel ds = (o, ',' :: rest)) :
    scanMembers (fuel + 1) cs =
      (((k, o) :: (scanMembers fuel rest).1.1, (scanMembers fuel rest).1.2),
        (scanMembers fuel rest).2) := by
  have hcolon : isBlank ':' = false := by decide
  have hcomma : isBlank ',' = false := by decide
  simp only [scanMembers, hk, scanColon, skipBlanks_cons hcolon, ho, skipBlanks_cons hcomma]

namespace Spells

variable {j : Json} {n : Numeral}

theorem exists_text_eq_cons (h : j.Spells n) :
    ∃ c cs, j.text = c :: cs ∧ isBlank c = false ∧ c ≠ ']' := by
  obtain ⟨negative, cs, htext, hscan⟩ := h
  obtain ⟨c, cs', hcs, hc⟩ := exists_digit_of_scanNumber (hscan [] follows_nil)
  rw [List.append_nil] at hcs
  cases negative with
  | true => exact ⟨'-', cs, htext, by decide, by decide⟩
  | false =>
    refine ⟨c, cs', by rw [htext, hcs]; rfl, isBlank_of_isDigit hc, ?_⟩
    rintro rfl
    exact absurd hc (by decide)

theorem scan_text (h : j.Spells n) (fuel : Nat) {rest : List Char} (hrest : Follows rest) :
    scan (fuel + 1) (j.text ++ rest) = (.number n, rest) := by
  obtain ⟨negative, cs, htext, hscan⟩ := h
  have hnumber := hscan rest hrest
  obtain ⟨c, cs', hcs, hc⟩ := exists_digit_of_scanNumber hnumber
  rw [htext, List.append_assoc, hcs, scan_signText fuel negative hc, ← hcs, hnumber]

theorem ofChars_text (h : j.Spells n) : ofChars j.text = (.number n, true) := by
  have hscan := h.scan_text (2 * j.text.length) follows_nil
  rw [List.append_nil] at hscan
  rw [ofChars, hscan]
  rfl

theorem unique {m : Numeral} (h : j.Spells n) (hm : j.Spells m) : n = m := by
  have hsame := h.ofChars_text.symm.trans hm.ofChars_text
  exact Outline.number.inj (Prod.mk.inj hsame).1

end Spells

/-- A value begins with a character that no blank is and that closes no list. -/
theorem exists_text_eq_cons (j : Json) :
    ∃ c cs, j.text = c :: cs ∧ isBlank c = false ∧ c ≠ ']' := by
  cases j with
  | null => exact ⟨'n', _, rfl, by decide, by decide⟩
  | bool b =>
    cases b with
    | true => exact ⟨'t', _, rfl, by decide, by decide⟩
    | false => exact ⟨'f', _, rfl, by decide, by decide⟩
  | whole i => exact (spells_whole i).exists_text_eq_cons
  | double d =>
    cases d with
    | finite negative rank =>
      obtain ⟨n, hn, _⟩ := exists_spells_double negative rank
      exact hn.exists_text_eq_cons
    | _ => exact ⟨'n', _, rfl, by decide, by decide⟩
  | string s => exact ⟨'"', _, rfl, by decide, by decide⟩
  | list js => exact ⟨'[', _, rfl, by decide, by decide⟩
  | record ms => exact ⟨'\x7b', _, rfl, by decide, by decide⟩

/-- A string is scanned up to its closing quote. -/
theorem exists_scan_stringText (fuel : Nat) (key : String) (cs : List Char) :
    ∃ w : WrittenString, w.read = .ok key ∧
      scan (fuel + 1) (stringText key ++ cs) = (.string w, cs) := by
  obtain ⟨w, hread, hscan⟩ := exists_scanString key cs
  refine ⟨w, hread, ?_⟩
  rw [stringText, List.cons_append, List.cons_append, List.append_assoc, List.singleton_append,
    scan_string, hscan]

theorem length_memberText (m : String × Json) :
    m.2.text.length + 3 ≤ (memberText m).length := by
  simp only [memberText, stringText, List.length_append, List.length_cons, List.length_nil]
  omega

section

variable [DoubleReader]

/-- Whether the text of a value is scanned to an outline of the value, with two steps for each of its
characters. -/
def Scans (j : Json) : Prop :=
  ∀ fuel rest, 2 * j.text.length ≤ fuel → Follows rest →
    ∃ o, j.HasOutline o ∧ scan fuel (j.text ++ rest) = (o, rest)

theorem exists_scanItems {js : List Json} (hne : js ≠ []) (hscans : ∀ j ∈ js, j.Scans) {fuel : Nat}
    (hfuel : 2 * ([','].intercalate (js.map text)).length + 1 ≤ fuel) (rest : List Char) :
    ∃ os, HaveOutlines js os ∧
      scanItems fuel ([','].intercalate (js.map text) ++ ']' :: rest) = ((os, .closed), rest) := by
  induction js generalizing fuel with
  | nil => exact absurd rfl hne
  | cons j js ih =>
    obtain ⟨fuel, rfl⟩ : ∃ f, fuel = f + 1 := Nat.exists_eq_add_one.2 (by omega)
    have hj := hscans j List.mem_cons_self
    cases js with
    | nil =>
      simp only [List.map_cons, List.map_nil, List.intercalate_singleton] at hfuel ⊢
      obtain ⟨o, ho, hscan⟩ := hj fuel (']' :: rest) (by omega) (follows_cons (by simp))
      exact ⟨[o], .cons ho .nil, scanItems_last hscan⟩
    | cons k ks =>
      simp only [List.map_cons, List.intercalate_cons_cons, List.length_append,
        List.length_singleton] at hfuel ih ⊢
      have hks : 2 * ([','].intercalate (k.text :: ks.map text)).length + 1 ≤ fuel := by omega
      obtain ⟨os, hos, hrest⟩ := ih (List.cons_ne_nil k ks)
        (fun x hx => hscans x (List.mem_cons_of_mem j hx)) hks
      obtain ⟨o, ho, hscan⟩ := hj fuel (',' :: ([','].intercalate (k.text :: ks.map text) ++
        ']' :: rest)) (by omega) (follows_cons (by simp))
      refine ⟨o :: os, .cons ho hos, ?_⟩
      rw [List.append_assoc, List.append_assoc]
      have hcons := scanItems_cons hscan
      rw [hrest] at hcons
      exact hcons

theorem exists_scanMembers {ms : List (String × Json)} (hne : ms ≠ [])
    (hscans : ∀ m ∈ ms, m.2.Scans) {fuel : Nat}
    (hfuel : 2 * ([','].intercalate (ms.map memberText)).length + 1 ≤ fuel) (rest : List Char) :
    ∃ os, MembersHaveOutlines ms os ∧
      scanMembers fuel ([','].intercalate (ms.map memberText) ++ '\x7d' :: rest) =
        ((os, .closed), rest) := by
  induction ms generalizing fuel with
  | nil => exact absurd rfl hne
  | cons m ms ih =>
    obtain ⟨key, j⟩ := m
    have hj : j.Scans := hscans (key, j) List.mem_cons_self
    have hlength : j.text.length + 3 ≤ (memberText (key, j)).length := length_memberText (key, j)
    cases ms with
    | nil =>
      simp only [List.map_cons, List.map_nil, List.intercalate_singleton] at hfuel ⊢
      obtain ⟨fuel, rfl⟩ : ∃ f, fuel = f + 2 := ⟨fuel - 2, by omega⟩
      obtain ⟨w, hread, hkey⟩ := exists_scan_stringText fuel key (':' :: (j.text ++ '\x7d' :: rest))
      obtain ⟨o, ho, hscan⟩ :=
        hj (fuel + 1) ('\x7d' :: rest) (by omega) (follows_cons (by simp))
      refine ⟨[(.string w, o)], .cons hread ho .nil, ?_⟩
      rw [memberText, List.append_assoc, List.cons_append]
      exact scanMembers_last hkey hscan
    | cons k ks =>
      simp only [List.map_cons, List.intercalate_cons_cons, List.length_append,
        List.length_singleton] at hfuel ih ⊢
      obtain ⟨fuel, rfl⟩ : ∃ f, fuel = f + 2 := ⟨fuel - 2, by omega⟩
      have hks :
          2 * ([','].intercalate (memberText k :: ks.map memberText)).length + 1 ≤ fuel + 1 := by
        omega
      obtain ⟨os, hos, hrest⟩ := ih (List.cons_ne_nil k ks)
        (fun x hx => hscans x (List.mem_cons_of_mem (key, j) hx)) hks
      obtain ⟨w, hread, hkey⟩ := exists_scan_stringText fuel key (':' :: (j.text ++ ',' ::
        ([','].intercalate (memberText k :: ks.map memberText) ++ '\x7d' :: rest)))
      obtain ⟨o, ho, hscan⟩ := hj (fuel + 1)
        (',' :: ([','].intercalate (memberText k :: ks.map memberText) ++ '\x7d' :: rest))
        (by omega) (follows_cons (by simp))
      refine ⟨(.string w, o) :: os, .cons hread ho hos, ?_⟩
      have hcons := scanMembers_cons hkey hscan
      rw [hrest] at hcons
      simpa only [memberText, List.append_assoc, List.cons_append, List.nil_append] using hcons

/-- The numeral of a double that is read back is read as this double. -/
theorem Spells.readsBack_iff {d : Double} {n : Numeral} (h : (double d).Spells n) :
    d.readsBack ↔ n.read = .ok (.double d) := by
  have hscan : ofChars (doubleText d) = (.number n, true) := h.ofChars_text
  rw [Double.readsBack, hscan, decide_eq_true_iff]
  cases n.read <;> simp [Except.toOption]

theorem exists_scan_list (fuel : Nat) {js : List Json} (hscans : ∀ j ∈ js, j.Scans)
    (hfuel : 2 * (list js).text.length ≤ fuel + 1) (rest : List Char) :
    ∃ o, (list js).HasOutline o ∧ scan (fuel + 1) ((list js).text ++ rest) = (o, rest) := by
  cases js with
  | nil => exact ⟨.list [] .closed, .list .nil, scan_list_nil fuel rest⟩
  | cons j js =>
    simp only [text_list, List.length_cons, List.length_append, List.length_nil] at hfuel
    have hbound : 2 * ([','].intercalate ((j :: js).map text)).length + 1 ≤ fuel := by omega
    obtain ⟨os, hos, hitems⟩ := exists_scanItems (List.cons_ne_nil j js) hscans hbound rest
    refine ⟨.list os .closed, .list hos, ?_⟩
    obtain ⟨c, cs, hcs, hblank, hc⟩ := j.exists_text_eq_cons
    obtain ⟨cs', htext⟩ : ∃ cs',
        [','].intercalate ((j :: js).map text) ++ ']' :: rest = c :: cs' := by
      cases js <;> simp [hcs]
    rw [text_list, List.append_assoc, List.cons_append, List.singleton_append,
      htext, scan_list_cons fuel hblank hc, ← htext, hitems]

theorem exists_scan_record (fuel : Nat) {ms : List (String × Json)} (hscans : ∀ m ∈ ms, m.2.Scans)
    (hfuel : 2 * (record ms).text.length ≤ fuel + 1) (rest : List Char) :
    ∃ o, (record ms).HasOutline o ∧ scan (fuel + 1) ((record ms).text ++ rest) = (o, rest) := by
  cases ms with
  | nil => exact ⟨.record [] .closed, .record .nil, scan_record_nil fuel rest⟩
  | cons m ms =>
    simp only [text_record, List.length_cons, List.length_append, List.length_nil] at hfuel
    have hbound : 2 * ([','].intercalate ((m :: ms).map memberText)).length + 1 ≤ fuel := by omega
    obtain ⟨os, hos, hmembers⟩ := exists_scanMembers (List.cons_ne_nil m ms) hscans hbound rest
    refine ⟨.record os .closed, .record hos, ?_⟩
    obtain ⟨cs, htext⟩ : ∃ cs,
        [','].intercalate ((m :: ms).map memberText) ++ '\x7d' :: rest = '"' :: cs := by
      cases ms <;> simp [memberText, stringText]
    rw [text_record, List.append_assoc, List.cons_append, List.singleton_append,
      htext, scan_record_cons fuel, ← htext, hmembers]

/-- A value has a character, so one step is always there. -/
theorem scans_of_succ {j : Json}
    (h : ∀ fuel rest, 2 * j.text.length ≤ fuel + 1 → Follows rest →
      ∃ o, j.HasOutline o ∧ scan (fuel + 1) (j.text ++ rest) = (o, rest)) : j.Scans := by
  intro fuel rest hfuel hrest
  obtain ⟨c, cs, hcs, _, _⟩ := j.exists_text_eq_cons
  cases fuel with
  | zero =>
    rw [hcs, List.length_cons] at hfuel
    omega
  | succ fuel => exact h fuel rest hfuel hrest

/-- Every text of a value is scanned to an outline of the value, given that doubles are read back. -/
theorem scans (j : Json) (hback : j.readsBack) : j.Scans := by
  induction j with
  | null => exact scans_of_succ fun fuel rest _ _ => ⟨.null, .null, scan_null fuel rest⟩
  | bool b => exact scans_of_succ fun fuel rest _ _ => ⟨.bool b, .bool b, scan_bool fuel b rest⟩
  | whole i =>
    exact scans_of_succ fun fuel _ _ hrest => ⟨_, .whole i, (spells_whole i).scan_text fuel hrest⟩
  | double d =>
    refine scans_of_succ fun fuel rest _ hrest => ?_
    cases d with
    | finite negative rank =>
      obtain ⟨n, hn, _⟩ := exists_spells_double negative rank
      exact ⟨.number n, .double (hn.readsBack_iff.1 hback), hn.scan_text fuel hrest⟩
    | _ => exact ⟨.null, .unwritten rfl, scan_null fuel rest⟩
  | string s =>
    refine scans_of_succ fun fuel rest _ _ => ?_
    obtain ⟨w, hread, hscan⟩ := exists_scan_stringText fuel s rest
    exact ⟨.string w, .string hread, hscan⟩
  | list js ih =>
    have hitems : ∀ j ∈ js, j.Scans := fun j hj => ih j hj (itemsReadBack_iff.1 hback j hj)
    exact scans_of_succ fun fuel rest hfuel _ => exists_scan_list fuel hitems hfuel rest
  | record ms ih =>
    have hmembers : ∀ m ∈ ms, m.2.Scans := fun m hm => ih m hm (membersReadBack_iff.1 hback m hm)
    exact scans_of_succ fun fuel rest hfuel _ => exists_scan_record fuel hmembers hfuel rest

/-- The outline of the text of a value is one of the value, with nothing behind it. -/
theorem exists_ofChars_text (j : Json) (hback : j.readsBack) :
    ∃ o, j.HasOutline o ∧ ofChars j.text = (o, true) := by
  obtain ⟨o, ho, hscan⟩ := j.scans hback (2 * j.text.length + 1) [] (by omega) follows_nil
  rw [List.append_nil] at hscan
  refine ⟨o, ho, ?_⟩
  rw [ofChars, hscan]
  rfl

end

/-- A double is read back if the numeral that it is written as is read as its nearest double. -/
theorem Spells.readsBack [DoubleReader] {negative : Bool} {rank : Fin Double.count} {n : Numeral}
    (h : (double (.finite negative rank)).Spells n)
    (hnearest : DoubleReader.rank? n = DoubleReader.nearest.rank? n) :
    (Double.finite negative rank).readsBack := by
  obtain ⟨m, hm, hwhole, hneg, hrank⟩ := exists_spells_double negative rank
  obtain rfl : n = m := h.unique hm
  have hfinite : DoubleReader.rank? n = some rank := by
    rw [hnearest]
    change Double.finiteRank? n.toDecimal.rank = some rank
    rw [hrank, Double.finiteRank?, dif_pos rank.2]
  rw [hm.readsBack_iff, Numeral.read, hwhole, Numeral.readDouble, hfinite, hneg]
  rfl

/-- Where every numeral is read as its nearest double, all doubles are read back. -/
theorem readsBack_nearest (j : Json) : @Json.readsBack .nearest j := by
  induction j with
  | double d =>
    cases d with
    | finite negative rank =>
      obtain ⟨n, hn, _⟩ := exists_spells_double negative rank
      exact @Spells.readsBack .nearest _ _ _ hn rfl
    | _ => rfl
  | list js ih => exact (@itemsReadBack_iff .nearest js).2 ih
  | record ms ih => exact (@membersReadBack_iff .nearest ms).2 ih
  | _ => rfl

/-- The scaling reader reads a double back that is written with few digits and near its point. -/
theorem readsBack_scaling {negative : Bool} {rank : Fin Double.count} {n : Numeral}
    (h : (double (.finite negative rank)).Spells n) (hn : DoubleReader.HasExactFactors n) :
    @Double.readsBack .scaling (.finite negative rank) :=
  @Spells.readsBack .scaling _ _ _ h (DoubleReader.rank?_scaling hn)

end Json

end CypherTemplate
