import CypherTemplate.Proofs.Readable
import CypherTemplate.Proofs.SectionLength

/-!
Quoted strings as tokens. What stands between the quotes has no quote that a scan could take for the
last one, so the scan of a text that begins with a quoted string ends where the string does. A strict
reader of the six escapes accepts just the written forms and gives the strings back. The text that is
returned untouched is the one that the escapes would leave alone.
-/
namespace CypherTemplate

theorem SectionBody.append {quote : Char} {as bs : List Char} (ha : SectionBody quote as)
    (hb : SectionBody quote bs) : SectionBody quote (as ++ bs) := by
  induction ha with
  | nil => exact hb
  | char hc hslash _ ih => exact .char hc hslash ih
  | escaped hquote _ ih => exact .escaped hquote ih
  | doubled hquote _ ih => exact .doubled hquote ih

theorem SectionBody.of_forall {quote : Char} {cs : List Char}
    (h : ∀ c ∈ cs, c ≠ quote ∧ c ≠ '\\') : SectionBody quote cs := by
  induction cs with
  | nil => exact .nil
  | cons c cs ih =>
    obtain ⟨hc, hslash⟩ := h c List.mem_cons_self
    exact .char hc (fun _ => hslash) (ih fun d hd => h d (List.mem_cons_of_mem c hd))

namespace Quoted

theorem sectionBody_escapeChar (c : Char) : SectionBody '"' (escapeChar c) := by
  unfold escapeChar
  split
  case h_6 => exact .escaped rfl (.of_forall (by simp))
  case h_7 hslash hquote _ _ _ _ => exact .char hquote (fun _ => hslash) .nil
  all_goals exact .escaped rfl .nil

theorem sectionBody_escape (cs : List Char) : SectionBody '"' (escape cs) := by
  rw [escape_eq_flatMap]
  induction cs with
  | nil => exact .nil
  | cons c cs ih => exact (sectionBody_escapeChar c).append ih

/-- A quoted string is a section, whatever follows. -/
theorem isSection_quote (cs rest : List Char) : IsSection '"' (quote cs) rest :=
  .closed (sectionBody_escape cs) fun h => absurd h (by decide)

theorem escape_cons (c : Char) (cs : List Char) : escape (c :: cs) = escapeChar c ++ escape cs := by
  rw [escape_eq_flatMap, escape_eq_flatMap, List.flatMap_cons]

theorem escape_of_decode? {bs cs : List Char} (h : decode? bs = some cs) : escape cs = bs := by
  fun_induction decode? bs generalizing cs with
  | case1 => cases h; rfl
  | case8 c bs _ _ _ _ _ _ hc => cases h
  | case9 c bs _ _ _ _ _ _ hc ih =>
    obtain ⟨ds, hds, rfl⟩ := Option.map_eq_some_iff.1 h
    rw [escape_cons, ih hds, escapeChar_of_clean (Bool.eq_false_iff.2 hc), List.singleton_append]
  -- The six escapes differ in nothing but the characters they stand for.
  | _ =>
    rename_i ih
    obtain ⟨ds, hds, rfl⟩ := Option.map_eq_some_iff.1 h
    rw [escape_cons, ih hds]
    rfl

/-- Exactly the written forms are read, each as its string. -/
theorem decode?_eq_some_iff {bs cs : List Char} : decode? bs = some cs ↔ escape cs = bs :=
  ⟨escape_of_decode?, fun h => h ▸ decode?_escape cs⟩

theorem length_escapeChar (c : Char) :
    (escapeChar c).length =
      1 + (if needsEscape c then 1 else 0) + if c = '\x00' then 4 else 0 := by
  unfold escapeChar
  split <;> simp_all [needsEscape]

/-- An escape takes a second character, and that of a null four more. -/
theorem length_flatMap_escapeChar (cs : List Char) :
    (cs.flatMap escapeChar).length =
      cs.length + cs.countP needsEscape + 4 * cs.count '\x00' := by
  induction cs with
  | nil => rfl
  | cons c cs ih =>
    rw [List.flatMap_cons, List.length_append, ih, length_escapeChar, List.length_cons,
      List.countP_cons, List.count_cons]
    simp only [beq_iff_eq]
    split <;> split <;> omega

/-- Escapes are longer than what they stand for, so only a clean text is left alone. -/
theorem flatMap_escapeChar_eq_self_iff (cs : List Char) :
    cs.flatMap escapeChar = cs ↔ isClean cs := by
  constructor
  · intro h
    have hlength := congrArg List.length h
    rw [length_flatMap_escapeChar] at hlength
    have hnone : cs.countP needsEscape = 0 := by omega
    simpa [isClean, List.countP_eq_zero] using hnone
  · intro h
    rw [← escape_eq_flatMap, escape, if_pos h]

/-- A quoted string is a token of its own in front of any text: its bytes are those that the scan
counts there, and the scan copies it as a whole. Its body is read as the string and as no other one, and
nothing but the body is. Escaping goes character by character, and a text is returned untouched just
where that would change nothing. -/
theorem quote_isToken (cs rest : List Char) :
    sectionLength '"' (quote cs ++ rest) = byteLength (quote cs) ∧
    (∀ values style, Cursor.next values style (String.ofList (quote cs ++ rest)) =
      .ok (String.ofList (quote cs), byteLength (quote cs))) ∧
    (∀ body, decode? body = some cs ↔ quote cs = '"' :: body ++ ['"']) ∧
    (∀ ds, quote cs = quote ds ↔ cs = ds) ∧
    escape cs = cs.flatMap escapeChar ∧
    (isClean cs ↔ cs.flatMap escapeChar = cs) := by
  have hsection := isSection_quote cs rest
  refine ⟨hsection.sectionLength_eq (.inl rfl), hsection.next_eq (.inl rfl), fun body => ?_,
    fun ds => ⟨fun h => ?_, fun h => h ▸ rfl⟩, escape_eq_flatMap cs,
    (flatMap_escapeChar_eq_self_iff cs).symm⟩
  · rw [decode?_eq_some_iff, quote]
    simp
  · exact (quote_append_inj (congrArg (· ++ rest) h)).1

end Quoted

end CypherTemplate
