import CypherTemplate.Proofs.NormalName
import CypherTemplate.Proofs.SectionLength

/-!
Names as tokens. A name is written bare just when it is a plain identifier and spells no reserved word,
its letters being large or small; any other is a section between backticks, which ends where the name
does unless one more backtick follows. What a token stands for can be read off it, so two names share a
token only if they are the same once sanitized.
-/
namespace CypherTemplate

namespace Identifier

/-- Whether a text is a word in capitals, each letter of it large or small. -/
def Spells (word cs : List Char) : Prop := List.Forall₂ (fun k c => c = k ∨ c = k.toLower) word cs

theorem toUpper_eq_iff {k c : Char} (hk : k.isUpper) : c.toUpper = k ↔ c = k ∨ c = k.toLower := by
  have hk : k.val ≥ 'A'.val ∧ k.val ≤ 'Z'.val := of_decide_eq_true hk
  unfold Char.toUpper Char.toLower
  rw [dif_pos hk]
  split <;> simp only [Char.ext_iff] <;> grind

theorem spells_iff {word cs : List Char} (h : ∀ k ∈ word, k.isUpper) :
    Spells word cs ↔ word = cs.map Char.toUpper := by
  induction word generalizing cs with
  | nil => cases cs <;> simp [Spells]
  | cons k word ih =>
    cases cs with
    | nil => simp [Spells]
    | cons c cs =>
      have hk : c.toUpper = k ↔ c = k ∨ c = k.toLower := toUpper_eq_iff (h k List.mem_cons_self)
      have hrest : Spells word cs ↔ word = cs.map Char.toUpper :=
        ih fun l hl => h l (List.mem_cons_of_mem k hl)
      rw [List.map_cons, List.cons.injEq, ← hrest, eq_comm, hk]
      exact List.forall₂_cons

theorem all_isUpper_keywords : keywords.all (·.toList.all Char.isUpper) := by decide

theorem isUpper_of_mem_keywords {word : String} (h : word ∈ keywords) :
    ∀ k ∈ word.toList, k.isUpper :=
  List.all_eq_true.1 (List.all_eq_true.1 all_isUpper_keywords word h)

theorem isKeyword_iff (cs : List Char) :
    isKeyword cs ↔ ∃ word ∈ keywords, Spells word.toList cs := by
  simp only [isKeyword, List.any_eq_true, beq_iff_eq]
  refine exists_congr fun word => and_congr_right fun hword => ?_
  exact (spells_iff (isUpper_of_mem_keywords hword)).symm

theorem isVariable_iff (cs : List Char) :
    isVariable cs ↔ isPlain cs ∧ ∀ word ∈ keywords, ¬Spells word.toList cs := by
  have hkeyword := isKeyword_iff cs
  cases h : isKeyword cs <;> simp_all [isVariable]

end Identifier

namespace Backticked

theorem sectionBody_double (cs : List Char) : SectionBody '\x60' (double cs) := by
  induction cs with
  | nil => exact .nil
  | cons c cs ih =>
    rw [double]
    split
    · exact .doubled rfl ih
    · rename_i hc
      exact .char hc (fun h => absurd h (by decide)) ih

/-- A backticked name is a section unless one more backtick follows. -/
theorem isSection_quote_iff {cs rest : List Char} :
    IsSection '\x60' (quote cs) rest ↔ ∀ c ∈ rest.head?, c ≠ '\x60' := by
  constructor
  · generalize quote cs = token
    -- A section that is not closed has nothing behind it.
    rintro (⟨_, hend⟩ | _ | _)
    · exact hend rfl
    · simp
    · simp
  · exact fun h => .closed (sectionBody_double cs) fun _ => h

theorem length_le_length_double (cs : List Char) : cs.length ≤ (double cs).length := by
  induction cs with
  | nil => exact Nat.le_refl _
  | cons c cs ih =>
    rw [double]
    split <;> simp only [List.length_cons] <;> omega

theorem quote_ne_self (cs : List Char) : quote cs ≠ cs := by
  intro h
  have hlength := congrArg List.length h
  have hdouble := length_le_length_double cs
  simp only [quote, List.length_append, List.length_cons, List.length_nil] at hlength
  omega

end Backticked

namespace Name

theorem token_eq_self_iff (cs : List Char) : token cs = cs ↔ Identifier.isVariable cs := by
  constructor
  · intro h
    rcases token_cases cs with ⟨hvariable, _⟩ | hquote
    · exact hvariable
    · exact absurd (hquote.symm.trans h) (Backticked.quote_ne_self cs)
  · exact fun h => if_pos h

theorem token_of_ne {cs : List Char} (h : token cs ≠ cs) : token cs = Backticked.quote cs :=
  (token_cases cs).elim (fun hbare => absurd hbare.2 h) id

/-- The token of a name is the sanitized name, just when this is a plain identifier and no reserved word
in large or small letters, or else the sanitized name between backticks with its own backticks written
twice. In front of a text the latter is what the scan takes for a section, by its bytes, just when the
text does not begin with a backtick. Either form gives the sanitized name back, so names with one token
are the same when sanitized. -/
theorem escape_isToken (name : String) :
    (escape name = sanitize name.toList ↔
      Identifier.isPlain (sanitize name.toList) ∧
        ∀ word ∈ Identifier.keywords, ¬Identifier.Spells word.toList (sanitize name.toList)) ∧
    (escape name ≠ sanitize name.toList →
      escape name = Backticked.quote (sanitize name.toList) ∧
      ∀ rest, (sectionLength '\x60' (escape name ++ rest) = byteLength (escape name) ↔
          ∀ c ∈ rest.head?, c ≠ '\x60') ∧
        ((∀ c ∈ rest.head?, c ≠ '\x60') → ∀ values style,
          Cursor.next values style (String.ofList (escape name ++ rest)) =
            .ok (String.ofList (escape name), byteLength (escape name)))) ∧
    carried (escape name) = sanitize name.toList ∧
    ∀ other, escape name = escape other ↔ sanitize name.toList = sanitize other.toList := by
  refine ⟨?_, fun hne => ?_, carried_escape name, fun other => ⟨fun h => ?_, fun h => ?_⟩⟩
  · rw [← Identifier.isVariable_iff]
    exact token_eq_self_iff _
  · have hquote : escape name = Backticked.quote (sanitize name.toList) := token_of_ne hne
    refine ⟨hquote, fun rest => ?_⟩
    rw [hquote]
    refine ⟨?_, fun hrest => ?_⟩
    · exact (sectionLength_eq_iff (.inr rfl)).trans Backticked.isSection_quote_iff
    · exact (Backticked.isSection_quote_iff.2 hrest).next_eq (.inr rfl)
  · exact token_injective h
  · rw [escape, h, escape]

/-- A name with backticks at both ends. -/
def fenced : String := "\x60a\x60"

theorem escape_fenced :
    escape fenced ≠ sanitize fenced.toList ∧
    sectionLength '\x60' (escape fenced ++ [' ', '=']) = byteLength (escape fenced) ∧
    (∀ values style, Cursor.next values style (String.ofList (escape fenced ++ [' ', '='])) =
      .ok (String.ofList (escape fenced), byteLength (escape fenced))) ∧
    sectionLength '\x60' (escape fenced ++ ['\x60']) ≠ byteLength (escape fenced) := by
  have hne : escape fenced ≠ sanitize fenced.toList := by decide +kernel
  have hspace : ∀ c ∈ [' ', '='].head?, c ≠ '\x60' := by simp
  have hbacktick : ¬∀ c ∈ ['\x60'].head?, c ≠ '\x60' := by simp
  obtain ⟨_, hrest⟩ := (escape_isToken fenced).2.1 hne
  exact ⟨hne, (hrest _).1.2 hspace, (hrest _).2 hspace, mt (hrest _).1.1 hbacktick⟩

end Name

end CypherTemplate
