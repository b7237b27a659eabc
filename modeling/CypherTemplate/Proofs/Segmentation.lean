import Mathlib.Data.List.Basic
import CypherTemplate.Proofs.Offset

/-!
What the segments of a text are, said without a scan. A quoted section ends at its first quote that is
neither escaped nor doubled, or else with the text; a placeholder is a name in its delimiters; what
begins neither is a character of its own. Each text has just one such segmentation, so the values have
no say in it: they are written in place of their placeholders, and all else is copied.
-/
namespace CypherTemplate

/-- What may stand between the quotes of a section: double quotes have escapes and no quote, and
backticks stand twice between backticks. -/
inductive SectionBody (quote : Char) : List Char → Prop where
  | nil : SectionBody quote []
  | char {c : Char} {cs : List Char} : c ≠ quote → (quote = '"' → c ≠ '\\') →
    SectionBody quote cs → SectionBody quote (c :: cs)
  | escaped {c : Char} {cs : List Char} : quote = '"' →
    SectionBody quote cs → SectionBody quote ('\\' :: c :: cs)
  | doubled {cs : List Char} : quote = '\x60' →
    SectionBody quote cs → SectionBody quote ('\x60' :: '\x60' :: cs)

/-- A quoted section, opening quote included, in front of a rest. Without an end it goes up to the end
of the text, where a backslash may have nothing to escape. -/
inductive IsSection (quote : Char) : List Char → List Char → Prop where
  | closed {body rest : List Char} : SectionBody quote body →
    (quote = '\x60' → ∀ c ∈ rest.head?, c ≠ '\x60') →
    IsSection quote (quote :: (body ++ [quote])) rest
  | unclosed {body : List Char} : SectionBody quote body → IsSection quote (quote :: body) []
  | dangling {body : List Char} : quote = '"' → SectionBody quote body →
    IsSection quote (quote :: (body ++ ['\\'])) []

/-- What may stand in a section may stand in front of all else in it. -/
theorem IsSection.append {quote : Char} {s rest : List Char} (front : List Char)
    (hfront : ∀ body, SectionBody quote body → SectionBody quote (front ++ body))
    (h : IsSection quote (quote :: s) rest) : IsSection quote (quote :: (front ++ s)) rest := by
  generalize hs : quote :: s = cs at h
  cases h with
  | closed hbody hend =>
    cases hs
    rw [← List.append_assoc]
    exact .closed (hfront _ hbody) hend
  | unclosed hbody =>
    cases hs
    exact .unclosed (hfront _ hbody)
  | dangling hq hbody =>
    cases hs
    rw [← List.append_assoc]
    exact .dangling hq (hfront _ hbody)

namespace Quoted

theorem splitEnd_body {body : List Char} (h : SectionBody '"' body) (cs : List Char) :
    splitEnd (body ++ cs) = (body ++ (splitEnd cs).1, (splitEnd cs).2) := by
  induction h with
  | nil => rfl
  | @char c body hc hslash _ ih => simp [splitEnd, hc, hslash rfl, ih]
  | escaped _ _ ih => simp [splitEnd, ih]
  | doubled h => exact absurd h (by decide)

theorem exists_splitEnd_of_isSection {cs rest : List Char} (h : IsSection '"' cs rest) :
    ∃ s, cs = '"' :: s ∧ splitEnd (s ++ rest) = (s, rest) := by
  cases h with
  | @closed body _ hbody _ =>
    refine ⟨body ++ ['"'], rfl, ?_⟩
    rw [List.append_assoc, splitEnd_body hbody]
    simp [splitEnd]
  | @unclosed body hbody =>
    refine ⟨body, rfl, ?_⟩
    rw [splitEnd_body hbody]
    simp [splitEnd]
  | @dangling body _ hbody =>
    refine ⟨body ++ ['\\'], rfl, ?_⟩
    rw [List.append_assoc, splitEnd_body hbody]
    simp [splitEnd]

theorem isSection_splitEnd (cs : List Char) :
    IsSection '"' ('"' :: (splitEnd cs).1) (splitEnd cs).2 := by
  fun_induction splitEnd cs with
  | case1 => exact .unclosed .nil
  | case2 c cs s rest h ih =>
    rw [h] at ih
    exact ih.append ['\\', c] fun body hbody => .escaped rfl hbody
  | case3 cs _ => exact .closed .nil fun hquote => absurd hquote (by decide)
  | case4 c cs hescape hc s rest h ih =>
    by_cases hslash : c = '\\'
    · cases cs with
      | nil =>
        cases h
        exact hslash ▸ .dangling rfl .nil
      | cons d ds => exact (hescape d ds hslash rfl).elim
    · rw [h] at ih
      exact ih.append [c] fun body hbody => .char hc (fun _ => hslash) hbody

end Quoted

namespace Backticked

theorem splitEnd_body {body : List Char} (h : SectionBody '\x60' body) (cs : List Char) :
    splitEnd (body ++ cs) = (body ++ (splitEnd cs).1, (splitEnd cs).2) := by
  induction h with
  | nil => rfl
  | char hc _ _ ih => simp [splitEnd, hc, ih]
  | escaped h => exact absurd h (by decide)
  | doubled _ _ ih => simp [splitEnd, ih]

theorem exists_splitEnd_of_isSection {cs rest : List Char} (h : IsSection '\x60' cs rest) :
    ∃ s, cs = '\x60' :: s ∧ splitEnd (s ++ rest) = (s, rest) := by
  cases h with
  | @closed body _ hbody hend =>
    refine ⟨body ++ ['\x60'], rfl, ?_⟩
    rw [List.append_assoc, splitEnd_body hbody, List.singleton_append,
      splitEnd_closing (hend rfl)]
  | @unclosed body hbody =>
    refine ⟨body, rfl, ?_⟩
    rw [splitEnd_body hbody]
    simp [splitEnd]
  | dangling h => exact absurd h (by decide)

theorem isSection_splitEnd (cs : List Char) :
    IsSection '\x60' ('\x60' :: (splitEnd cs).1) (splitEnd cs).2 := by
  fun_induction splitEnd cs with
  | case1 => exact .unclosed .nil
  | case2 cs s rest h ih =>
    rw [h] at ih
    exact ih.append ['\x60', '\x60'] fun body hbody => .doubled rfl hbody
  | case3 cs hdouble =>
    refine .closed .nil fun _ c hc heq => ?_
    obtain ⟨ds, rfl⟩ := List.head?_eq_some_iff.1 hc
    exact hdouble ds rfl (heq ▸ rfl)
  | case4 c cs _ hc s rest h ih =>
    rw [h] at ih
    exact ih.append [c] fun body hbody => .char hc (fun hquote => absurd hquote (by decide)) hbody

end Backticked

/-- The segmentation of a text: quoted sections, placeholders, and the characters that begin neither. -/
inductive Segmented (s : ParamStyle) : List Char → List Segment → Prop where
  | nil : Segmented s [] []
  | quoted {quote : Char} {cs rest : List Char} {segs : List Segment} :
    quote = '"' ∨ quote = '\x60' → IsSection quote cs rest → Segmented s rest segs →
    Segmented s (cs ++ rest) (.quoted cs :: segs)
  | placeholder {name rest : List Char} {segs : List Segment} : s.IsPlaceholder name rest →
    Segmented s rest segs → Segmented s (s.placeholder name ++ rest) (.placeholder name :: segs)
  | char {c : Char} {cs : List Char} {segs : List Segment} : c ≠ '"' → c ≠ '\x60' →
    (∀ name rest, s.IsPlaceholder name rest → c :: cs ≠ s.placeholder name ++ rest) →
    Segmented s cs segs → Segmented s (c :: cs) (.char c :: segs)

namespace ParamStyle

variable {s : ParamStyle}

theorem segments_section {quote : Char} {cs rest : List Char} (hquote : quote = '"' ∨ quote = '\x60')
    (h : IsSection quote cs rest) : s.segments (cs ++ rest) = .quoted cs :: s.segments rest := by
  rcases hquote with rfl | rfl
  · obtain ⟨body, rfl, hend⟩ := Quoted.exists_splitEnd_of_isSection h
    rw [List.cons_append, segments_quote, hend]
  · obtain ⟨body, rfl, hend⟩ := Backticked.exists_splitEnd_of_isSection h
    rw [List.cons_append, segments_backtick, hend]

/-- A text has one segmentation, and the scan finds it. -/
theorem segmented_iff {cs : List Char} {segs : List Segment} :
    Segmented s cs segs ↔ segs = s.segments cs := by
  constructor
  · intro h
    induction h with
    | nil => rw [segments_nil]
    | quoted hquote hsection _ ih => rw [segments_section hquote hsection, ih]
    | @placeholder name rest segs hname _ ih =>
      obtain ⟨c, cs, hc⟩ := s.exists_placeholder_eq_cons name
      have hsplit := splitPlaceholder_append hname
      rw [hc, List.cons_append] at hsplit ⊢
      rw [segments_placeholder hsplit, ih]
    | @char c cs segs hquote hbacktick hnone _ ih =>
      have hsplit : s.splitPlaceholder (c :: cs) = none := by
        by_contra hsome
        obtain ⟨p, hp⟩ := Option.ne_none_iff_exists'.1 hsome
        obtain ⟨hcs, hname⟩ := splitPlaceholder_eq_some_iff.1 hp
        exact hnone p.1 p.2 hname hcs
      rw [segments_char hquote hbacktick hsplit, ih]
  · rintro rfl
    fun_induction segments s cs with
    | case1 => exact .nil
    | case2 cs ih =>
      have h := Segmented.quoted (.inl rfl) (Quoted.isSection_splitEnd cs) ih
      rwa [List.cons_append, Quoted.splitEnd_append] at h
    | case3 cs _ ih =>
      have h := Segmented.quoted (.inr rfl) (Backticked.isSection_splitEnd cs) ih
      rwa [List.cons_append, Backticked.splitEnd_append] at h
    | case4 c cs _ _ name rest h ih =>
      obtain ⟨hcs, hname⟩ := splitPlaceholder_eq_some_iff.1 h
      rw [hcs]
      exact .placeholder hname ih
    | case5 c cs hquote hbacktick h ih =>
      refine .char hquote hbacktick (fun name rest hname hcs => ?_) ih
      rw [splitPlaceholder_eq_some_iff.2 ⟨hcs, hname⟩] at h
      cases h

end ParamStyle

namespace Segment

/-- Values of other names than that of a placeholder have no say in it. -/
theorem inline_congr {values others : KeyMap Value} {style : ParamStyle} {s : Segment}
    (h : ∀ name, s = .placeholder name →
      others.get? (String.ofList name) = values.get? (String.ofList name)) :
    s.inline others style = s.inline values style := by
  cases s with
  | placeholder name => rw [inline, inline, h name rfl]
  | _ => rfl

end Segment

namespace Query

theorem toList_inline (q : Query) :
    q.inline.toList = (q.paramStyle.segments q.text.toList).flatMap
      (Segment.inline q.parameters q.paramStyle) := by
  rw [inline, String.toList_ofList, inlineText_eq_flatMap_segments]

/-- The text of a query and the style of its placeholders fix the one segmentation of the text, whatever
the values are. The scan by offsets ends without a bad cut, and it writes the segments one after
another, each placeholder that has a value as the literal of that and all else as it stands. So without
values nothing changes, and values of names without a placeholder change nothing. -/
theorem exists_segmentation (text : String) (style : ParamStyle) :
    ∃ segs, (∀ others, Segmented style text.toList others ↔ others = segs) ∧
      segs.flatMap (Segment.text style) = text.toList ∧
      inline ⟨text, .empty, style⟩ = text ∧
      ∀ values : KeyMap Value,
        (∀ k, Cursor.Run values style ⟨text, ""⟩ k ↔ k = ⟨"", inline ⟨text, values, style⟩⟩) ∧
        (inline ⟨text, values, style⟩).toList = segs.flatMap (Segment.inline values style) ∧
        ∀ others : KeyMap Value,
          (∀ name, .placeholder name ∈ segs →
            others.get? (String.ofList name) = values.get? (String.ofList name)) →
          inline ⟨text, others, style⟩ = inline ⟨text, values, style⟩ := by
  refine ⟨style.segments text.toList, fun _ => ParamStyle.segmented_iff,
    ParamStyle.flatMap_text_segments _, ?_, fun values => ⟨fun k => Cursor.run_iff, ?_, ?_⟩⟩
  · have hempty : ∀ s : Segment, s.inline .empty style = s.text style := by
      rintro (_ | _ | _) <;> rfl
    rw [← String.toList_inj, toList_inline, List.flatMap_congr fun s _ => hempty s,
      ParamStyle.flatMap_text_segments]
  · exact toList_inline _
  · intro others hothers
    rw [← String.toList_inj, toList_inline, toList_inline]
    refine List.flatMap_congr fun s hs => Segment.inline_congr fun name hname => ?_
    exact hothers name (hname ▸ hs)

end Query

end CypherTemplate
