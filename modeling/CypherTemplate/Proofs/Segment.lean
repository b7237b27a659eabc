import Mathlib.Data.List.TakeWhile
import CypherTemplate.Query.Inline

/-!
The segments of a query text: quoted sections, places that look like a placeholder, and single
characters. They hang on the text and the style alone. Inlining goes through the segments and
replaces each placeholder that has a value.
-/
namespace CypherTemplate

/-- A stretch of query text that is copied or replaced as a whole. -/
inductive Segment where
  /-- A quoted section with its quotes. -/
  | quoted (cs : List Char)
  | placeholder (name : List Char)
  | char (c : Char)
  deriving DecidableEq, Repr

namespace Segment

def text (style : ParamStyle) : Segment → List Char
  | .quoted cs => cs
  | .placeholder name => style.placeholder name
  | .char c => [c]

/-- The text with the value in place of a placeholder that has one. -/
def inline (values : KeyMap Value) (style : ParamStyle) : Segment → List Char
  | .placeholder name =>
    match values.get? (String.ofList name) with
    | some v => v.literal
    | none => style.placeholder name
  | s => s.text style

def isPlaceholder : Segment → Bool
  | .placeholder _ => true
  | _ => false

theorem inline_of_not_isPlaceholder (values : KeyMap Value) (style : ParamStyle) {s : Segment}
    (h : ¬s.isPlaceholder) : s.inline values style = s.text style := by
  cases s with
  | placeholder name => exact absurd rfl h
  | _ => rfl

end Segment

namespace ParamStyle

/-- A character that begins neither a quoted section nor a placeholder. -/
def isOrdinary (s : ParamStyle) (c : Char) : Bool :=
  c ≠ '"' && c ≠ '\x60' && c ≠ s.opening

/-- The segments of a text, from left to right. -/
def segments (s : ParamStyle) : List Char → List Segment
  | [] => []
  | c :: cs =>
    if c = '"' then
      .quoted ('"' :: (Quoted.splitEnd cs).1) :: s.segments (Quoted.splitEnd cs).2
    else if c = '\x60' then
      .quoted ('\x60' :: (Backticked.splitEnd cs).1) :: s.segments (Backticked.splitEnd cs).2
    else
      match _h : s.splitPlaceholder (c :: cs) with
      | some (name, rest) => .placeholder name :: s.segments rest
      | none => .char c :: s.segments cs
termination_by cs => cs.length
decreasing_by
  · exact Nat.lt_succ_of_le (Quoted.length_splitEnd_le cs)
  · exact Nat.lt_succ_of_le (Backticked.length_splitEnd_le cs)
  · exact length_splitPlaceholder_lt ‹_›
  · exact Nat.lt_succ_self _

variable (s : ParamStyle)

@[simp] theorem segments_nil : s.segments [] = [] := by
  rw [segments]

@[simp] theorem segments_quote (cs : List Char) :
    s.segments ('"' :: cs) =
      .quoted ('"' :: (Quoted.splitEnd cs).1) :: s.segments (Quoted.splitEnd cs).2 := by
  rw [segments, if_pos rfl]

@[simp] theorem segments_backtick (cs : List Char) :
    s.segments ('\x60' :: cs) =
      .quoted ('\x60' :: (Backticked.splitEnd cs).1) :: s.segments (Backticked.splitEnd cs).2 := by
  rw [segments, if_neg (by decide), if_pos rfl]

variable {s}

theorem opening_ne : s.opening ≠ '"' ∧ s.opening ≠ '\x60' := by
  cases s <;> decide

theorem splitPlaceholder_of_ne {c : Char} (h : c ≠ s.opening) (cs : List Char) :
    s.splitPlaceholder (c :: cs) = none := by
  rw [splitPlaceholder, if_neg h]

/-- A character that begins nothing else is a segment of its own. -/
theorem segments_char {c : Char} {cs : List Char} (hq : c ≠ '"') (hb : c ≠ '\x60')
    (h : s.splitPlaceholder (c :: cs) = none) : s.segments (c :: cs) = .char c :: s.segments cs := by
  rw [segments, if_neg hq, if_neg hb]
  split
  · simp_all
  · rfl

theorem segments_placeholder {c : Char} {cs name rest : List Char}
    (h : s.splitPlaceholder (c :: cs) = some (name, rest)) :
    s.segments (c :: cs) = .placeholder name :: s.segments rest := by
  have hc : c = s.opening := by
    by_contra hc
    simp [splitPlaceholder_of_ne hc] at h
  subst hc
  rw [segments, if_neg opening_ne.1, if_neg opening_ne.2]
  split
  · simp_all
  · simp_all

theorem isOrdinary_iff {c : Char} :
    s.isOrdinary c ↔ c ≠ '"' ∧ c ≠ '\x60' ∧ c ≠ s.opening := by
  simp [isOrdinary, and_assoc]

theorem segments_ordinary {c : Char} (h : s.isOrdinary c) (cs : List Char) :
    s.segments (c :: cs) = .char c :: s.segments cs := by
  obtain ⟨hq, hb, ho⟩ := isOrdinary_iff.1 h
  exact segments_char hq hb (splitPlaceholder_of_ne ho cs)

/-- Ordinary characters are segments of their own, whatever follows. -/
theorem segments_append_of_ordinary {cs : List Char} (h : ∀ c ∈ cs, s.isOrdinary c)
    (rest : List Char) : s.segments (cs ++ rest) = cs.map .char ++ s.segments rest := by
  induction cs with
  | nil => rfl
  | cons c cs ih =>
    rw [List.cons_append, segments_ordinary (h c (by simp)), ih fun c hc => h c (by simp [hc])]
    rfl

theorem isOrdinary_of_isPart {c : Char} (h : Identifier.isPart c) : s.isOrdinary c := by
  rw [isOrdinary_iff]
  refine ⟨?_, ?_, ?_⟩
  · rintro rfl
    exact absurd h (by decide)
  · rintro rfl
    exact absurd h (by decide)
  · rintro rfl
    cases s <;> exact absurd h (by decide)

theorem exists_placeholder_eq_cons (s : ParamStyle) (name : List Char) :
    ∃ c cs, s.placeholder name = c :: cs := by
  cases s
  · exact ⟨'\x7b', name ++ ['\x7d'], rfl⟩
  · exact ⟨'$', name, rfl⟩

/-- The name of a placeholder in front of a rest. Behind a dollar it goes as far as it can. -/
structure IsPlaceholder (s : ParamStyle) (name rest : List Char) : Prop where
  ne_nil : name ≠ []
  isPart : ∀ c ∈ name, Identifier.isPart c
  maximal : s = .dollar → ∀ c ∈ rest.head?, Identifier.isPart c = false

theorem not_isPart_head?_dropWhile (cs : List Char) :
    ∀ c ∈ (cs.dropWhile Identifier.isPart).head?, Identifier.isPart c = false := by
  intro c hc
  have hstop := List.head?_dropWhile_not Identifier.isPart cs
  rwa [Option.mem_def.1 hc] at hstop

theorem isPlaceholder_of_splitPlaceholder {cs name rest : List Char}
    (h : s.splitPlaceholder cs = some (name, rest)) :
    cs = s.placeholder name ++ rest ∧ s.IsPlaceholder name rest := by
  cases cs with
  | nil => simp [splitPlaceholder] at h
  | cons c cs =>
    simp only [splitPlaceholder] at h
    split at h
    · rename_i hc
      subst hc
      have hsplit := cs.takeWhile_append_dropWhile (p := Identifier.isPart)
      have hstop := not_isPart_head?_dropWhile cs
      split at h
      · simp at h
      · rename_i hne
        obtain ⟨r, hr, heq⟩ := Option.map_eq_some_iff.1 h
        cases heq
        have hpart : ∀ c ∈ cs.takeWhile Identifier.isPart, Identifier.isPart c := fun c hc =>
          List.mem_takeWhile_imp hc
        cases s with
        | braces =>
          refine ⟨?_, hne, hpart, fun hs => absurd hs (by decide)⟩
          unfold close at hr
          split at hr <;> simp_all [placeholder, opening]
        | dollar =>
          simp only [close, Option.some.injEq] at hr
          subst hr
          refine ⟨?_, hne, hpart, fun _ => hstop⟩
          simp [placeholder, opening, hsplit]
    · simp at h

/-- Names go as far as no part of a name follows. -/
theorem span_isPart {name rest : List Char} (hname : ∀ c ∈ name, Identifier.isPart c)
    (hrest : ∀ c ∈ rest.head?, Identifier.isPart c = false) :
    (name ++ rest).takeWhile Identifier.isPart = name ∧
      (name ++ rest).dropWhile Identifier.isPart = rest := by
  rw [List.takeWhile_append_of_pos hname, List.dropWhile_append_of_pos hname]
  cases rest with
  | nil => simp
  | cons c rest => simp [hrest c rfl]

theorem splitPlaceholder_append {name rest : List Char} (h : s.IsPlaceholder name rest) :
    s.splitPlaceholder (s.placeholder name ++ rest) = some (name, rest) := by
  have hne := h.ne_nil
  cases s with
  | braces =>
    have hclose : ∀ c ∈ ('\x7d' :: rest).head?, Identifier.isPart c = false := by
      rintro c ⟨⟩
      decide
    obtain ⟨htake, hdrop⟩ := span_isPart h.isPart hclose
    simp only [placeholder, List.cons_append, List.append_assoc, List.nil_append, splitPlaceholder,
      opening, if_true, htake, hdrop]
    rfl
  | dollar =>
    obtain ⟨htake, hdrop⟩ := span_isPart h.isPart (h.maximal rfl)
    simp only [placeholder, List.cons_append, splitPlaceholder, opening, if_true, htake, hdrop]
    rfl

/-- What is found at the start of a text are the placeholders. -/
theorem splitPlaceholder_eq_some_iff {cs name rest : List Char} :
    s.splitPlaceholder cs = some (name, rest) ↔
      cs = s.placeholder name ++ rest ∧ s.IsPlaceholder name rest := by
  refine ⟨isPlaceholder_of_splitPlaceholder, ?_⟩
  rintro ⟨rfl, h⟩
  exact splitPlaceholder_append h

/-- No character of a text is lost in its segments. -/
theorem flatMap_text_segments (cs : List Char) :
    (s.segments cs).flatMap (Segment.text s) = cs := by
  fun_induction segments s cs with
  | case1 => rfl
  | case2 cs ih => simp [Segment.text, ih, Quoted.splitEnd_append]
  | case3 cs _ ih => simp [Segment.text, ih, Backticked.splitEnd_append]
  | case4 c cs _ _ name rest h ih =>
    rw [List.flatMap_cons, ih, (isPlaceholder_of_splitPlaceholder h).1]
    rfl
  | case5 c cs _ _ _ ih => simp [Segment.text, ih]

end ParamStyle

namespace Query

variable (values : KeyMap Value) {style : ParamStyle}

theorem inlineText_nil : inlineText values style [] = [] := by
  rw [inlineText]

theorem inlineText_quote (cs : List Char) :
    inlineText values style ('"' :: cs) =
      '"' :: (Quoted.splitEnd cs).1 ++ inlineText values style (Quoted.splitEnd cs).2 := by
  rw [inlineText, if_pos rfl]

theorem inlineText_backtick (cs : List Char) :
    inlineText values style ('\x60' :: cs) =
      '\x60' :: (Backticked.splitEnd cs).1 ++ inlineText values style (Backticked.splitEnd cs).2 := by
  rw [inlineText, if_neg (by decide), if_pos rfl]

theorem inlineText_value {c : Char} {cs rest : List Char} {v : Value}
    (h : values.placeholder? style (c :: cs) = some (v, rest)) :
    inlineText values style (c :: cs) = v.literal ++ inlineText values style rest := by
  have hc : c = style.opening := by
    by_contra hc
    simp [KeyMap.placeholder?, ParamStyle.splitPlaceholder_of_ne hc] at h
  subst hc
  rw [inlineText, if_neg ParamStyle.opening_ne.1, if_neg ParamStyle.opening_ne.2]
  split
  · simp_all
  · simp_all

theorem inlineText_char {c : Char} {cs : List Char} (hq : c ≠ '"') (hb : c ≠ '\x60')
    (h : values.placeholder? style (c :: cs) = none) :
    inlineText values style (c :: cs) = c :: inlineText values style cs := by
  rw [inlineText, if_neg hq, if_neg hb]
  split
  · simp_all
  · rfl

theorem inlineText_append_of_ordinary {cs : List Char} (h : ∀ c ∈ cs, style.isOrdinary c)
    (rest : List Char) :
    inlineText values style (cs ++ rest) = cs ++ inlineText values style rest := by
  induction cs with
  | nil => rfl
  | cons c cs ih =>
    obtain ⟨hq, hb, ho⟩ := ParamStyle.isOrdinary_iff.1 (h c (by simp))
    have hnone : values.placeholder? style (c :: (cs ++ rest)) = none := by
      rw [KeyMap.placeholder?, ParamStyle.splitPlaceholder_of_ne ho]
    rw [List.cons_append, inlineText_char values hq hb hnone, ih fun c hc => h c (by simp [hc])]
    rfl

/-- A placeholder without a value is passed character by character, and nothing in it stops the
scan on its way. -/
theorem inlineText_unbound {cs name rest : List Char}
    (hs : style.splitPlaceholder cs = some (name, rest))
    (hv : values.get? (String.ofList name) = none) :
    inlineText values style cs = style.placeholder name ++ inlineText values style rest := by
  obtain ⟨hcs, hplaceholder⟩ := ParamStyle.isPlaceholder_of_splitPlaceholder hs
  have hnone : values.placeholder? style cs = none := by
    rw [KeyMap.placeholder?, hs]
    simp [hv]
  have hpart : ∀ c ∈ name, style.isOrdinary c := fun c hc =>
    ParamStyle.isOrdinary_of_isPart (hplaceholder.isPart c hc)
  subst hcs
  cases style with
  | braces =>
    have hclose : ∀ c ∈ name ++ ['\x7d'], ParamStyle.braces.isOrdinary c := by
      intro c hc
      rcases List.mem_append.1 hc with hc | hc
      · exact hpart c hc
      · cases List.mem_singleton.1 hc
        decide
    have htail : inlineText values .braces (name ++ ['\x7d'] ++ rest) = _ :=
      inlineText_append_of_ordinary values hclose rest
    have hopen : inlineText values .braces ('\x7b' :: (name ++ ['\x7d'] ++ rest)) = _ :=
      inlineText_char values (by decide) (by decide) hnone
    exact hopen.trans (congrArg _ htail)
  | dollar =>
    have hopen : inlineText values .dollar ('$' :: (name ++ rest)) = _ :=
      inlineText_char values (by decide) (by decide) hnone
    exact hopen.trans (congrArg _ (inlineText_append_of_ordinary values hpart rest))

/-- Inlining works on segments that do not hang on the values. -/
theorem inlineText_eq_flatMap_segments (cs : List Char) :
    inlineText values style cs = (style.segments cs).flatMap (Segment.inline values style) := by
  fun_induction ParamStyle.segments style cs with
  | case1 => rw [inlineText_nil]; rfl
  | case2 cs ih => rw [inlineText_quote, ih]; rfl
  | case3 cs _ ih => rw [inlineText_backtick, ih]; rfl
  | case4 c cs _ _ name rest h ih =>
    rw [List.flatMap_cons, ← ih]
    cases hv : values.get? (String.ofList name) with
    | none => rw [inlineText_unbound values h hv, Segment.inline, hv]
    | some v =>
      have hp : values.placeholder? style (c :: cs) = some (v, rest) := by
        rw [KeyMap.placeholder?, h]
        simp [hv]
      rw [inlineText_value values hp, Segment.inline, hv]
  | case5 c cs hq hb h ih =>
    have hp : values.placeholder? style (c :: cs) = none := by
      rw [KeyMap.placeholder?, h]
    rw [inlineText_char values hq hb hp, ih]
    rfl

end Query

end CypherTemplate
