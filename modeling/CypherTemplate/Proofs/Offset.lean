import CypherTemplate.Proofs.Segment

/-!
Inlining by offsets. A round of the scan counts the bytes of what stands at the start of the text that
is left, writes it or the value in its place, and cuts the text behind them, which fails where no
character ends. No cut fails: what is counted are the bytes of whole characters. Each round shortens the
text and keeps what is written in the end, so the scan comes to an end with the inlined text.
-/
namespace CypherTemplate

/-- The bytes that characters take up in a text. -/
def byteLength (cs : List Char) : Nat := (String.ofList cs).utf8ByteSize

@[simp] theorem byteLength_nil : byteLength [] = 0 := by
  rw [byteLength, String.ofList_nil, String.utf8ByteSize_empty]

@[simp] theorem byteLength_cons (c : Char) (cs : List Char) :
    byteLength (c :: cs) = c.utf8Size + byteLength cs := by
  rw [byteLength, String.ofList_cons, String.utf8ByteSize_append, String.utf8ByteSize_singleton]
  rfl

@[simp] theorem byteLength_append (as bs : List Char) :
    byteLength (as ++ bs) = byteLength as + byteLength bs := by
  rw [byteLength, String.ofList_append, String.utf8ByteSize_append]
  rfl

/-- A cut that was asked for within a character of a text or beyond its end. -/
structure BadCut where
  text : String
  offset : Nat

/-- The parts of a text in front of an offset and behind it. -/
def cut (text : String) (offset : Nat) : Except BadCut (String × String) :=
  if h : String.Pos.Raw.IsValid text ⟨offset⟩ then
    .ok ((text.sliceTo (text.pos ⟨offset⟩ h)).copy, (text.sliceFrom (text.pos ⟨offset⟩ h)).copy)
  else .error ⟨text, offset⟩

/-- A text can be cut behind its first characters. -/
theorem cut_append (front rest : String) :
    cut (front ++ rest) front.utf8ByteSize = .ok (front, rest) := by
  have hsplits := String.Pos.splits_append_rawEndPos (s := front) (t := rest)
  have hvalid : String.Pos.Raw.IsValid (front ++ rest) ⟨front.utf8ByteSize⟩ :=
    String.Pos.Raw.isValid_rawEndPos.append_right rest
  rw [cut, dif_pos hvalid]
  exact congrArg Except.ok (Prod.ext hsplits.copy_sliceTo_eq hsplits.copy_sliceFrom_eq)

theorem cut_ofList (as bs : List Char) :
    cut (String.ofList (as ++ bs)) (byteLength as) = .ok (String.ofList as, String.ofList bs) := by
  rw [String.ofList_append]
  exact cut_append (String.ofList as) (String.ofList bs)

/-- Whether a character of a quoted section takes the next one with it: a backslash does in double
quotes, and a backtick takes another one in backticks. -/
def takesNext (quote c : Char) (cs : List Char) : Bool :=
  quote = '"' && c = '\\' || quote = '\x60' && c = '\x60' && cs.head? = some '\x60'

/-- The offset behind a section, given its opening quote and the offset and text behind that. -/
def sectionEnd (quote : Char) (offset : Nat) : List Char → Nat
  | [] => offset
  | c :: cs =>
    if takesNext quote c cs then
      sectionEnd quote (offset + c.utf8Size + byteLength (cs.take 1)) cs.tail
    else if c = quote then offset + c.utf8Size
    else sectionEnd quote (offset + c.utf8Size) cs
termination_by cs => cs.length

theorem sectionEnd_quote (offset : Nat) (cs : List Char) :
    sectionEnd '"' offset cs = offset + byteLength (Quoted.splitEnd cs).1 := by
  fun_induction Quoted.splitEnd cs generalizing offset with
  | case1 => simp [sectionEnd]
  | case2 c cs s rest h ih => simp [sectionEnd, takesNext, ih, h, Nat.add_assoc]
  | case3 cs _ => simp [sectionEnd, takesNext]
  | case4 c cs hescape hc s rest h ih =>
    by_cases hslash : c = '\\'
    · -- A backslash that ends the text takes nothing with it.
      cases cs with
      | nil => simp_all [sectionEnd, takesNext, Quoted.splitEnd]
      | cons d ds => exact (hescape d ds hslash rfl).elim
    · simp [sectionEnd, takesNext, hslash, hc, ih, h, Nat.add_assoc]

theorem sectionEnd_backtick (offset : Nat) (cs : List Char) :
    sectionEnd '\x60' offset cs = offset + byteLength (Backticked.splitEnd cs).1 := by
  fun_induction Backticked.splitEnd cs generalizing offset with
  | case1 => simp [sectionEnd]
  | case2 cs s rest h ih => simp [sectionEnd, takesNext, ih, h, Nat.add_assoc]
  | case3 cs hdouble =>
    have hnext : cs.head? ≠ some '\x60' := by
      intro hnext
      obtain ⟨ds, rfl⟩ := List.head?_eq_some_iff.1 hnext
      exact hdouble ds rfl rfl
    simp [sectionEnd, takesNext, hnext]
  | case4 c cs _ hc s rest h ih => simp [sectionEnd, takesNext, hc, ih, h, Nat.add_assoc]

/-- The bytes of the characters of a name that a text begins with. -/
def nameLength : List Char → Nat
  | [] => 0
  | c :: cs => if Identifier.isPart c then c.utf8Size + nameLength cs else 0

theorem nameLength_eq (cs : List Char) :
    nameLength cs = byteLength (cs.takeWhile Identifier.isPart) := by
  induction cs with
  | nil => rfl
  | cons c cs ih =>
    rw [nameLength, List.takeWhile_cons]
    split
    · rw [byteLength_cons, ih]
    · rfl

/-- The text behind its first character, if it begins with that one. -/
def behind? (c : Char) (text : String) : Option String :=
  match text.toList with
  | [] => none
  | d :: cs => if d = c then some (String.ofList cs) else none

theorem behind?_cons (c d : Char) (cs : List Char) :
    behind? c (String.ofList (d :: cs)) = if d = c then some (String.ofList cs) else none := by
  rw [behind?, String.toList_ofList]

theorem behind?_nil (c : Char) : behind? c (String.ofList []) = none := by
  rw [behind?, String.toList_ofList]

namespace ParamStyle

/-- The name and the bytes of the placeholder that a text begins with. -/
def placeholderAt (s : ParamStyle) (text : String) : Except BadCut (Option (String × Nat)) :=
  match behind? s.opening text with
  | none => return none
  | some body => do
    let (name, rest) ← cut body (nameLength body.toList)
    if name = "" then return none
    match s with
    | .braces => return (behind? '\x7d' rest).map fun _ => (name, name.utf8ByteSize + 2)
    | .dollar => return some (name, name.utf8ByteSize + 1)

theorem byteLength_placeholder (s : ParamStyle) (name : List Char) :
    byteLength (s.placeholder name) =
      byteLength name + match s with | .braces => 2 | .dollar => 1 := by
  have hsizes : '\x7b'.utf8Size = 1 ∧ '\x7d'.utf8Size = 1 ∧ '$'.utf8Size = 1 := by decide
  obtain ⟨hopen, hclose, hdollar⟩ := hsizes
  cases s with
  | braces =>
    simp only [placeholder, byteLength_append, byteLength_cons, byteLength_nil, hopen, hclose]
    omega
  | dollar =>
    simp only [placeholder, byteLength_cons, hdollar]
    omega

theorem behind?_close (cs : List Char) :
    behind? '\x7d' (String.ofList cs) = (braces.close cs).map String.ofList := by
  cases cs with
  | nil => rw [behind?_nil]; rfl
  | cons c cs =>
    rw [behind?_cons]
    by_cases hc : c = '\x7d'
    · rw [if_pos hc, hc]
      rfl
    · simp [close, hc]

/-- A placeholder is found by its bytes where it is found by its characters. -/
theorem placeholderAt_ofList (s : ParamStyle) (cs : List Char) :
    s.placeholderAt (String.ofList cs) =
      .ok ((s.splitPlaceholder cs).map fun p =>
        (String.ofList p.1, byteLength (s.placeholder p.1))) := by
  cases cs with
  | nil => simp only [placeholderAt, behind?_nil]; rfl
  | cons c cs =>
    by_cases hc : c = s.opening
    · have hcut := cut_ofList (cs.takeWhile Identifier.isPart) (cs.dropWhile Identifier.isPart)
      rw [List.takeWhile_append_dropWhile, ← nameLength_eq] at hcut
      simp only [placeholderAt, behind?_cons, if_pos hc, String.toList_ofList, splitPlaceholder, hcut]
      cases hname : cs.takeWhile Identifier.isPart with
      | nil => rfl
      | cons d ds =>
        have hne : String.ofList (d :: ds) ≠ "" :=
          mt String.ofList_eq_empty_iff.1 (List.cons_ne_nil d ds)
        cases s with
        | braces =>
          simp only [bind, Except.bind, pure, Except.pure, if_neg hne, behind?_close, Option.map_map,
            byteLength_placeholder]
          rfl
        | dollar =>
          simp only [bind, Except.bind, pure, Except.pure, if_neg hne, close, Option.map_some,
            byteLength_placeholder]
          rfl
    · simp only [placeholderAt, behind?_cons, if_neg hc, splitPlaceholder_of_ne hc]; rfl

end ParamStyle

theorem KeyMap.exists_splitPlaceholder {values : KeyMap Value} {style : ParamStyle}
    {cs rest : List Char} {v : Value} (h : values.placeholder? style cs = some (v, rest)) :
    ∃ name, style.splitPlaceholder cs = some (name, rest) ∧
      values.get? (String.ofList name) = some v := by
  unfold placeholder? at h
  split at h
  · rename_i name rest' hs
    obtain ⟨w, hw, heq⟩ := Option.map_eq_some_iff.1 h
    cases heq
    exact ⟨name, hs, hw⟩
  · cases h

/-- The state of a scan: the text that is left and the text that is written. -/
structure Cursor where
  rest : String
  written : String

namespace Cursor

variable (values : KeyMap Value) (style : ParamStyle)

/-- What is written for the start of a text, and the bytes of that start. -/
def next (text : String) : Except BadCut (String × Nat) :=
  match text.toList with
  | [] => return ("", 0)
  | c :: cs =>
    if c = '"' ∨ c = '\x60' then do
      let length := sectionEnd c c.utf8Size cs
      return ((← cut text length).1, length)
    else do
      match ← style.placeholderAt text with
      | none => return (String.singleton c, c.utf8Size)
      | some (name, length) =>
        match values.get? name with
        | none => return (String.singleton c, c.utf8Size)
        | some v => return (String.ofList v.literal, length)

/-- A round of the scan. -/
def step (k : Cursor) : Except BadCut Cursor := do
  let (text, length) ← next values style k.rest
  return ⟨(← cut k.rest length).2, k.written ++ text⟩

/-- The rounds of a scan, up to the end of the text. -/
inductive Run : Cursor → Cursor → Prop where
  | done {k : Cursor} : k.rest = "" → Run k k
  | round {k l m : Cursor} : k.rest ≠ "" → k.step values style = .ok l → Run l m → Run k m

variable {values style}

theorem next_section {q : Char} {cs s rest : List Char} (hq : q = '"' ∨ q = '\x60')
    (hcs : s ++ rest = cs) (hend : sectionEnd q q.utf8Size cs = q.utf8Size + byteLength s) :
    next values style (String.ofList (q :: cs)) =
      .ok (String.ofList (q :: s), byteLength (q :: s)) := by
  have hcut := cut_ofList (q :: s) rest
  rw [List.cons_append, hcs, byteLength_cons] at hcut
  simp only [next, String.toList_ofList, if_pos hq, hend, hcut, byteLength_cons]
  rfl

theorem next_value {c : Char} {cs name rest : List Char} {v : Value}
    (hs : style.splitPlaceholder (c :: cs) = some (name, rest))
    (hv : values.get? (String.ofList name) = some v) :
    next values style (String.ofList (c :: cs)) =
      .ok (String.ofList v.literal, byteLength (style.placeholder name)) := by
  have hc : c = style.opening := by
    by_contra hc
    simp [ParamStyle.splitPlaceholder_of_ne hc] at hs
  have hq : ¬(c = '"' ∨ c = '\x60') := by
    rw [hc, not_or]
    exact ParamStyle.opening_ne
  simp only [next, String.toList_ofList, if_neg hq, ParamStyle.placeholderAt_ofList, hs,
    Option.map_some, bind, Except.bind, hv]
  rfl

theorem next_char {c : Char} {cs : List Char} (hq : ¬(c = '"' ∨ c = '\x60'))
    (h : values.placeholder? style (c :: cs) = none) :
    next values style (String.ofList (c :: cs)) = .ok (String.singleton c, c.utf8Size) := by
  simp only [next, String.toList_ofList, if_neg hq, ParamStyle.placeholderAt_ofList, bind, Except.bind]
  unfold KeyMap.placeholder? at h
  cases hs : style.splitPlaceholder (c :: cs) with
  | none => rfl
  | some p =>
    rw [hs] at h
    have hv : values.get? (String.ofList p.1) = none := Option.map_eq_none_iff.1 h
    simp only [Option.map_some, hv]
    rfl

variable (values style)

/-- What stands at the start of a text is counted in whole characters, at least one of them, and
written as inlining writes it. -/
theorem exists_next (c : Char) (cs : List Char) :
    ∃ text front rest, next values style (String.ofList (c :: cs)) = .ok (text, byteLength front) ∧
      c :: cs = front ++ rest ∧ front ≠ [] ∧
      Query.inlineText values style (c :: cs) =
        text.toList ++ Query.inlineText values style rest := by
  by_cases hquote : c = '"'
  · subst hquote
    have hsplit := Quoted.splitEnd_append cs
    refine ⟨_, '"' :: (Quoted.splitEnd cs).1, (Quoted.splitEnd cs).2,
      next_section (.inl rfl) hsplit (sectionEnd_quote _ cs), ?_, List.cons_ne_nil _ _, ?_⟩
    · rw [List.cons_append, hsplit]
    · rw [Query.inlineText_quote, String.toList_ofList]
  by_cases hbacktick : c = '\x60'
  · subst hbacktick
    have hsplit := Backticked.splitEnd_append cs
    refine ⟨_, '\x60' :: (Backticked.splitEnd cs).1, (Backticked.splitEnd cs).2,
      next_section (.inr rfl) hsplit (sectionEnd_backtick _ cs), ?_, List.cons_ne_nil _ _, ?_⟩
    · rw [List.cons_append, hsplit]
    · rw [Query.inlineText_backtick, String.toList_ofList]
  cases hp : values.placeholder? style (c :: cs) with
  | none =>
    have hone : c.utf8Size = byteLength [c] := by
      rw [byteLength_cons, byteLength_nil, Nat.add_zero]
    have hnext := next_char (not_or.2 ⟨hquote, hbacktick⟩) hp
    rw [hone] at hnext
    refine ⟨_, [c], cs, hnext, rfl, List.cons_ne_nil _ _, ?_⟩
    rw [Query.inlineText_char values hquote hbacktick hp, String.toList_singleton]
    rfl
  | some p =>
    obtain ⟨v, rest⟩ := p
    obtain ⟨name, hs, hv⟩ := KeyMap.exists_splitPlaceholder hp
    obtain ⟨hcs, _⟩ := ParamStyle.isPlaceholder_of_splitPlaceholder hs
    refine ⟨_, style.placeholder name, rest, next_value hs hv, hcs, ?_, ?_⟩
    · cases style <;> exact List.cons_ne_nil _ _
    · rw [Query.inlineText_value values hp, String.toList_ofList]

/-- A round succeeds as long as text is left. It shortens the text and leaves alone what is written in
the end. -/
theorem exists_step {k : Cursor} (h : k.rest ≠ "") :
    ∃ l, k.step values style = .ok l ∧ l.rest.length < k.rest.length ∧
      l.written.toList ++ Query.inlineText values style l.rest.toList =
        k.written.toList ++ Query.inlineText values style k.rest.toList := by
  obtain ⟨text, written⟩ := k
  obtain ⟨cs, rfl⟩ : ∃ cs, text = String.ofList cs := ⟨text.toList, String.ofList_toList.symm⟩
  cases cs with
  | nil => exact absurd String.ofList_nil h
  | cons c cs =>
    obtain ⟨text, front, rest, hnext, hcs, hne, hinline⟩ := exists_next values style c cs
    refine ⟨⟨String.ofList rest, written ++ text⟩, ?_, ?_, ?_⟩
    · rw [hcs] at hnext ⊢
      simp only [step, hnext, bind, Except.bind, cut_ofList]
      rfl
    · have hlength := congrArg List.length hcs
      have hfront := List.length_pos_iff.2 hne
      rw [List.length_append] at hlength
      simp only [String.length_ofList, hlength]
      omega
    · simp only [String.toList_append, String.toList_ofList, hinline, List.append_assoc]

theorem exists_run (k : Cursor) : ∃ l, Run values style k l := by
  induction hn : k.rest.length using Nat.strong_induction_on generalizing k with
  | _ n ih =>
    by_cases hk : k.rest = ""
    · exact ⟨k, .done hk⟩
    · obtain ⟨l, hstep, hshorter, _⟩ := exists_step values style hk
      obtain ⟨m, hrun⟩ := ih l.rest.length (hn ▸ hshorter) l rfl
      exact ⟨m, .round hk hstep hrun⟩

variable {values style}

theorem Run.written_eq {k l : Cursor} (h : Run values style k l) :
    l.rest = "" ∧
      l.written.toList = k.written.toList ++ Query.inlineText values style k.rest.toList := by
  induction h with
  | @done k hk =>
    refine ⟨hk, ?_⟩
    rw [hk, String.toList_empty, Query.inlineText_nil, List.append_nil]
  | @round k l m hk hstep _ ih =>
    obtain ⟨l', hstep', _, hkept⟩ := exists_step values style hk
    rw [hstep] at hstep'
    cases hstep'
    exact ⟨ih.1, ih.2.trans hkept⟩

/-- The scan of a text by offsets ends, without a bad cut, and writes what inlining writes. -/
theorem run_iff {text : String} {k : Cursor} :
    Run values style ⟨text, ""⟩ k ↔
      k = ⟨"", String.ofList (Query.inlineText values style text.toList)⟩ := by
  have hend : ∀ {l}, Run values style ⟨text, ""⟩ l →
      l = ⟨"", String.ofList (Query.inlineText values style text.toList)⟩ := by
    intro l hrun
    obtain ⟨hrest, hwritten⟩ := hrun.written_eq
    obtain ⟨rest, written⟩ := l
    rw [String.toList_empty, List.nil_append] at hwritten
    rw [← hwritten, String.ofList_toList]
    exact congrArg (Cursor.mk · written) hrest
  refine ⟨hend, ?_⟩
  rintro rfl
  obtain ⟨l, hrun⟩ := exists_run values style ⟨text, ""⟩
  exact hend hrun ▸ hrun

end Cursor

end CypherTemplate
