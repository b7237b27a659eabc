import Mathlib.Data.List.Chain
import CypherTemplate.Proofs.Token

/-!
The marks of a query text: its quoted sections and the characters outside of them, as they are met from
left to right. A list of marks is tidy when its sections are closed, its brackets matched and its spaces
single and inside, and a text is tidy when its marks are and no section of it reaches into what follows.
Tidy texts may be joined, with a space between them or without one, and put between brackets.
-/
namespace CypherTemplate

namespace Quoted

/-- Whether the section behind an opening quote has an end. -/
def isClosed : List Char → Bool
  | [] => false
  | '\\' :: _ :: cs => isClosed cs
  | c :: cs => c = '"' || isClosed cs

theorem isClosed_escapeChar (c : Char) (cs : List Char) :
    isClosed (escapeChar c ++ cs) = isClosed cs := by
  unfold escapeChar
  split <;> simp_all [isClosed]

theorem isClosed_escape (cs rest : List Char) : isClosed (escape cs ++ '"' :: rest) := by
  rw [escape_eq_flatMap]
  induction cs with
  | nil => rfl
  | cons c cs ih => rwa [List.flatMap_cons, List.append_assoc, isClosed_escapeChar]

end Quoted

namespace Backticked

/-- Whether the section behind an opening backtick has an end. -/
def isClosed : List Char → Bool
  | [] => false
  | '\x60' :: '\x60' :: cs => isClosed cs
  | c :: cs => c = '\x60' || isClosed cs

theorem isClosed_double (cs : List Char) {rest : List Char} (h : ∀ c ∈ rest.head?, c ≠ '\x60') :
    isClosed (double cs ++ '\x60' :: rest) := by
  induction cs with
  | nil =>
    cases rest with
    | nil => rfl
    | cons c rest =>
      have hc : c ≠ '\x60' := h c rfl
      simp [double, isClosed, hc]
  | cons c cs ih =>
    by_cases hc : c = '\x60'
    · simpa [double, hc, isClosed] using ih
    · simp [double, hc, isClosed, ih]

end Backticked

/-- A quoted section, with or without an end, or a character outside of all of them. -/
inductive Mark where
  | quoted (closed : Bool)
  | bare (c : Char)
  deriving DecidableEq, Repr

namespace Mark

/-- The marks of a text, from left to right. -/
def scan : List Char → List Mark
  | [] => []
  | c :: cs =>
    if c = '"' then .quoted (Quoted.isClosed cs) :: scan (Quoted.splitEnd cs).2
    else if c = '\x60' then .quoted (Backticked.isClosed cs) :: scan (Backticked.splitEnd cs).2
    else .bare c :: scan cs
termination_by cs => cs.length
decreasing_by
  · exact Nat.lt_succ_of_le (Quoted.length_splitEnd_le cs)
  · exact Nat.lt_succ_of_le (Backticked.length_splitEnd_le cs)
  · exact Nat.lt_succ_self _

@[simp] theorem scan_nil : scan [] = [] := by
  rw [scan]

theorem scan_quote (cs : List Char) :
    scan ('"' :: cs) = .quoted (Quoted.isClosed cs) :: scan (Quoted.splitEnd cs).2 := by
  rw [scan, if_pos rfl]

theorem scan_backtick (cs : List Char) :
    scan ('\x60' :: cs) = .quoted (Backticked.isClosed cs) :: scan (Backticked.splitEnd cs).2 := by
  rw [scan, if_neg (by decide), if_pos rfl]

theorem scan_ne_nil {cs : List Char} (h : cs ≠ []) : scan cs ≠ [] := by
  cases cs with
  | nil => exact absurd rfl h
  | cons c cs =>
    rw [scan]
    split
    · exact List.cons_ne_nil _ _
    · split <;> exact List.cons_ne_nil _ _

/-- A character of names, numbers, words or signs. -/
def isToken (c : Char) : Bool :=
  Identifier.isPart c || c ∈ [',', '.', ':', '=', '>', '-', '$', '/']

/-- A character that may stand outside of quoted sections. -/
def isOutside (c : Char) : Bool :=
  isToken c || c ∈ [' ', '(', ')', '[', ']', '\x7b', '\x7d']

theorem isOutside_of_isToken {c : Char} (h : isToken c) : isOutside c := by
  rw [isOutside, h]
  rfl

theorem ne_of_isToken {c d : Char} (h : isToken c) (hd : isToken d = false) : c ≠ d := by
  rintro rfl
  rw [h] at hd
  cases hd

theorem ne_of_isOutside {c d : Char} (h : isOutside c) (hd : isOutside d = false) : c ≠ d := by
  rintro rfl
  rw [h] at hd
  cases hd

theorem scan_cons {c : Char} (h : isOutside c) (cs : List Char) :
    scan (c :: cs) = .bare c :: scan cs := by
  rw [scan, if_neg (ne_of_isOutside h (by decide)), if_neg (ne_of_isOutside h (by decide))]

theorem scan_append_of_isOutside {cs : List Char} (h : ∀ c ∈ cs, isOutside c) (rest : List Char) :
    scan (cs ++ rest) = cs.map .bare ++ scan rest := by
  induction cs with
  | nil => rfl
  | cons c cs ih =>
    obtain ⟨hc, hcs⟩ := List.forall_mem_cons.1 h
    rw [List.cons_append, scan_cons hc, ih hcs]
    rfl

/-- The bracket that closes an opening one. -/
def closing? : Char → Option Char
  | '(' => some ')'
  | '[' => some ']'
  | '\x7b' => some '\x7d'
  | _ => none

def isClosing (c : Char) : Bool := c = ')' || c = ']' || c = '\x7d'

/-- The closing brackets that are to come behind a mark, the next one first. No other one may come. -/
def step (awaited : List Char) : Mark → Option (List Char)
  | .quoted _ => some awaited
  | .bare c =>
    match closing? c with
    | some d => some (d :: awaited)
    | none =>
      if isClosing c then
        match awaited with
        | d :: rest => if c = d then some rest else none
        | [] => none
      else some awaited

/-- Whether every bracket is closed by one of its kind, whatever is open around them. -/
def Nested (ms : List Mark) : Prop := ∀ awaited, ms.foldlM step awaited = some awaited

/-- Whether no space is first, last or next to another one. -/
structure Spaced (ms : List Mark) : Prop where
  first : ms.head? ≠ some (.bare ' ')
  last : ms.getLast? ≠ some (.bare ' ')
  single : ms.IsChain fun m n => ¬(m = .bare ' ' ∧ n = .bare ' ')

structure Tidy (ms : List Mark) : Prop where
  closed : .quoted false ∉ ms
  outside : ∀ c, .bare c ∈ ms → isOutside c
  nested : Nested ms
  spaced : Spaced ms

theorem Nested.append {as bs : List Mark} (ha : Nested as) (hb : Nested bs) :
    Nested (as ++ bs) := by
  intro awaited
  rw [List.foldlM_append, ha]
  exact hb awaited

theorem Nested.cons {m : Mark} {ms : List Mark} (hm : ∀ awaited, step awaited m = some awaited)
    (h : Nested ms) : Nested (m :: ms) := by
  intro awaited
  rw [List.foldlM_cons, hm]
  exact h awaited

theorem step_opening {o c : Char} (h : closing? o = some c) (awaited : List Char) :
    step awaited (.bare o) = some (c :: awaited) := by
  simp only [step, h]

theorem step_closing {o c : Char} (h : closing? o = some c) (awaited : List Char) :
    step (c :: awaited) (.bare c) = some awaited := by
  unfold closing? at h
  split at h
  · cases h
    rfl
  · cases h
    rfl
  · cases h
    rfl
  · cases h

theorem Nested.enclosed {ms : List Mark} (h : Nested ms) {o c : Char} (hc : closing? o = some c) :
    Nested (.bare o :: (ms ++ [.bare c])) := by
  intro awaited
  have hinside := h (c :: awaited)
  simp [List.foldlM_append, step_opening hc, hinside, step_closing hc]

theorem Spaced.append {as bs : List Mark} (ha : Spaced as) (hb : Spaced bs) :
    Spaced (as ++ bs) := by
  refine ⟨?_, ?_, ?_⟩
  · cases as with
    | nil => exact hb.first
    | cons m ms => exact ha.first
  · rw [List.getLast?_append]
    have hlast := hb.last
    cases hbs : bs.getLast? with
    | none => exact ha.last
    | some m => rwa [hbs] at hlast
  · refine List.isChain_append.2 ⟨ha.single, hb.single, fun m hm n _ hboth => ha.last ?_⟩
    rw [← hboth.1]
    exact hm

/-- A single space between two lists of marks. -/
theorem Spaced.space {as bs : List Mark} (ha : Spaced as) (hb : Spaced bs) (hne : as ≠ [])
    (hne' : bs ≠ []) : Spaced (as ++ .bare ' ' :: bs) := by
  refine ⟨?_, ?_, ?_⟩
  · cases as with
    | nil => exact absurd rfl hne
    | cons m ms => exact ha.first
  · rw [List.getLast?_append]
    cases bs with
    | nil => exact absurd rfl hne'
    | cons m ms => exact hb.last
  · have hbehind : (.bare ' ' :: bs).IsChain fun m n : Mark => ¬(m = .bare ' ' ∧ n = .bare ' ') :=
      List.isChain_cons.2 ⟨fun n hn hboth => hb.first (hboth.2 ▸ hn), hb.single⟩
    refine List.isChain_append.2 ⟨ha.single, hbehind, fun m hm n _ hboth => ha.last ?_⟩
    rw [← hboth.1]
    exact hm

theorem spaced_singleton {m : Mark} (h : m ≠ .bare ' ') : Spaced [m] :=
  ⟨fun heq => h (Option.some.inj heq), fun heq => h (Option.some.inj heq), .singleton m⟩

theorem tidy_nil : Tidy [] :=
  ⟨List.not_mem_nil, nofun, fun _ => rfl, nofun, nofun, .nil⟩

theorem Tidy.append {as bs : List Mark} (ha : Tidy as) (hb : Tidy bs) : Tidy (as ++ bs) where
  closed h := (List.mem_append.1 h).elim ha.closed hb.closed
  outside c h := (List.mem_append.1 h).elim (ha.outside c) (hb.outside c)
  nested := ha.nested.append hb.nested
  spaced := ha.spaced.append hb.spaced

theorem Tidy.space {as bs : List Mark} (ha : Tidy as) (hb : Tidy bs) (hne : as ≠ [])
    (hne' : bs ≠ []) : Tidy (as ++ .bare ' ' :: bs) where
  closed h := by
    rw [List.mem_append, List.mem_cons] at h
    rcases h with h | h | h
    · exact ha.closed h
    · cases h
    · exact hb.closed h
  outside c h := by
    rw [List.mem_append, List.mem_cons] at h
    rcases h with h | h | h
    · exact ha.outside c h
    · cases h
      rfl
    · exact hb.outside c h
  nested := ha.nested.append (.cons (fun _ => rfl) hb.nested)
  spaced := ha.spaced.space hb.spaced hne hne'

theorem isOutside_of_closing? {o c : Char} (h : closing? o = some c) :
    isOutside o ∧ isOutside c ∧ o ≠ ' ' ∧ c ≠ ' ' := by
  unfold closing? at h
  split at h
  · cases h
    decide
  · cases h
    decide
  · cases h
    decide
  · cases h

theorem Tidy.enclosed {ms : List Mark} (h : Tidy ms) {o c : Char} (hc : closing? o = some c) :
    Tidy (.bare o :: (ms ++ [.bare c])) := by
  obtain ⟨hoo, hco, ho, hcs⟩ := isOutside_of_closing? hc
  have hfirst : Spaced [.bare o] := spaced_singleton fun heq => ho (Mark.bare.inj heq)
  have hlast : Spaced [.bare c] := spaced_singleton fun heq => hcs (Mark.bare.inj heq)
  refine ⟨fun hmem => ?_, fun d hd => ?_, h.nested.enclosed hc,
    hfirst.append (h.spaced.append hlast)⟩
  · rw [List.mem_cons, List.mem_append, List.mem_singleton] at hmem
    rcases hmem with hmem | hmem | hmem
    · cases hmem
    · exact h.closed hmem
    · cases hmem
  · rw [List.mem_cons, List.mem_append, List.mem_singleton] at hd
    rcases hd with hd | hd | hd
    · cases hd
      exact hoo
    · exact h.outside d hd
    · cases hd
      exact hco

theorem tidy_quoted : Tidy [.quoted true] :=
  ⟨by decide, nofun, fun _ => rfl, spaced_singleton nofun⟩

theorem step_of_isToken {c : Char} (h : isToken c) (awaited : List Char) :
    step awaited (.bare c) = some awaited := by
  have hopen : closing? c = none := by
    unfold closing?
    split
    · exact absurd h (by decide)
    · exact absurd h (by decide)
    · exact absurd h (by decide)
    · rfl
  have hclose : isClosing c = false := by
    have hround := ne_of_isToken h (d := ')') (by decide)
    have hsquare := ne_of_isToken h (d := ']') (by decide)
    have hcurly := ne_of_isToken h (d := '\x7d') (by decide)
    simp [isClosing, hround, hsquare, hcurly]
  simp [step, hopen, hclose]

theorem tidy_bare {c : Char} (h : isToken c) : Tidy [.bare c] where
  closed := by simp
  outside d hd := by
    cases List.mem_singleton.1 hd
    exact isOutside_of_isToken h
  nested := .cons (step_of_isToken h) fun _ => rfl
  spaced := spaced_singleton fun heq => ne_of_isToken h (by decide) (Mark.bare.inj heq)

theorem tidy_map_bare {cs : List Char} (h : ∀ c ∈ cs, isToken c) : Tidy (cs.map .bare) := by
  induction cs with
  | nil => exact tidy_nil
  | cons c cs ih =>
    obtain ⟨hc, hcs⟩ := List.forall_mem_cons.1 h
    exact (tidy_bare hc).append (ih hcs)

end Mark

open Mark

/-- A text with tidy marks, which are the same in front of anything but a backtick. -/
structure Tidy (cs : List Char) : Prop where
  ne_nil : cs ≠ []
  scan_append : ∀ rest, (∀ c ∈ rest.head?, c ≠ '\x60') → scan (cs ++ rest) = scan cs ++ scan rest
  marks : Mark.Tidy (scan cs)

namespace Tidy

variable {as bs cs : List Char}

theorem append (ha : Tidy as) (hb : Tidy bs) (h : ∀ c ∈ bs.head?, c ≠ '\x60') :
    Tidy (as ++ bs) := by
  refine ⟨List.append_ne_nil_of_left_ne_nil ha.ne_nil bs, fun rest hrest => ?_, ?_⟩
  · have hhead : ∀ c ∈ (bs ++ rest).head?, c ≠ '\x60' := by
      cases bs with
      | nil => exact absurd rfl hb.ne_nil
      | cons b bs => exact h
    rw [List.append_assoc, ha.scan_append _ hhead, hb.scan_append rest hrest, ha.scan_append bs h,
      List.append_assoc]
  · rw [ha.scan_append bs h]
    exact ha.marks.append hb.marks

theorem of_tokens (h : ∀ c ∈ cs, isToken c) (hne : cs ≠ []) : Tidy cs := by
  have hscan := scan_append_of_isOutside fun c hc => isOutside_of_isToken (h c hc)
  have hself : scan cs = cs.map .bare := by simpa using hscan []
  refine ⟨hne, fun rest _ => ?_, ?_⟩
  · rw [hscan, hself]
  · rw [hself]
    exact tidy_map_bare h

theorem sign {c : Char} (h : isToken c) : Tidy [c] :=
  of_tokens (List.forall_mem_singleton.2 h) (List.cons_ne_nil c [])

/-- Behind characters of tokens a backtick may follow as well. -/
theorem tokens_append (h : ∀ c ∈ as, isToken c) (hb : Tidy bs) : Tidy (as ++ bs) := by
  have hscan := scan_append_of_isOutside fun c hc => isOutside_of_isToken (h c hc)
  refine ⟨List.append_ne_nil_of_right_ne_nil as hb.ne_nil, fun rest hrest => ?_, ?_⟩
  · rw [List.append_assoc, hscan, hscan, hb.scan_append rest hrest, List.append_assoc]
  · rw [hscan]
    exact (tidy_map_bare h).append hb.marks

theorem sign_cons {c : Char} (h : isToken c) (hb : Tidy bs) : Tidy (c :: bs) :=
  tokens_append (List.forall_mem_singleton.2 h) hb

theorem space (ha : Tidy as) (hb : Tidy bs) : Tidy (as ++ ' ' :: bs) := by
  have hscan : ∀ rest, scan (as ++ ' ' :: rest) = scan as ++ .bare ' ' :: scan rest := by
    intro rest
    rw [ha.scan_append _ (by simp), scan_cons rfl]
  refine ⟨List.append_ne_nil_of_left_ne_nil ha.ne_nil _, fun rest hrest => ?_, ?_⟩
  · rw [List.append_assoc, List.cons_append, hscan, hscan, hb.scan_append rest hrest,
      List.append_assoc]
    rfl
  · rw [hscan]
    exact ha.marks.space hb.marks (scan_ne_nil ha.ne_nil) (scan_ne_nil hb.ne_nil)

/-- A word between two texts. -/
theorem word (ha : Tidy as) (hb : Tidy bs) {w : List Char} (hw : Tidy w) :
    Tidy (as ++ (' ' :: (w ++ [' ']) ++ bs)) := by
  have h := ha.space (hw.space hb)
  simpa using h

/-- An item, a comma and a space in front of another one. -/
theorem comma (ha : Tidy as) (hb : Tidy bs) : Tidy (as ++ ([',', ' '] ++ bs)) := by
  have hcomma : Tidy [','] := sign rfl
  have h := (ha.append hcomma (by simp)).space hb
  simpa using h

theorem of_enclosed {o c : Char} (hc : closing? o = some c) (h : cs = [] ∨ Tidy cs) :
    Tidy (o :: (cs ++ [c])) := by
  obtain ⟨hoo, hco, _⟩ := isOutside_of_closing? hc
  have hback : ∀ rest, ∀ d ∈ (c :: rest : List Char).head?, d ≠ '\x60' := by
    rintro rest d hd
    cases hd
    exact ne_of_isOutside hco (by decide)
  have hscan : ∀ rest, scan (cs ++ c :: rest) = scan cs ++ .bare c :: scan rest := by
    intro rest
    rcases h with rfl | h
    · rw [List.nil_append, scan_cons hco, scan_nil, List.nil_append]
    · rw [h.scan_append _ (hback rest), scan_cons hco]
  have hmarks : Mark.Tidy (scan cs) := by
    rcases h with rfl | h
    · rw [scan_nil]
      exact tidy_nil
    · exact h.marks
  have hself : scan (o :: (cs ++ [c])) = .bare o :: (scan cs ++ [.bare c]) := by
    rw [scan_cons hoo, hscan, scan_nil]
  refine ⟨List.cons_ne_nil _ _, fun rest _ => ?_, ?_⟩
  · rw [List.cons_append, List.append_assoc, List.singleton_append, scan_cons hoo, hscan, hself]
    simp
  · rw [hself]
    exact hmarks.enclosed hc

theorem enclosed (h : Tidy cs) {o c : Char} (hc : closing? o = some c) : Tidy (o :: (cs ++ [c])) :=
  of_enclosed hc (.inr h)

/-- Texts that are joined two by two in a tidy way are so all together. -/
theorem intercalate {sep : List Char}
    (hjoin : ∀ {as bs : List Char}, Tidy as → Tidy bs → Tidy (as ++ (sep ++ bs)))
    {ls : List (List Char)} (hne : ls ≠ []) (h : ∀ l ∈ ls, Tidy l) : Tidy (sep.intercalate ls) := by
  induction ls with
  | nil => exact absurd rfl hne
  | cons l ls ih =>
    obtain ⟨hl, hls⟩ := List.forall_mem_cons.1 h
    cases ls with
    | nil => simpa using hl
    | cons m ls =>
      rw [List.intercalate_cons_cons, List.append_assoc]
      exact hjoin hl (ih (List.cons_ne_nil m ls) hls)

end Tidy

end CypherTemplate
