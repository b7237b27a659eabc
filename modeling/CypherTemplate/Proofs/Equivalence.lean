import CypherTemplate.Proofs.Decomposition

/-!
Canonical equivalence of texts: a character and what it is decomposed to are equivalent, and so are
two neighbouring marks of different classes in either order. The composed form of a text is
equivalent to it, and two texts have one composed form just when they are equivalent; so composing
again changes nothing.
-/
namespace CypherTemplate.Unicode

/-- Whether two marks attach to their base independently of each other. -/
def Independent (a b : Char) : Prop :=
  0 < combiningClass a ∧ 0 < combiningClass b ∧ combiningClass a ≠ combiningClass b

inductive Canonical : List Char → List Char → Prop where
  | decomposed (c : Char) : Canonical [c] (decompose c)
  | swapped {a b : Char} (h : Independent a b) : Canonical [a, b] [b, a]
  | refl (cs : List Char) : Canonical cs cs
  | symm {as bs : List Char} (h : Canonical as bs) : Canonical bs as
  | trans {as bs cs : List Char} (h : Canonical as bs) (h' : Canonical bs cs) : Canonical as cs
  | append {as bs cs ds : List Char} (h : Canonical as bs) (h' : Canonical cs ds) :
    Canonical (as ++ cs) (bs ++ ds)

/-! Equivalent texts have one decomposed form. -/

theorem place_cons_of_lt {c d : Char} (hd : 0 < combiningClass d)
    (h : combiningClass d < combiningClass c) (ds : List Char) :
    place c (d :: ds) = d :: place c ds :=
  if_pos ⟨hd, h⟩

theorem place_cons_of_le {c d : Char}
    (h : combiningClass d = 0 ∨ combiningClass c ≤ combiningClass d) (ds : List Char) :
    place c (d :: ds) = c :: d :: ds :=
  if_neg (by omega)

/-- Of two marks of different classes, the one of the lower class passes to the front. -/
theorem place_comm_of_lt {a b : Char} (ha : 0 < combiningClass a)
    (h : combiningClass a < combiningClass b) (cs : List Char) :
    place a (place b cs) = place b (place a cs) := by
  induction cs with
  | nil => rw [place, place, place_cons_of_lt ha h, place, place_cons_of_le (.inr (Nat.le_of_lt h))]
  | cons d ds ih =>
    by_cases hd : combiningClass d = 0 ∨ combiningClass b ≤ combiningClass d
    · have hda : combiningClass d = 0 ∨ combiningClass a ≤ combiningClass d := by omega
      rw [place_cons_of_le hd, place_cons_of_le hda, place_cons_of_lt ha h, place_cons_of_le hd,
        place_cons_of_le (.inr (Nat.le_of_lt h))]
    · have hpos : 0 < combiningClass d := by omega
      rw [place_cons_of_lt hpos (by omega)]
      by_cases hda : combiningClass a ≤ combiningClass d
      · rw [place_cons_of_le (.inr hda), place_cons_of_le (.inr hda), place_cons_of_lt ha h,
          place_cons_of_lt hpos (by omega)]
      · rw [place_cons_of_lt hpos (by omega), place_cons_of_lt hpos (by omega),
          place_cons_of_lt hpos (by omega), ih]

theorem place_comm {a b : Char} (h : Independent a b) (cs : List Char) :
    place a (place b cs) = place b (place a cs) := by
  obtain ⟨ha, hb, hne⟩ := h
  rcases Nat.lt_or_gt_of_ne hne with hlt | hlt
  · exact place_comm_of_lt ha hlt cs
  · exact (place_comm_of_lt hb hlt cs).symm

/-- Sets each character of a text before an ordered one. -/
def placeAll (cs rest : List Char) : List Char := cs.foldr place rest

theorem placeAll_append (as bs rest : List Char) :
    placeAll (as ++ bs) rest = placeAll as (placeAll bs rest) :=
  List.foldr_append

theorem place_placeAll {a : Char} {bs : List Char} (h : ∀ b ∈ bs, Independent a b)
    (rest : List Char) : place a (placeAll bs rest) = placeAll bs (place a rest) := by
  induction bs with
  | nil => rfl
  | cons b bs ih =>
    obtain ⟨hb, hbs⟩ := List.forall_mem_cons.1 h
    calc place a (placeAll (b :: bs) rest) = place b (place a (placeAll bs rest)) := place_comm hb _
      _ = placeAll (b :: bs) (place a rest) := by rw [ih hbs]; rfl

theorem placeAll_comm {as bs : List Char} (h : ∀ a ∈ as, ∀ b ∈ bs, Independent a b)
    (rest : List Char) : placeAll as (placeAll bs rest) = placeAll bs (placeAll as rest) := by
  induction as with
  | nil => rfl
  | cons a as ih =>
    obtain ⟨ha, has⟩ := List.forall_mem_cons.1 h
    calc placeAll (a :: as) (placeAll bs rest) = place a (placeAll bs (placeAll as rest)) :=
          congrArg (place a) (ih has)
      _ = placeAll bs (placeAll (a :: as) rest) := place_placeAll ha _

theorem Independent.decomposed {a b c d : Char} (h : Independent a b) (hc : c ∈ decompose a)
    (hd : d ∈ decompose b) : Independent c d := by
  have hca := combiningClass_of_mem_decompose h.1 hc
  have hdb := combiningClass_of_mem_decompose h.2.1 hd
  rw [Independent, hca, hdb]
  exact h

theorem flatMap_decompose_of_settled {cs : List Char} (h : ∀ c ∈ cs, Settled c) :
    cs.flatMap decompose = cs := by
  induction cs with
  | nil => rfl
  | cons c cs ih =>
    obtain ⟨hc, hcs⟩ := List.forall_mem_cons.1 h
    rw [List.flatMap_cons, decompose_of_settled hc, ih hcs]
    rfl

/-- The decomposed form of a text in front of what is decomposed already. -/
theorem Canonical.placeAll_eq {as bs : List Char} (h : Canonical as bs) (rest : List Char) :
    placeAll (as.flatMap decompose) rest = placeAll (bs.flatMap decompose) rest := by
  induction h generalizing rest with
  | decomposed c =>
    rw [List.flatMap_singleton, flatMap_decompose_of_settled fun _ => settled_of_mem_decompose]
  | @swapped a b h =>
    have hcomm := placeAll_comm (fun c hc d hd => h.decomposed hc hd) rest
    simpa [placeAll_append] using hcomm
  | refl cs => rfl
  | symm _ ih => exact (ih rest).symm
  | trans _ _ ih ih' => exact (ih rest).trans (ih' rest)
  | append _ _ ih ih' =>
    rw [List.flatMap_append, List.flatMap_append, placeAll_append, placeAll_append, ih', ih]

theorem nfc_eq_of_canonical {as bs : List Char} (h : Canonical as bs) : nfc as = nfc bs :=
  congrArg compose (h.placeAll_eq [])

/-! The composed form of a text is equivalent to it. -/

namespace Canonical

theorem cons {as bs : List Char} (c : Char) (h : Canonical as bs) : Canonical (c :: as) (c :: bs) :=
  append (refl [c]) h

theorem flatMap_decompose (cs : List Char) : Canonical (cs.flatMap decompose) cs := by
  induction cs with
  | nil => exact refl []
  | cons c cs ih => exact append (decomposed c).symm ih

theorem place (c : Char) (cs : List Char) : Canonical (Unicode.place c cs) (c :: cs) := by
  induction cs with
  | nil => exact refl [c]
  | cons d ds ih =>
    rw [Unicode.place]
    split
    · rename_i hd
      have hswap : Canonical [d, c] [c, d] :=
        swapped ⟨hd.1, Nat.lt_trans hd.1 hd.2, Nat.ne_of_lt hd.2⟩
      exact (ih.cons d).trans (append hswap (refl ds))
    · exact refl _

theorem reorder (cs : List Char) : Canonical (Unicode.reorder cs) cs := by
  induction cs with
  | nil => exact refl []
  | cons c cs ih => exact (place c _).trans (ih.cons c)

/-- A mark passes those of lower classes. -/
theorem pass {c : Char} {held : List Char}
    (h : ∀ d ∈ held, 0 < combiningClass d ∧ combiningClass d < combiningClass c) :
    Canonical (c :: held) (held ++ [c]) := by
  induction held with
  | nil => exact refl [c]
  | cons d ds ih =>
    obtain ⟨hd, hds⟩ := List.forall_mem_cons.1 h
    have hswap : Canonical [c, d] [d, c] :=
      swapped ⟨Nat.lt_trans hd.1 hd.2, hd.1, (Nat.ne_of_lt hd.2).symm⟩
    exact (append hswap (refl ds)).trans ((ih hds).cons d)

theorem composed {a b c : Char} (h : composite a b = some c) : Canonical [c] [a, b] := by
  have hparts : Canonical (Unicode.decompose a ++ Unicode.decompose b) [a, b] :=
    append (decomposed a).symm (decomposed b).symm
  exact (decompose_composite h ▸ decomposed c).trans hparts

end Canonical

/-- Whether the marks of each base stand by class. -/
abbrev InOrder (cs : List Char) : Prop :=
  cs.IsChain fun a b => combiningClass b = 0 ∨ combiningClass a ≤ combiningClass b

theorem head?_place {c x : Char} {cs : List Char} (h : x ∈ (place c cs).head?) :
    x = c ∨ x ∈ cs.head? := by
  cases cs with
  | nil => exact .inl (Option.some.inj h).symm
  | cons d ds =>
    rw [place] at h
    split at h
    · exact .inr h
    · exact .inl (Option.some.inj h).symm

theorem inOrder_place (c : Char) {cs : List Char} (h : InOrder cs) : InOrder (place c cs) := by
  induction cs with
  | nil => exact .singleton c
  | cons d ds ih =>
    by_cases hd : combiningClass d = 0 ∨ combiningClass c ≤ combiningClass d
    · rw [place_cons_of_le hd]
      exact h.cons_cons hd
    · obtain ⟨hhead, hds⟩ := List.isChain_cons.1 h
      rw [place_cons_of_lt (by omega) (by omega)]
      refine (ih hds).cons fun x hx => ?_
      rcases head?_place hx with rfl | hx
      · omega
      · exact hhead x hx

theorem inOrder_reorder (cs : List Char) : InOrder (reorder cs) := by
  induction cs with
  | nil => exact .nil
  | cons c cs ih => exact inOrder_place c ih

namespace Canonical

/-- The invariant of composition: the marks held back stand by class, none of them above the latest,
and the next mark is not below that. -/
theorem composeAfter {s : Char} {held : List Char} {last : Nat} {cs : List Char}
    (hheld : ∀ d ∈ held, 0 < combiningClass d ∧ combiningClass d ≤ last)
    (hnext : ∀ c ∈ cs.head?, combiningClass c = 0 ∨ last ≤ combiningClass c) (hcs : InOrder cs) :
    Canonical (Unicode.composeAfter s held last cs) (s :: (held ++ cs)) := by
  induction cs generalizing s held last with
  | nil =>
    rw [Unicode.composeAfter, List.append_nil]
    exact refl _
  | cons c cs ih =>
    obtain ⟨hbehind, hrest⟩ := List.isChain_cons.1 hcs
    have hc := hnext c rfl
    rw [Unicode.composeAfter]
    split
    · rename_i r hr
      rw [Option.ite_none_left_eq_some] at hr
      obtain ⟨hfree, hcomposite⟩ := hr
      have hpass : Canonical (c :: held) (held ++ [c]) := pass fun d hd => by
        have hd' := hheld d hd
        omega
      have hnext' : ∀ x ∈ cs.head?, combiningClass x = 0 ∨ last ≤ combiningClass x := fun x hx => by
        have hx' := hbehind x hx
        omega
      have hparts : Canonical (r :: held ++ cs) (s :: (c :: held) ++ cs) :=
        append (append (composed hcomposite) (refl held)) (refl cs)
      have hback : Canonical (s :: (c :: held) ++ cs) (s :: (held ++ [c]) ++ cs) :=
        append (hpass.cons s) (refl cs)
      have hwhole := ((ih hheld hnext' hrest).trans hparts).trans hback
      rwa [List.cons_append, List.append_assoc] at hwhole
    · split
      · rename_i hstarter
        have hih : Canonical (Unicode.composeAfter c [] 0 cs) (c :: cs) :=
          ih nofun (fun _ _ => .inr (Nat.zero_le _)) hrest
        exact append (refl (s :: held)) hih
      · rename_i hmark
        have hheld' : ∀ d ∈ held ++ [c], 0 < combiningClass d ∧
            combiningClass d ≤ combiningClass c := fun d hd => by
          rcases List.mem_append.1 hd with hd | hd
          · have hd' := hheld d hd
            omega
          · rw [List.mem_singleton.1 hd]
            omega
        have hih := ih (s := s) hheld' hbehind hrest
        simpa using hih

theorem compose {cs : List Char} (h : InOrder cs) : Canonical (Unicode.compose cs) cs := by
  induction cs with
  | nil => exact refl []
  | cons c cs ih =>
    have hrest := (List.isChain_cons.1 h).2
    rw [Unicode.compose]
    split
    · exact composeAfter nofun (fun _ _ => .inr (Nat.zero_le _)) hrest
    · exact (ih hrest).cons c

end Canonical

instance : Trans Canonical Canonical Canonical := ⟨Canonical.trans⟩

theorem canonical_nfc (cs : List Char) : Canonical (nfc cs) cs :=
  calc
    Canonical (nfc cs) (reorder (cs.flatMap decompose)) := Canonical.compose (inOrder_reorder _)
    Canonical _ (cs.flatMap decompose) := Canonical.reorder _
    Canonical _ cs := Canonical.flatMap_decompose cs

/-- Two texts are composed to one just when they are equivalent. -/
theorem nfc_eq_iff {as bs : List Char} : nfc as = nfc bs ↔ Canonical as bs :=
  ⟨fun h => (canonical_nfc as).symm.trans (h ▸ canonical_nfc bs), nfc_eq_of_canonical⟩

/-- Composition is at its end after one pass. -/
theorem nfc_nfc (cs : List Char) : nfc (nfc cs) = nfc cs :=
  nfc_eq_iff.2 (canonical_nfc cs)

end CypherTemplate.Unicode
