import CypherTemplate.Proofs.Readable

/-!
What a literal tells of its value: everything but the keys of its maps, of which it keeps the sanitized
forms. Two values have one literal just when they are the same with their keys sanitized.
-/
namespace CypherTemplate

theorem map_eq_of_map_eq {α β γ : Type} {f : α → β} {g : α → γ} {xs ys : List α}
    (h : ∀ x ∈ xs, ∀ y ∈ ys, f x = f y → g x = g y) (heq : xs.map f = ys.map f) :
    xs.map g = ys.map g := by
  induction xs generalizing ys with
  | nil =>
    rw [List.map_nil, List.nil_eq, List.map_eq_nil_iff] at heq
    rw [heq]
  | cons x xs ih =>
    cases ys with
    | nil => cases heq
    | cons y ys =>
      obtain ⟨hhead, htail⟩ := List.cons.inj heq
      rw [List.map_cons, List.map_cons, h x List.mem_cons_self y List.mem_cons_self hhead,
        ih (fun a ha b hb => h a (List.mem_cons_of_mem x ha) b (List.mem_cons_of_mem y hb)) htail]

/-- Names are written alike just when they are the same once sanitized. -/
theorem Name.escape_eq_iff {a b : String} : escape a = escape b ↔ sanitized a = sanitized b := by
  constructor
  · intro h
    exact (reads_escape a b [] [] breaks_nil breaks_nil (congrArg (· ++ []) h)).1
  · intro h
    exact congrArg token (String.ofList_injective h)

namespace Value

/-- The text of a value hangs on its sanitized form. -/
theorem literal_eq_of_sanitized {v w : Value} (h : v.sanitized = w.sanitized) :
    v.literal = w.literal := by
  induction v generalizing w with
  | list items ih =>
    cases w with
    | list others =>
      rw [sanitized_list, sanitized_list, list.injEq] at h
      rw [literal_list, literal_list, map_eq_of_map_eq (fun v hv w _ => ih v hv) h]
    | map es => simp at h
    | _ => simp [sanitized] at h
  | map es ih =>
    cases w with
    | map fs =>
      rw [sanitized_map, sanitized_map, map.injEq] at h
      have hentries : es.map entryLiteral = fs.map entryLiteral := by
        refine map_eq_of_map_eq (fun e he f _ hef => ?_) h
        obtain ⟨hkey, hvalue⟩ := Prod.mk.inj hef
        rw [entryLiteral, entryLiteral, Name.escape_eq_iff.2 hkey, ih e he hvalue]
      rw [literal_map, literal_map, hentries]
    | list items => simp at h
    | _ => simp [sanitized] at h
  | _ =>
    cases w with
    | list items => simp [sanitized] at h
    | map es => simp [sanitized] at h
    | _ => exact congrArg literal h

theorem sanitized_eq_of_literal {v w : Value} (h : v.literal = w.literal) :
    v.sanitized = w.sanitized :=
  (reads_literal v w [] [] breaks_nil breaks_nil (congrArg (· ++ []) h)).1

theorem literal_int_ne_double (i : Int64) (d : Double) : (int i).literal ≠ (double d).literal := by
  intro h
  have heq := sanitized_eq_of_literal h
  simp [sanitized] at heq

theorem eq_string_of_literal {t : String} {w : Value} (h : (string t).literal = w.literal) :
    w = .string t := by
  have heq := sanitized_eq_of_literal h
  cases w with
  | list items => simp [sanitized] at heq
  | map es => simp [sanitized] at heq
  | _ => exact heq.symm

theorem exists_list_of_literal {items : List Value} {w : Value}
    (h : (list items).literal = w.literal) :
    ∃ others, w = .list others ∧ items.map literal = others.map literal := by
  have heq := sanitized_eq_of_literal h
  cases w with
  | list others =>
    rw [sanitized_list, sanitized_list, list.injEq] at heq
    exact ⟨others, rfl, map_eq_of_map_eq (fun _ _ _ _ => literal_eq_of_sanitized) heq⟩
  | map es => simp at heq
  | _ => simp [sanitized] at heq

theorem exists_map_of_literal {es : List (String × Value)} {w : Value}
    (h : (map es).literal = w.literal) :
    ∃ fs, w = .map fs ∧ es.map (Name.escape ·.1) = fs.map (Name.escape ·.1) ∧
      es.map (literal ·.2) = fs.map (literal ·.2) := by
  have heq := sanitized_eq_of_literal h
  cases w with
  | map fs =>
    rw [sanitized_map, sanitized_map, map.injEq] at heq
    refine ⟨fs, rfl, map_eq_of_map_eq (fun e _ f _ hef => ?_) heq,
      map_eq_of_map_eq (fun e _ f _ hef => ?_) heq⟩
    · exact Name.escape_eq_iff.2 (Prod.mk.inj hef).1
    · exact literal_eq_of_sanitized (Prod.mk.inj hef).2
  | list items => simp at heq
  | _ => simp [sanitized] at heq

/-- Two values have one literal just when they are the same with the keys of their maps sanitized; there
is one NaN, and there are two zeros. So no whole number is written as a double is, a string is written
as no other value is, and a list or a map only as one with the same literals in it. -/
theorem literal_eq_iff (v w : Value) :
    (v.literal = w.literal ↔ v.sanitized = w.sanitized) ∧
      (∀ i d, (int i).literal ≠ (double d).literal) ∧
      (∀ t, (string t).literal = w.literal → w = .string t) ∧
      (∀ items, (list items).literal = w.literal →
        ∃ others, w = .list others ∧ items.map literal = others.map literal) ∧
      ∀ es, (map es).literal = w.literal →
        ∃ fs, w = .map fs ∧ es.map (Name.escape ·.1) = fs.map (Name.escape ·.1) ∧
          es.map (literal ·.2) = fs.map (literal ·.2) :=
  ⟨⟨sanitized_eq_of_literal, literal_eq_of_sanitized⟩, literal_int_ne_double,
    fun _ => eq_string_of_literal, fun _ => exists_list_of_literal, fun _ => exists_map_of_literal⟩

end Value

end CypherTemplate
