import CypherTemplate.Proofs.Unambiguous

/-!
Sort orders and the lists of their keys. Each list of keys is spelled in one way, and an order has
keys just when it is such a spelling. The keys are found token by token, so an order that has none
is refused for the first direction that does not stand behind a field.
-/
namespace CypherTemplate.OrderBy

/-- The tokens of some keys. -/
def spelled (keys : List SortKey) : List OrderToken := keys.flatMap SortKey.tokens

@[simp] theorem spelled_nil : spelled [] = [] := rfl

@[simp] theorem spelled_append (keys keys' : List SortKey) :
    spelled (keys ++ keys') = spelled keys ++ spelled keys' :=
  List.flatMap_append

@[simp] theorem spelled_singleton (k : SortKey) : spelled [k] = k.tokens :=
  List.flatMap_singleton _ k

theorem spelled_cons (e : Expr) (d : Option Direction) (keys : List SortKey) :
    spelled ((e, d) :: keys) = .field e :: (d.toList.map .direction ++ spelled keys) :=
  rfl

theorem keysAfter_spelled (last : Option SortKey) (keys : List SortKey) :
    keysAfter last (spelled keys) = .ok (last.toList ++ keys) := by
  induction keys generalizing last with
  | nil => simp [keysAfter]
  | cons k keys ih =>
    obtain ⟨e, d⟩ := k
    have hkeys : keysAfter (some (e, none)) (d.toList.map .direction ++ spelled keys) =
        .ok ((e, d) :: keys) := by
      cases d with
      | none => exact ih (some (e, none))
      | some d => exact ih (some (e, some d))
    rw [spelled_cons, keysAfter, hkeys]
    rfl

/-- Keys are found just for their spelling. -/
theorem sortKeys_eq_ok_iff {o : OrderBy} {keys : List SortKey} :
    o.sortKeys = .ok keys ↔ spelled keys = o.tokens := by
  constructor
  · exact fun h => (tokens_of_keysAfter h).symm
  · intro h
    rw [sortKeys, ← h]
    exact keysAfter_spelled none keys

/-! The keys token by token. -/

/-- What the next token makes of the keys so far: a field begins a key, and a direction goes to the
latest one. -/
def extend (keys : List SortKey) : OrderToken → Except Error (List SortKey)
  | .field e => .ok (keys ++ [(e, none)])
  | .direction d =>
    match keys.getLast? with
    | none => .error (.invalidOrderBy (.leading d))
    | some (e, none) => .ok (keys.dropLast ++ [(e, some d)])
    | some (_, some _) => .error (.invalidOrderBy (.repeated d))

/-- Only the latest of the keys so far, if there is one, can change any more. -/
theorem foldlM_extend (done : List SortKey) (last : Option SortKey) (ts : List OrderToken)
    (h : last = none → done = []) :
    ts.foldlM extend (done ++ last.toList) = (keysAfter last ts).map (done ++ ·) := by
  fun_induction keysAfter last ts generalizing done with
  | case1 last => rfl
  | case2 last e ts ih =>
    rw [List.foldlM_cons]
    change ts.foldlM extend (done ++ last.toList ++ [(e, none)]) = _
    refine (ih (done ++ last.toList) (fun h => by cases h)).trans ?_
    cases keysAfter (some (e, none)) ts with
    | error err => rfl
    | ok keys => simp [bind, Except.bind, pure, Except.pure, Except.map]
  | case3 d ts =>
    rw [h rfl]
    rfl
  | case4 e d ts ih =>
    rw [← ih done (fun h => by cases h), List.foldlM_cons]
    simp [extend, bind, Except.bind]
  | case5 e d' d ts => simp [extend, bind, Except.bind, Except.map]

theorem sortKeys_eq_foldlM (o : OrderBy) : o.sortKeys = o.tokens.foldlM extend [] := by
  have hall := foldlM_extend [] none o.tokens fun _ => rfl
  rw [sortKeys]
  cases hkeys : keysAfter none o.tokens <;> simpa [hkeys, Except.map] using hall.symm

theorem foldlM_spelled (keys : List SortKey) : (spelled keys).foldlM extend [] = .ok keys :=
  (sortKeys_eq_foldlM ⟨spelled keys⟩).symm.trans (sortKeys_eq_ok_iff.2 rfl)

/-- Steps write one token each. -/
theorem foldlM_extend_eq_ok_iff {keys keys' : List SortKey} {ts : List OrderToken} :
    ts.foldlM extend keys = .ok keys' ↔ spelled keys' = spelled keys ++ ts := by
  have hrun : sortKeys ⟨spelled keys ++ ts⟩ = ts.foldlM extend keys := by
    rw [sortKeys_eq_foldlM, List.foldlM_append, foldlM_spelled]
    rfl
  rw [← hrun, sortKeys_eq_ok_iff]

/-- A run of steps fails at the first step that does. -/
theorem foldlM_eq_error_iff {α β ε : Type} {f : β → α → Except ε β} {as : List α} {b : β}
    {err : ε} :
    as.foldlM f b = .error err ↔ ∃ front a rest c, as = front ++ a :: rest ∧
      front.foldlM f b = .ok c ∧ f c a = .error err := by
  induction as generalizing b with
  | nil => simp [pure, Except.pure]
  | cons a as ih =>
    rw [List.foldlM_cons]
    cases hstep : f b a with
    | error e =>
      constructor
      · rintro ⟨⟩
        exact ⟨[], a, as, b, rfl, rfl, hstep⟩
      · rintro ⟨front, x, rest, c, hsplit, hfront, hx⟩
        cases front with
        | nil =>
          cases hsplit
          cases hfront
          rw [hstep] at hx
          exact hx
        | cons y front =>
          cases hsplit
          rw [List.foldlM_cons, hstep] at hfront
          cases hfront
    | ok next =>
      refine ih.trans ⟨?_, ?_⟩
      · rintro ⟨front, x, rest, c, rfl, hfront, hx⟩
        refine ⟨a :: front, x, rest, c, rfl, ?_, hx⟩
        rw [List.foldlM_cons, hstep]
        exact hfront
      · rintro ⟨front, x, rest, c, hsplit, hfront, hx⟩
        cases front with
        | nil =>
          cases hsplit
          cases hfront
          rw [hstep] at hx
          cases hx
        | cons y front =>
          cases hsplit
          rw [List.foldlM_cons, hstep] at hfront
          exact ⟨front, x, rest, c, rfl, hfront, hx⟩

/-- Some tokens behind which a direction has no field to belong to, and what is wrong with it. -/
inductive Stray (d : Direction) : List OrderToken → OrderFault → Prop where
  | leading : Stray d [] (.leading d)
  | repeated (front : List OrderToken) (d' : Direction) :
    Stray d (front ++ [.direction d']) (.repeated d)

theorem stray_nil {d : Direction} {fault : OrderFault} : Stray d [] fault ↔ fault = .leading d := by
  constructor
  · generalize hfront : ([] : List OrderToken) = front
    rintro ⟨⟩
    · rfl
    · simp at hfront
  · rintro rfl
    exact .leading

theorem stray_concat {d : Direction} {front : List OrderToken} {t : OrderToken}
    {fault : OrderFault} :
    Stray d (front ++ [t]) fault ↔ t.isDirection ∧ fault = .repeated d := by
  constructor
  · generalize hall : front ++ [t] = all
    rintro ⟨⟩
    · simp at hall
    · obtain ⟨_, hlast⟩ := List.append_inj' hall rfl
      cases hlast
      exact ⟨rfl, rfl⟩
  · rintro ⟨ht, rfl⟩
    cases t with
    | field e => cases ht
    | direction d' => exact .repeated front d'

/-- A step fails for a stray direction only. -/
theorem extend_eq_error_iff {keys : List SortKey} {t : OrderToken} {err : Error} :
    extend keys t = .error err ↔ ∃ d fault, t = .direction d ∧ err = .invalidOrderBy fault ∧
      Stray d (spelled keys) fault := by
  cases t with
  | field e => simp [extend]
  | direction d =>
    rcases keys.eq_nil_or_concat with rfl | ⟨keys, ⟨e, _ | d'⟩, rfl⟩
    · simp [extend, stray_nil, eq_comm]
    · simp [extend, SortKey.tokens, stray_concat, OrderToken.isDirection]
    · have hlast : spelled (keys ++ [(e, some d')]) =
          (spelled keys ++ [.field e]) ++ [.direction d'] := by
        simp [SortKey.tokens]
      rw [List.concat_eq_append, hlast]
      simp only [stray_concat]
      simp [extend, OrderToken.isDirection, eq_comm]

theorem sortKeys_eq_error_iff {o : OrderBy} {err : Error} :
    o.sortKeys = .error err ↔ ∃ front d rest fault, o.tokens = front ++ .direction d :: rest ∧
      (∃ keys, sortKeys ⟨front⟩ = .ok keys) ∧ Stray d front fault ∧
        err = .invalidOrderBy fault := by
  rw [sortKeys_eq_foldlM, foldlM_eq_error_iff]
  constructor
  · rintro ⟨front, t, rest, keys, htokens, hfront, hstep⟩
    obtain rfl : spelled keys = front := foldlM_extend_eq_ok_iff.1 hfront
    obtain ⟨d, fault, rfl, rfl, hstray⟩ := extend_eq_error_iff.1 hstep
    exact ⟨_, d, rest, fault, htokens, ⟨keys, sortKeys_eq_ok_iff.2 rfl⟩, hstray, rfl⟩
  · rintro ⟨front, d, rest, fault, htokens, ⟨keys, hkeys⟩, hstray, rfl⟩
    obtain rfl : spelled keys = front := sortKeys_eq_ok_iff.1 hkeys
    have hstep : extend keys (.direction d) = .error (.invalidOrderBy fault) :=
      extend_eq_error_iff.2 ⟨d, fault, rfl, rfl, hstray⟩
    exact ⟨_, .direction d, rest, keys, htokens, foldlM_spelled keys, hstep⟩

/-- Whether no direction comes first or right behind another one. -/
def InPlace (ts : List OrderToken) : Prop :=
  (∀ d rest, ts ≠ .direction d :: rest) ∧
    ∀ front d d' rest, ts ≠ front ++ .direction d :: .direction d' :: rest

theorem inPlace_iff {ts : List OrderToken} :
    InPlace ts ↔ ts.IsChain (fun a b => ¬(a.isDirection ∧ b.isDirection)) ∧
      ∀ t ∈ ts.head?, ¬t.isDirection := by
  rw [InPlace, and_comm, List.isChain_iff_forall_rel_of_append_cons_cons]
  refine and_congr ⟨fun h a b front rest hts => ?_, fun h front d d' rest hts => ?_⟩ ?_
  · cases a with
    | field e => simp [OrderToken.isDirection]
    | direction d =>
      cases b with
      | field e => simp [OrderToken.isDirection]
      | direction d' => exact absurd hts (h front d d' rest)
  · exact h hts ⟨rfl, rfl⟩
  · rcases ts with _ | ⟨e | d, ts⟩ <;> simp [OrderToken.isDirection]

/-- Orders whose directions are in place and lists of keys are one thing in two forms: an order has
keys just when no direction comes first or behind another one, its tokens are then these keys
written out, and every list of keys is that of the order it is written out to. Any other order is
refused for the first direction that is not in place. The keys are those that the tokens come to one
by one. -/
theorem sortKeys_bijection (o : OrderBy) :
    o.sortKeys = o.tokens.foldlM extend [] ∧
    ((∃ keys, o.sortKeys = .ok keys) ↔ InPlace o.tokens) ∧
    (∀ keys, o.sortKeys = .ok keys ↔ keys.flatMap SortKey.tokens = o.tokens) ∧
    (∀ keys : List SortKey, sortKeys ⟨keys.flatMap SortKey.tokens⟩ = .ok keys) ∧
    ∀ err, o.sortKeys = .error err ↔
      ∃ front d rest, o.tokens = front ++ .direction d :: rest ∧ InPlace front ∧
        (front = [] ∧ err = .invalidOrderBy (.leading d) ∧
            err.message = "invalid ORDER BY: " ++
              ("direction '" ++ d.token ++ "' has no preceding field") ∨
          (∃ front' d', front = front' ++ [.direction d']) ∧ err = .invalidOrderBy (.repeated d) ∧
            err.message = "invalid ORDER BY: " ++
              ("direction '" ++ d.token ++ "' follows another direction")) := by
  have hexists : ∀ o : OrderBy, (∃ keys, o.sortKeys = .ok keys) ↔ InPlace o.tokens := fun o => by
    rw [inPlace_iff, sortKeys]
    simpa [isOpen] using exists_keysAfter_iff none o.tokens
  refine ⟨sortKeys_eq_foldlM o, hexists o, fun _ => sortKeys_eq_ok_iff,
    fun _ => sortKeys_eq_ok_iff.2 rfl, fun err => ?_⟩
  rw [sortKeys_eq_error_iff]
  constructor
  · rintro ⟨front, d, rest, fault, htokens, hkeys, hstray, rfl⟩
    refine ⟨front, d, rest, htokens, (hexists ⟨front⟩).1 hkeys, ?_⟩
    cases hstray with
    | leading => exact .inl ⟨rfl, rfl, rfl⟩
    | repeated front d' => exact .inr ⟨⟨front, d', rfl⟩, rfl, rfl⟩
  · rintro ⟨front, d, rest, htokens, hfront, ⟨rfl, rfl, -⟩ | ⟨⟨front, d', rfl⟩, rfl, -⟩⟩
    · exact ⟨[], d, rest, _, htokens, (hexists ⟨[]⟩).2 hfront, .leading, rfl⟩
    · exact ⟨_, d, rest, _, htokens, (hexists ⟨_⟩).2 hfront, .repeated front d', rfl⟩

end CypherTemplate.OrderBy
