import CypherTemplate.Proofs.StoredTemplate

/-!
Templates, contexts and queries are read back from their texts. They are the same if their maps are in
order, their doubles are finite and at most 127 lists and records of the text are open at once; a text
with more open is refused. What was read from a text of any spelling is all of this. That the doubles
are read back is left to their reader; one that takes the nearest double reads back all of them.
-/
namespace CypherTemplate

open Decoder

namespace Template

variable [DoubleReader]

/-- Reads a text and writes what was read. -/
def reencode (text : String) : Except Error String := do
  return (← ofJson text).toJson.compact

/-- What is read of the text of a template. -/
theorem ofJson_compact {t : Template} (hback : t.toJson.readsBack) :
    ofJson t.toJson.compact =
      if Json.nesting t.toJson.compact ≤ 127 then .ok t.stored else .error (.json .malformed) := by
  rw [ofJson, inverts_decoder.read_compact (by decide) hback, fit]
  split <;> rfl

end Template

theorem Context.ofJson_compact [DoubleReader] {ctx : Context} (hback : ctx.toJson.readsBack) :
    ofJson ctx.toJson.compact =
      if Json.nesting ctx.toJson.compact ≤ 127 then .ok ctx.stored
      else .error (.json .malformed) := by
  rw [ofJson, KeyMap.inverts_decoder.read_compact (by decide) hback, fit]
  split <;> rfl

theorem Query.stored_eq_self_iff (q : Query) :
    q.stored = q ↔ q.parameters.Ordered ∧ q.parameters.Finite := by
  rw [← q.parameters.stored_eq_self_iff]
  cases q
  simp [stored]

theorem Query.ofJson_compact [DoubleReader] {q : Query} (hback : q.toJson.readsBack) :
    ofJson q.toJson.compact =
      if Json.nesting q.toJson.compact ≤ 127 then .ok q.stored else .error .malformed := by
  rw [ofJson, inverts_decoder.read_compact (by decide) hback, fit]

/-- What a form is read as tells when it is read whole. -/
theorem reload_of_eq {ε α : Type} {read : Except ε α} {a kept : α} {e : ε} {depth : Nat}
    {ordered finite : Prop} (h : read = if depth ≤ 127 then .ok kept else .error e)
    (hkept : kept = a ↔ ordered ∧ finite) :
    (read = .ok a ↔ ordered ∧ finite ∧ depth ≤ 127) ∧ (127 < depth → read = .error e) := by
  rw [← and_assoc, ← hkept, h]
  by_cases hdepth : depth ≤ 127
  · rw [if_pos hdepth, Except.ok.injEq]
    exact ⟨(and_iff_left hdepth).symm, fun hdeep => absurd hdepth (by omega)⟩
  · rw [if_neg hdepth]
    exact ⟨⟨nofun, fun hboth => absurd hboth.2 hdepth⟩, fun _ => rfl⟩

/-- A template, a context or a query is read back from its text as the same one if and only if its
doubles are finite and at most 127 lists and records of the text are open at once, given that its maps
are in order and that each finite double in it is read back; deeper texts are malformed. -/
theorem reload_iff [DoubleReader] :
    (∀ t : Template, t.toJson.readsBack →
      (Template.ofJson t.toJson.compact = .ok t ↔
        t.Ordered ∧ t.Finite ∧ Json.nesting t.toJson.compact ≤ 127) ∧
      (127 < Json.nesting t.toJson.compact →
        Template.ofJson t.toJson.compact = .error (.json .malformed))) ∧
    (∀ ctx : Context, ctx.toJson.readsBack →
      (Context.ofJson ctx.toJson.compact = .ok ctx ↔
        ctx.Ordered ∧ ctx.Finite ∧ Json.nesting ctx.toJson.compact ≤ 127) ∧
      (127 < Json.nesting ctx.toJson.compact →
        Context.ofJson ctx.toJson.compact = .error (.json .malformed))) ∧
    ∀ q : Query, q.toJson.readsBack →
      (Query.ofJson q.toJson.compact = .ok q ↔
        q.parameters.Ordered ∧ q.parameters.Finite ∧ Json.nesting q.toJson.compact ≤ 127) ∧
      (127 < Json.nesting q.toJson.compact → Query.ofJson q.toJson.compact = .error .malformed) := by
  refine ⟨fun t hback => ?_, fun ctx hback => ?_, fun q hback => ?_⟩
  · exact reload_of_eq (Template.ofJson_compact hback) t.stored_eq_self_iff
  · exact reload_of_eq (Context.ofJson_compact hback) (KeyMap.stored_eq_self_iff ctx)
  · exact reload_of_eq (Query.ofJson_compact hback) q.stored_eq_self_iff

/-- A template with a double among its literals. -/
def halves : Template :=
  ⟨[.returning [.literal (.double (.finite false ⟨4612811918334230528, by decide⟩))]]⟩

theorem reload_halves :
    halves.toJson.compact = "\x7b\"clauses\":[\x7b\"Return\":[\x7b\"Literal\":2.5\x7d]\x7d]\x7d" ∧
      Template.ofJson halves.toJson.compact = .ok halves := by
  have hback : halves.toJson.readsBack := by decide +kernel
  have hnesting : Json.nesting halves.toJson.compact ≤ 127 := by decide +kernel
  refine ⟨by decide +kernel, (reload_iff.1 halves hback).1.2 ⟨?_, ?_, hnesting⟩⟩
  · simp [halves, Template.Ordered, Template.leaves, Clause.leaves, Expr.leaves, Expr.AllLiterals,
      Value.Ordered]
  · simp [halves, Template.Finite, Template.leaves, Clause.leaves, Expr.leaves, Expr.AllLiterals,
      Value.Finite, Double.isFinite]

namespace Template

theorem decoder_read_of_ofJson [DoubleReader] {text : String} {t : Template} (h : ofJson text = .ok t) :
    decoder.read text = .ok t := by
  unfold ofJson at h
  cases hread : decoder.read text with
  | error e =>
    rw [hread] at h
    cases h
  | ok u =>
    rw [hread] at h
    cases h
    rfl

/-- A template that was read from a text of any spelling is read again from its own text, given that
each finite double in it is read back, and this text stays as it is when it is read and written. It is
nested no deeper than is allowed, and all its doubles have a written form; its option groups have a
variant by their type. -/
theorem reencode_of_ofJson [DoubleReader] {text : String} {t : Template} (h : ofJson text = .ok t)
    (hback : t.toJson.readsBack) :
    ofJson t.toJson.compact = .ok t ∧
      reencode text = .ok t.toJson.compact ∧
      reencode t.toJson.compact = .ok t.toJson.compact ∧
      Json.nesting t.toJson.compact ≤ 127 ∧ t.Ordered ∧ t.Finite := by
  obtain ⟨hdepth, hkept⟩ := inverts_decoder.of_read (decoder_read_of_ofJson h)
  have hread : ofJson t.toJson.compact = .ok t := by
    rw [ofJson_compact hback, if_pos hdepth, hkept]
  refine ⟨hread, ?_, ?_, hdepth, t.stored_eq_self_iff.1 hkept⟩
  · rw [reencode, h]
    rfl
  · rw [reencode, hread]
    rfl

/-- A text with a field that is not asked for, records and a group written as lists, a bare name with a
payload, and a key that is met twice, once escaped. -/
def spelled : String :=
  "\x7b\"x\": 1e400, \"clauses\": [" ++
    "\x7b\"Match\": [\x7b\"Node\": [\"a\", [], \x7b\"Node\": null\x7d]\x7d]\x7d, " ++
    "\x7b\"Opt\": [[[\"k\", \x7b\"Where\": \x7b\"Literal\": " ++
      "\x7b\"b\": 1, \"a\": 2.50, \"\\u0062\": -0\x7d\x7d\x7d]]]\x7d]\x7d"

/-- The same template as it is written. -/
def respelled : String :=
  "\x7b\"clauses\":[" ++
    "\x7b\"Match\":[\x7b\"Node\":\x7b\"name\":\"a\",\"labels\":[],\"kind\":\"Node\"\x7d\x7d]\x7d," ++
    "\x7b\"Opt\":\x7b\"variants\":[[\"k\",\x7b\"Where\":\x7b\"Literal\":" ++
      "\x7b\"a\":2.5,\"b\":-0.0\x7d\x7d\x7d]]\x7d\x7d]\x7d"

theorem reencode_spelled :
    ∃ t, ofJson spelled = .ok t ∧ ofJson t.toJson.compact = .ok t ∧
      t.toJson.compact = respelled ∧ reencode respelled = .ok respelled := by
  have hwritten : reencode spelled = .ok respelled := by decide +kernel
  have hback : (ofJson spelled).toOption.all (·.toJson.readsBack) := by decide +kernel
  cases hread : ofJson spelled with
  | error e =>
    rw [reencode, hread] at hwritten
    cases hwritten
  | ok t =>
    rw [hread] at hback
    obtain ⟨hsame, hfirst, hagain, _⟩ := reencode_of_ofJson hread hback
    have htext : t.toJson.compact = respelled := Except.ok.inj (hfirst.symm.trans hwritten)
    rw [htext] at hagain hsame
    exact ⟨t, rfl, htext ▸ hsame, htext, hagain⟩

end Template

end CypherTemplate
