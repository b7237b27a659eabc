import CypherTemplate.Adapter

/-!
Sessions: executions one after another on one adapter. The adapter is called for the executions that
compile and for no others, each time with the query that was compiled, so a recording adapter holds
these queries in their order. What an execution answers hangs on itself alone, whatever failed
before it.
-/
namespace CypherTemplate

variable {σ α ε : Type}

/-- One execution: of a template as it is, or of one that is bound, with a configuration of its own or
the default, in a context or in none. -/
inductive Execution where
  | direct (t : Template) (ctx : Context)
  | bound (t : Template) (config : Option Config) (ctx : Context)
  | boundDefault (t : Template) (config : Option Config)

/-- A template bound to an adapter, with a configuration if one is chosen. -/
def Template.bindWith (t : Template) (a : Adapter σ α ε) : Option Config → BoundTemplate σ α ε
  | none => t.bind a
  | some config => (t.bind a).withConfig config

namespace Execution

/-- What an execution compiles to. -/
def compiled : Execution → Except Error Query
  | .direct t ctx => t.compile ctx {}
  | .bound t config ctx => t.compile ctx (config.getD {})
  | .boundDefault t config => t.compile .empty (config.getD {})

def run (a : Adapter σ α ε) : Execution → σ → Except (ExecutionError ε) α × σ
  | .direct t ctx => t.execute a ctx
  | .bound t config ctx => (t.bindWith a config).execute ctx
  | .boundDefault t config => (t.bindWith a config).executeDefault

/-- Executions one after another, with their results. -/
def runAll (a : Adapter σ α ε) : List Execution → σ → List (Except (ExecutionError ε) α) × σ
  | [], s => ([], s)
  | x :: xs, s =>
    let (r, s) := x.run a s
    let (rs, s) := runAll a xs s
    (r :: rs, s)

/-- The call that an execution makes. -/
def call? (x : Execution) : Option Call :=
  match x.compiled with
  | .ok q => some ⟨q.text, q.parameters⟩
  | .error _ => none

/-- What an execution returns where a call has a fixed answer. -/
def outcome (answer : Call → Except ε α) (x : Execution) : Except (ExecutionError ε) α :=
  match x.compiled with
  | .ok q => (answer ⟨q.text, q.parameters⟩).mapError .adapter
  | .error e => .error (.compile e)

variable {a : Adapter σ α ε} {x : Execution}

@[simp] theorem runAll_nil (a : Adapter σ α ε) (s : σ) : runAll a [] s = ([], s) := rfl

@[simp] theorem runAll_cons (a : Adapter σ α ε) (x : Execution) (xs : List Execution) (s : σ) :
    runAll a (x :: xs) s =
      ((x.run a s).1 :: (runAll a xs (x.run a s).2).1, (runAll a xs (x.run a s).2).2) :=
  rfl

/-- All ways to execute compile first and then call the adapter. -/
theorem run_eq (a : Adapter σ α ε) (x : Execution) (s : σ) :
    x.run a s =
      match x.compiled with
      | .error e => (.error (.compile e), s)
      | .ok q =>
        ((a.execute q.text q.parameters s).1.mapError .adapter,
          (a.execute q.text q.parameters s).2) := by
  cases x with
  | direct t ctx => rfl
  | bound t config ctx => cases config <;> rfl
  | boundDefault t config => cases config <;> rfl

/-- The adapter is not called for what does not compile. -/
theorem run_of_error {e : Error} (h : x.compiled = .error e) (s : σ) :
    x.run a s = (.error (.compile e), s) := by
  rw [run_eq, h]

theorem run_of_ok {q : Query} (h : x.compiled = .ok q) (s : σ) :
    x.run a s =
      ((a.execute q.text q.parameters s).1.mapError .adapter,
        (a.execute q.text q.parameters s).2) := by
  rw [run_eq, h]

/-- An execution adds its call to the record, if it makes one. -/
theorem run_recording (answer : Call → Except ε α) (x : Execution) (calls : List Call) :
    x.run (.recording answer) calls = (x.outcome answer, calls ++ x.call?.toList) := by
  cases h : x.compiled with
  | error e => rw [run_of_error h, outcome, call?, h, Option.toList_none, List.append_nil]
  | ok q =>
    rw [run_of_ok h, outcome, call?, h]
    rfl

/-- A session adds the calls of its executions in their order, and each execution returns what it
returns by itself. -/
theorem runAll_recording (answer : Call → Except ε α) (xs : List Execution) (calls : List Call) :
    runAll (.recording answer) xs calls =
      (xs.map (outcome answer), calls ++ xs.filterMap call?) := by
  induction xs generalizing calls with
  | nil => rw [runAll_nil, List.map_nil, List.filterMap_nil, List.append_nil]
  | cons x xs ih =>
    have hcalls : (x :: xs).filterMap call? = x.call?.toList ++ xs.filterMap call? := by
      cases h : x.call? <;> simp [h]
    rw [runAll_cons, run_recording, ih, List.map_cons, hcalls, List.append_assoc]

theorem outcome_of_accepted (x : Execution) :
    x.outcome (fun _ => (.ok () : Except ε Unit)) =
      (x.compiled.map fun _ => ()).mapError .compile := by
  unfold outcome
  cases x.compiled <;> rfl

/-- An adapter sees exactly the executions that compile. Whatever the adapter, an execution that does
not compile returns its error and leaves the state alone, and one whose call fails returns the failure
of the adapter. An adapter that records its calls, and answers each by what it asks, has recorded the
compiled queries of a session in their order, and the results are those of the single executions; one
that refuses nothing returns no errors but those of the templates. -/
theorem runAll_eq_compiled (answer : Call → Except ε α) (xs : List Execution)
    (calls : List Call) :
    runAll (.recording answer) xs calls =
      (xs.map (outcome answer), calls ++ xs.filterMap call?) ∧
    runAll (.recordingAll : Adapter (List Call) Unit ε) xs calls =
      (xs.map fun x => (x.compiled.map fun _ => ()).mapError .compile,
        calls ++ xs.filterMap call?) ∧
    ∀ (a : Adapter σ α ε) (x : Execution) (s : σ),
      (∀ e, x.compiled = .error e → x.run a s = (.error (.compile e), s)) ∧
      ∀ q r s', x.compiled = .ok q → a.execute q.text q.parameters s = (r, s') →
        x.run a s = (r.mapError .adapter, s') := by
  refine ⟨runAll_recording answer xs calls, ?_, fun a x s => ⟨fun e he => ?_, ?_⟩⟩
  · rw [Adapter.recordingAll, runAll_recording, List.map_congr_left fun x _ => outcome_of_accepted x]
  · exact run_of_error he s
  · intro q r s' hq hcall
    rw [run_of_ok hq, hcall]

/-- A node that is looked up by a parameter. -/
def byId : Template := ⟨[
  .matching [.node (Entity.node "n")],
  .filter (.equal (.property "n" "id") (.param "id"))]⟩

/-- A connection that refuses queries with parameters. -/
def refusing (c : Call) : Except String Nat :=
  if c.parameters.isEmpty then .ok 0 else .error "refused"

/-- The first execution lacks its parameter, the second is refused, and the third is well. -/
theorem runAll_byId :
    runAll (.recording refusing)
      [.direct byId .empty,
        .bound byId (some ({ } : Config).withDollarParams) (.ofList [("id", .int 7)]),
        .boundDefault .empty none] [] =
      ([.error (.compile (.unboundParam "id")), .error (.adapter "refused"), .ok 0],
        [⟨"MATCH (n) WHERE n.id = $id", .ofList [("id", .int 7)]⟩, ⟨"", .empty⟩]) ∧
    (direct byId .empty).run (.recording refusing) [⟨"", .empty⟩] =
      (.error (.compile (.unboundParam "id")), [⟨"", .empty⟩]) := by
  obtain ⟨hrun, _, hstep⟩ := runAll_eq_compiled (σ := List Call) refusing
    [.direct byId .empty, .bound byId (some ({ } : Config).withDollarParams) (.ofList [("id", .int 7)]),
      .boundDefault .empty none] []
  have hunbound : (direct byId .empty).compiled = .error (.unboundParam "id") := by rfl
  refine ⟨hrun.trans ?_, (hstep (.recording refusing) _ _).1 _ hunbound⟩
  rfl

end Execution

end CypherTemplate
