import CypherTemplate.Query.Compile

/-!
Execution of templates against a database. An adapter takes query text with its parameters, answers
and changes state; it only ever sees queries that compiled.
-/
namespace CypherTemplate

/-- A database connection with state `σ`, answers `α` and failures `ε`. -/
structure Adapter (σ α ε : Type) where
  execute : String → KeyMap Value → σ → Except ε α × σ

/-- Why an execution failed. -/
inductive ExecutionError (ε : Type) where
  | compile (e : Error)
  | adapter (e : ε)

namespace ExecutionError

/-- Failures of the adapter are told apart from those of the template. -/
def message {ε : Type} (describe : ε → String) : ExecutionError ε → String
  | .compile e => e.message
  | .adapter e => "adapter error: " ++ describe e

end ExecutionError

variable {σ α ε : Type}

namespace Template

/-- Compiles a template and passes the query on. The state stays as it is when the template does not
compile. -/
def executeWith (t : Template) (a : Adapter σ α ε) (ctx : Context) (config : Config) (s : σ) :
    Except (ExecutionError ε) α × σ :=
  match t.compile ctx config with
  | .error e => (.error (.compile e), s)
  | .ok q =>
    let (r, s) := a.execute q.text q.parameters s
    (r.mapError .adapter, s)

/-- Execution with the default configuration. -/
def execute (t : Template) (a : Adapter σ α ε) (ctx : Context) (s : σ) :
    Except (ExecutionError ε) α × σ :=
  t.executeWith a ctx {} s

end Template

/-- A template with an adapter and the configuration of its executions. -/
structure BoundTemplate (σ α ε : Type) where
  template : Template
  adapter : Adapter σ α ε
  config : Config := {}

namespace Template

def bind (t : Template) (a : Adapter σ α ε) : BoundTemplate σ α ε := { template := t, adapter := a }

end Template

namespace BoundTemplate

def withConfig (b : BoundTemplate σ α ε) (config : Config) : BoundTemplate σ α ε :=
  { b with config }

def execute (b : BoundTemplate σ α ε) (ctx : Context) (s : σ) :
    Except (ExecutionError ε) α × σ :=
  b.template.executeWith b.adapter ctx b.config s

/-- Execution without any context: every option group takes its first variant. -/
def executeDefault (b : BoundTemplate σ α ε) (s : σ) : Except (ExecutionError ε) α × σ :=
  b.execute .empty s

end BoundTemplate

/-- What an adapter was asked. -/
structure Call where
  query : String
  parameters : KeyMap Value

namespace Adapter

/-- Keeps every call, the latest last, and answers it by a function of the call alone. -/
def recording (answer : Call → Except ε α) : Adapter (List Call) α ε :=
  ⟨fun query parameters calls =>
    (answer ⟨query, parameters⟩, calls ++ [⟨query, parameters⟩])⟩

/-- Keeps every call and refuses none. -/
def recordingAll : Adapter (List Call) Unit ε :=
  recording fun _ => .ok ()

end Adapter

end CypherTemplate
