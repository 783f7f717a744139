import LoadFleet.Stage.Settings
import LoadFleet.Stats.Statistics
/-!
# Acknowledgements

A worker answers every stage with one acknowledgement: how long the stage took, what went wrong if
something did, and what was measured. An acknowledgement with an error may still carry the results
of the stressors that finished.
-/

namespace LoadFleet

/-- What kind of trouble kept a worker from passing a stage. -/
inductive AckErrorKind where
  /-- The stage itself failed. -/
  | stage
  /-- The stage took too long. -/
  | timeout
  /-- The worker gave no answer. -/
  | unreachable
  deriving DecidableEq

namespace AckErrorKind

/-- All kinds, in their order. -/
def all : List AckErrorKind := [stage, timeout, unreachable]

/-- The name of a kind in texts. -/
def name : AckErrorKind → String
  | stage => "stage"
  | timeout => "timeout"
  | unreachable => "unreachable"

/-- The name of a kind in messages. -/
def title : AckErrorKind → String
  | stage => "stage error"
  | timeout => "timeout"
  | unreachable => "unreachable"

/-- The kind of a name. -/
def ofName? (name : String) : Option AckErrorKind := all.find? fun k => k.name = name

end AckErrorKind

/-- Why a worker did not pass a stage. -/
structure AckError where
  kind : AckErrorKind
  message : String
  /-- What lies behind the error. -/
  cause : Option String := none
  deriving DecidableEq

namespace AckError

/-- An error with a chain of causes, outermost first. -/
def ofChain (kind : AckErrorKind) (message : String) (chain : List String) : AckError :=
  ⟨kind, message, if chain.isEmpty then none else some (": ".intercalate chain)⟩

/-- The wording of an error. -/
def text (e : AckError) : String :=
  s!"{e.kind.title}: {e.message}" ++
    match e.cause with
    | some cause => s!" (caused by: {cause})"
    | none => ""

end AckError

/-- What one stressor found when it passed over the entries of a container. -/
structure IterationResult where
  stats : RunStatistics
  /-- The least number of entries that a completed pass found. -/
  minElements : Option UInt64
  /-- The greatest number of entries that a completed pass found. -/
  maxElements : Option UInt64
  /-- Why passes failed, if some did. -/
  failure : Option String := none

/-- What a worker measured during a stage. -/
inductive Payload where
  | none
  /-- The statistics of the stressors of a stress test. -/
  | statistics (threads : List RunStatistics)
  /-- The results of the stressors of an iteration, and the size of the container. -/
  | iteration (results : List IterationResult) (totalSize : Option UInt64)

/-- The answer of a worker to a stage. -/
structure Acknowledgement where
  worker : WorkerIndex
  /-- How long the stage took. -/
  duration : Span
  error : Option AckError
  payload : Payload

namespace Acknowledgement

/-- The answer of a worker that passed a stage. -/
def success (worker : WorkerIndex) (duration : Span) (payload : Payload) : Acknowledgement :=
  ⟨worker, duration, none, payload⟩

/-- The answer of a worker that did not pass a stage and measured nothing. -/
def failure (worker : WorkerIndex) (duration : Span) (error : AckError) : Acknowledgement :=
  ⟨worker, duration, some error, .none⟩

/-- Whether the worker did not pass the stage. -/
def isError (a : Acknowledgement) : Bool := a.error.isSome

end Acknowledgement

end LoadFleet
