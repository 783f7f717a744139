import LoadFleet.Stage.Validation
import LoadFleet.Stats.Kind
/-!
# Errors of the coordinator

What can go wrong between a plan and its report, apart from what the workers acknowledge.
-/

namespace LoadFleet

/-- Why the coordinator could not go on. -/
inductive CoordinatorError where
  /-- The stage cannot be run as it is configured. -/
  | config (flaw : StageError)
  /-- A worker did not answer, or its answer cannot be read. -/
  | transport (worker : WorkerIndex) (causes : List String)
  /-- Statistics do not go together. -/
  | stats (error : StatsError)
  /-- The report has the test already, and the stage does not amend it. -/
  | duplicateTest (test : String)
  /-- The iteration has the result already. -/
  | duplicateResult (test result : String)
  deriving DecidableEq

namespace CoordinatorError

/-- The wording of an error, without its causes. -/
def message : CoordinatorError → String
  | config _ => "invalid stage configuration"
  | transport worker _ => s!"failed to reach worker {worker}"
  | stats _ => "failed to merge statistics"
  | duplicateTest test => s!"test `{test}` already exists in the report"
  | duplicateResult test result => s!"result `{result}` already recorded for test `{test}`"

/-- The causes of an error, outermost first. -/
def causes : CoordinatorError → List String
  | config flaw => [flaw.message]
  | transport _ causes => causes
  | stats error => [error.message]
  | _ => []

/-- The wording of an error and of its causes. -/
def chain (e : CoordinatorError) : List String := e.message :: e.causes

end CoordinatorError

end LoadFleet
