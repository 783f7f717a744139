import LoadFleet.Coordinator.Fleet
import LoadFleet.Report.Summary
/-!
# Runs of plans

A plan is refused as a whole if one of its stages is not valid. Otherwise its stages are run in
order, up to the first that does not pass; the stages after it are skipped.

A stage is checked again when its turn comes. What the run left in the world is told in any case,
so that it can be seen what a refused plan does: nothing.
-/

namespace LoadFleet

namespace Coordinator

variable {W : Type}

/-- Runs a stage, unless it is not valid: sends it to the fleet, and turns the acknowledgements
into a verdict and a new report. -/
def runStage? (c : Coordinator) (fleet : List (Member W)) (stage : Stage) (report : Report)
    (now : Instant) (world : W) : Option (Ended W (StageOutcome × Report)) :=
  (c.dispatch? fleet stage now world).map fun e =>
    ⟨e.result.map fun acks => aggregate stage acks report, e.time, e.world⟩

/-- Adds the outcomes of stages that are not run. -/
def skip (stages : List Stage) (s : RunSummary) : RunSummary :=
  { s with outcomes := s.outcomes ++ stages.map fun stage => .skipped stage.name }

/-- Runs stages up to the first that does not pass, or is not valid. -/
def runStages? (c : Coordinator) (fleet : List (Member W)) :
    List Stage → RunSummary → Instant → W → Option (Ended W RunSummary)
  | [], summary, now, world => some ⟨.ok summary, now, world⟩
  | stage :: r, summary, now, world => do
    let e ← c.runStage? fleet stage summary.report now world
    match e.result with
    | .error error => return ⟨.error error, e.time, e.world⟩
    | .ok (outcome, report) =>
      let summary := { summary with report }.addOutcome outcome
      if outcome.passed then runStages? c fleet r summary e.time e.world
      else return ⟨.ok (skip r summary), e.time, e.world⟩

/-- The first flaw of the stages of a plan. -/
def validatePlan : List Stage → Except StageError Unit
  | [] => .ok ()
  | stage :: r => do
    stage.validate
    validatePlan r

/-- Runs a plan, unless it is refused. There is no result if the run never ends. -/
def runPlan? (c : Coordinator) (fleet : List (Member W)) (stages : List Stage) (now : Instant)
    (world : W) : Option (Ended W RunSummary) :=
  match validatePlan stages with
  | .error flaw => some ⟨.error (.config flaw), now, world⟩
  | .ok () => c.runStages? fleet stages .empty now world

end Coordinator

end LoadFleet
