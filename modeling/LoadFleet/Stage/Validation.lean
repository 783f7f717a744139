import LoadFleet.Stage.Settings
/-!
# Valid stages

`Stage.validate` finds the first setting that a stage cannot be run with. What it accepts has a
name, at least one worker in its list, positive time limits and intervals, at least one stressor,
at least one loop or request, ratios that a weighted draw can use and a member range that is not
empty.
-/

namespace LoadFleet

/-- Why a stage cannot be run as it is configured. -/
inductive StageError where
  | missing (stage parameter : String)
  | invalid (stage parameter reason : String)
  deriving DecidableEq

namespace StageError

/-- The setting that is wrong. -/
def parameter : StageError → String
  | missing _ parameter => parameter
  | invalid _ parameter _ => parameter

/-- The wording of an error. -/
def message : StageError → String
  | missing stage parameter => s!"stage `{stage}`: missing required parameter `{parameter}`"
  | invalid stage parameter reason =>
    s!"stage `{stage}`: invalid value for `{parameter}`: {reason}"

end StageError

/-- A wrong setting and what is wrong with it; a missing one needs no reason. -/
structure Flaw where
  parameter : String
  reason : Option String
  deriving DecidableEq

namespace Flaw

/-- A setting that has to be given. -/
def missing (parameter : String) : Flaw := ⟨parameter, none⟩

/-- A flaw of a stage as an error. -/
def inStage (stage : String) (f : Flaw) : StageError :=
  match f.reason with
  | some reason => .invalid stage f.parameter reason
  | none => .missing stage f.parameter

end Flaw

/-- Nothing is wrong if the condition holds. -/
def requireThat (condition : Bool) (parameter reason : String) : Except Flaw Unit :=
  if condition then .ok () else .error ⟨parameter, some reason⟩

/-- Nothing is wrong with a text that is not blank. -/
def requireText (text parameter : String) : Except Flaw Unit :=
  if isBlankText text then .error (.missing parameter) else .ok ()

/-- Nothing is wrong with a span in which time passes. -/
def requireSpan (span : Span) (parameter : String) : Except Flaw Unit :=
  requireThat (!span.isZero) parameter "must be greater than zero"

/-- There is at least one stressor. -/
def TestSettings.validate (t : TestSettings) : Except Flaw Unit :=
  requireThat (0 < t.threads) "test.threads" "must be at least 1"

/-- There is at least one loop, and a named container has a name. -/
def IterateSettings.validate (s : IterateSettings) : Except Flaw Unit := do
  s.test.validate
  requireThat (0 < s.numLoops) "num_loops" "must be at least 1"
  if let some container := s.container then requireText container "container"

/-- There is at least one request to make, a key to make it for and an operation to draw. -/
def StressSettings.validate (s : StressSettings) : Except Flaw Unit := do
  s.test.validate
  match s.duration with
  | some duration => requireSpan duration "duration"
  | none => requireThat (0 < s.numRequests) "num_requests" "must be at least 1"
  requireThat (0 < s.numEntries) "num_entries" "must be at least 1"
  requireThat (0 < s.ratioSum) "get_ratio" "at least one ratio must be positive"
  requireThat (s.ratioSum < 0x100000000) "get_ratio" "the sum of all ratios must fit into 32 bits"
  if let some limit := s.maxConsecutiveFailures then
    requireThat (0 < limit) "max_consecutive_failures" "must be at least 1"

/-- Some number of members is in range, and time passes between two looks. -/
def EventSettings.validate (s : EventSettings) : Except Flaw Unit := do
  requireThat (s.minMembers ≤ s.memberLimit) "min_members" "must not exceed max_members"
  requireSpan s.pollInterval "poll_interval"

/-- There is something to look at, the wait ends, and time passes between two looks. -/
def SettleSettings.validate (s : SettleSettings) : Except Flaw Unit := do
  requireThat (!s.histories.isEmpty || s.checkMembership) "histories" "nothing to check"
  requireSpan s.timeout "timeout"
  requireSpan s.pollInterval "poll_interval"

/-- There is something to look at. -/
def CheckSettings.validate (s : CheckSettings) : Except Flaw Unit :=
  requireThat (!s.histories.isEmpty) "histories" "must not be empty"

/-- The settings of a kind can be run. -/
def StageKind.validate : StageKind → Except Flaw Unit
  | iterate s => s.validate
  | stress s => s.validate
  | waitForEvent s => s.validate
  | waitForSettle s => s.validate
  | checkTopology s => s.validate

/-- The first flaw of a stage, in the order in which settings are looked at. -/
def Stage.check (s : Stage) : Except Flaw Unit := do
  requireText s.name "name"
  if let some workers := s.workers then
    requireThat (!workers.isEmpty) "workers" "must not be empty"
  if let some timeout := s.timeout then requireSpan timeout "timeout"
  s.kind.validate

/-- Refuses a stage that cannot be run. -/
def Stage.validate (s : Stage) : Except StageError Unit := s.check.mapError (Flaw.inStage s.name)

end LoadFleet
