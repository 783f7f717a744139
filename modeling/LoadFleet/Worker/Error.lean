import LoadFleet.Store.Operation
import LoadFleet.Topology.Wait
/-!
# Errors of a worker

What can go wrong in a stage that waits for the topology or checks it.
-/

namespace LoadFleet

/-- Why a topology stage failed. -/
inductive WorkerError where
  | store (context : String) (cause : StoreError)
  /-- A wait reached its time limit. -/
  | timeout (context : String) (waited : Span)
  | noTopology (store : String)
  | topologyCheck (cache : String) (history : HistoryKind) (changeExpected : Bool)
  deriving DecidableEq

namespace WorkerError

/-- Whether time ran out. -/
def isTimeout : WorkerError → Bool
  | timeout _ _ => true
  | _ => false

/-- The wording of an error, without its causes. -/
def message : WorkerError → String
  | store context _ => context
  | timeout context _ => context
  | noTopology name => s!"store `{name}` does not provide a topology history"
  | topologyCheck cache history changeExpected =>
    s!"{history.title} history of cache `{cache}` " ++
      if changeExpected then "did not change within the period" else "changed within the period"

/-- The wording of an error and of its causes. -/
def chain (e : WorkerError) : List String :=
  e.message ::
    match e with
    | store _ cause => cause.chain
    | timeout _ waited => [timeoutText waited]
    | _ => []

end WorkerError

end LoadFleet
