import LoadFleet.Collection.OrderedMap
import LoadFleet.Stats.Accumulator
import LoadFleet.Stats.Rate
/-!
# Statistics of an execution unit

`Statistics` holds the accumulators of the operations of one unit, by name, and the wall clock
interval that it measured. Merging takes the union of the operations and the hull of the
intervals.
-/

namespace LoadFleet

/-- The accumulators of one or more execution units and the interval that they measured. -/
structure Statistics (R : Type) where
  /-- The kind of the accumulators that recording creates. -/
  kind : StatsKind
  begun : Option WallTime
  ended : Option WallTime
  operations : OrderedMap String (Accumulator R)

/-- The statistics of a run, with floating point moments. -/
abbrev RunStatistics := Statistics Float

/-- The earlier of two points, if any is known. -/
def earliest : Option WallTime → Option WallTime → Option WallTime
  | some a, some b => some (if b.nanos < a.nanos then b else a)
  | some a, none => some a
  | none, b => b

/-- The later of two points, if any is known. -/
def latest : Option WallTime → Option WallTime → Option WallTime
  | some a, some b => some (if a.nanos ≤ b.nanos then b else a)
  | some a, none => some a
  | none, b => b

namespace Statistics

variable {R : Type} [Scalar R]

/-- Statistics that hold nothing yet. -/
def empty (kind : StatsKind) : Statistics R := ⟨kind, none, none, .empty⟩

/-- The accumulator that requests of an operation are recorded in. -/
def target (s : Statistics R) (operation : String) : Accumulator R :=
  (s.operations.find? operation).getD (.empty s.kind)

/-- What recording one request of an operation comes to while the counters have room for it. -/
def record (s : Statistics R) (operation : String) (latency : Span) (success : Bool) :
    Statistics R :=
  { s with
    operations := s.operations.insert operation ((s.target operation).record latency success) }

/-- Records one request of an operation, if the counters have room for it. -/
def record? (s : Statistics R) (operation : String) (latency : Span) (success : Bool) :
    Except StatsError (Statistics R) :=
  ((s.target operation).record? latency success).map fun a =>
    { s with operations := s.operations.insert operation a }

/-- Sets the measured interval. -/
def setInterval (s : Statistics R) (begun ended : WallTime) : Statistics R :=
  { s with begun := some begun, ended := some ended }

/-- The length of the measured interval, zero when it ends before it begins. -/
def span? (s : Statistics R) : Option Span := do return (← s.begun).spanTo (← s.ended)

/-- The accumulator of an operation. -/
def operation? (s : Statistics R) (name : String) : Option (Accumulator R) :=
  s.operations.find? name

/-- Whether nothing was recorded. -/
def isEmpty (s : Statistics R) : Bool := s.operations.values.all Accumulator.isEmpty

/-! ### Merging -/

/-- Refuses statistics whose kind, or the kind of an operation of both, is another one. -/
def checkKinds (s t : Statistics R) : Except StatsError Unit := do
  if s.kind ≠ t.kind then throw (.incompatibleKinds s.kind t.kind)
  for (name, theirs) in t.operations.entries do
    if let some ours := s.operation? name then
      if ours.kind ≠ theirs.kind then throw (.incompatibleKinds ours.kind theirs.kind)

/-- Merges one operation into a map of operations. -/
def mergeOperation (operations : OrderedMap String (Accumulator R)) (name : String)
    (theirs : Accumulator R) : Except StatsError (OrderedMap String (Accumulator R)) :=
  match operations.find? name with
  | some ours => (ours.merge? theirs).map fun merged => operations.insert name merged
  | none => .ok (operations.insert name theirs)

/-- Merges operations in name order up to the first that fails. The result holds what was merged
until then. -/
def mergeOperations (operations : OrderedMap String (Accumulator R)) :
    List (String × Accumulator R) → OrderedMap String (Accumulator R) × Except StatsError Unit
  | [] => (operations, .ok ())
  | (name, theirs) :: r =>
    match mergeOperation operations name theirs with
    | .ok merged => mergeOperations merged r
    | .error e => (operations, .error e)

/-- What becomes of `s` when `t` is merged into it, and whether that succeeded. -/
def absorb (s t : Statistics R) : Statistics R × Except StatsError Unit :=
  match s.checkKinds t with
  | .error e => (s, .error e)
  | .ok () =>
    match mergeOperations s.operations t.operations.entries with
    | (operations, .error e) => ({ s with operations }, .error e)
    | (operations, .ok ()) =>
      ({ s with
          operations
          begun := earliest s.begun t.begun
          ended := latest s.ended t.ended }, .ok ())

/-- The union of two statistics. -/
def merge? (s t : Statistics R) : Except StatsError (Statistics R) :=
  (s.absorb t).2.map fun _ => (s.absorb t).1

/-- The union of a list of statistics, absent for the empty list. -/
def mergeAll : List (Statistics R) → Except StatsError (Option (Statistics R))
  | [] => .ok none
  | s :: r => (r.foldlM merge? s).map some

/-! ### Rates -/

/-- The requests per second of one operation. -/
def throughput? (s : Statistics R) (operation : String) (units : UInt64) :
    Option (Throughput R) := do
  let a ← s.operation? operation
  Throughput.compute? a.requests a.mean units (← s.span?)

/-- Adds the requests of an accumulator, and its mean latency as often as there are requests, to the
totals. -/
def addTotals? (t : UInt64 × R) (a : Accumulator R) : Except StatsError (UInt64 × R) :=
  if t.1.toNat + a.requests.toNat ≤ wordMax then
    .ok (t.1 + a.requests, t.2 + a.mean * Scalar.ofNat a.requests.toNat)
  else .error .overflow

/-- The number of requests of all operations, and the sum of their latencies as far as the means
tell it. -/
def totals? (s : Statistics R) : Except StatsError (UInt64 × R) :=
  s.operations.values.foldlM addTotals? (0, Scalar.ofNat 0)

/-- The requests per second of a number of requests with a sum of latencies. -/
def rateOf? (s : Statistics R) (units requests : UInt64) (weighted : R) : Option (Throughput R) :=
  if requests = 0 then none
  else do Throughput.compute? requests (weighted / Scalar.ofNat requests.toNat) units (← s.span?)

/-- The requests per second of all operations; their mean latency is weighted by requests. -/
def totalThroughput? (s : Statistics R) (units : UInt64) :
    Except StatsError (Option (Throughput R)) :=
  s.totals?.map fun (requests, weighted) => s.rateOf? units requests weighted

/-- The payload bytes per second of one operation. -/
def dataThroughput? (s : Statistics R) (operation : String) (bytes : UInt64) :
    Option R := do
  let a ← s.operation? operation
  bytesPerSecond? a.requests bytes (← s.span?)

end Statistics

end LoadFleet
