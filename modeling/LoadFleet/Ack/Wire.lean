import LoadFleet.Ack.Acknowledgement
import LoadFleet.Stage.Wire
/-!
# Acknowledgements in JSON

An acknowledgement is a record; its payload is a choice with the tag `type`. Absent errors, causes,
failures and sizes are left out.
-/

namespace LoadFleet

open Json (Place)

namespace AckError

/-- Writes an error. -/
def toJson (e : AckError) : Json :=
  .obj ([("kind", .str e.kind.name), ("message", .str e.message)] ++
    Json.member? "cause" .str e.cause)

/-- Reads an error. -/
def ofJson? (place : Place) (j : Json) : Option AckError := do
  let [kind, message, cause] ← j.record? ["kind", "message", "cause"] | none
  return {
    kind := ← kind.required (Json.name? AckErrorKind.all AckErrorKind.ofName? place)
    message := ← message.required Json.str?
    cause := ← cause.orElse none (Json.nullable? Json.str?) }

end AckError

namespace IterationResult

/-- Writes the result of a stressor. -/
def toJson (r : IterationResult) : Json :=
  .obj ([("stats", r.stats.toJson), ("min_elements", .option .nat r.minElements),
    ("max_elements", .option .nat r.maxElements)] ++ Json.member? "failure" .str r.failure)

/-- Reads the result of a stressor. -/
def ofJson? (place : Place) (j : Json) : Option IterationResult := do
  let [stats, minElements, maxElements, failure] ←
    j.record? ["stats", "min_elements", "max_elements", "failure"] | none
  return {
    stats := ← stats.required (Statistics.ofJson? (place.deeper 1))
    minElements := ← minElements.optional Json.word?
    maxElements := ← maxElements.optional Json.word?
    failure := ← failure.orElse none (Json.nullable? Json.str?) }

end IterationResult

namespace Payload

/-- The names of the payloads, in their order. -/
def names : List String := ["none", "statistics", "iteration"]

/-- Writes a payload. -/
def toJson : Payload → Json
  | none => .obj [("type", .str "none")]
  | statistics threads =>
    .obj [("type", .str "statistics"), ("threads", .arr (threads.map Statistics.toJson))]
  | iteration results totalSize =>
    .obj ([("type", .str "iteration"), ("results", .arr (results.map IterationResult.toJson))] ++
      Json.member? "total_size" .nat totalSize)

/-- Reads the contents of the payload with a name. Nothing is expected of an empty payload, but
that it has no items. -/
def contents? (name : String) (j : Json) : Option Payload :=
  match name with
  | "none" =>
    match j with
    | .arr (_ :: _) => Option.none
    | _ => some none
  | "statistics" => do
    let [threads] ← j.record? ["threads"] | failure
    return statistics (← threads.required (Json.list? (Statistics.ofJson? .aside)))
  | "iteration" => do
    let [results, totalSize] ← j.record? ["results", "total_size"] | failure
    return iteration (← results.required (Json.list? (IterationResult.ofJson? .aside)))
      (← totalSize.orElse Option.none (Json.nullable? Json.word?))
  | _ => Option.none

/-- Reads a payload. -/
def ofJson? (place : Place) (j : Json) : Option Payload := do
  let (name, rest) ← j.choice? "type" names place
  contents? name rest

end Payload

namespace Acknowledgement

/-- Writes an acknowledgement. -/
def toJson (a : Acknowledgement) : Json :=
  .obj ([("worker", .nat a.worker), ("duration", a.duration.toJson)] ++
    Json.member? "error" AckError.toJson a.error ++ [("payload", a.payload.toJson)])

/-- Reads an acknowledgement. -/
def ofJson? (place : Place) (j : Json) : Option Acknowledgement := do
  let [worker, duration, error, payload] ←
    j.record? ["worker", "duration", "error", "payload"] | none
  return {
    worker := ← worker.required Json.word?
    duration := ← duration.required Json.span?
    error := ← error.orElse none (Json.nullable? (AckError.ofJson? place))
    payload := ← payload.orElse .none (Payload.ofJson? (place.deeper 1)) }

/-- Reads an acknowledgement that stands by itself. -/
def read? (text : String) : Option Acknowledgement := (Json.read? text).bind (ofJson? .json)

end Acknowledgement

end LoadFleet
