import LoadFleet.Ack.Wire
import LoadFleet.Process.Endpoint
import LoadFleet.Stage.Wire
import LoadFleet.Worker.Worker
/-!
# The service of a worker

A worker that serves others takes requests on two paths. On one it tells that it is up, on the other
it takes a stage and answers with the acknowledgement. `Service.receive` says how a request is
understood, and `Service.answer` lets the worker run the stage that came with it.
-/

namespace LoadFleet.Service

/-- A request to a worker. -/
structure Request where
  method : String
  path : String
  /-- What the body is said to be. -/
  contentType : Option String
  body : String

/-- Why a request is refused. -/
inductive Refusal where
  | unknownPath
  | wrongMethod
  /-- The body is not said to be JSON. -/
  | otherContent
  /-- The body is no JSON. -/
  | malformed
  /-- The body is JSON, but no stage. -/
  | noStage
  deriving DecidableEq

/-- The status code of a refusal. -/
def Refusal.status : Refusal → Nat
  | unknownPath => 404
  | wrongMethod => 405
  | otherContent => 415
  | malformed => 400
  | noStage => 422

/-- What a request asks for. -/
inductive Errand where
  /-- Whether the worker is up; the answer may be wanted without its text. -/
  | health (silent : Bool)
  | run (stage : Stage)
  deriving DecidableEq

/-- Whether a content type stands for JSON. Parameters behind a semicolon make no difference. -/
def isJson (contentType : String) : Bool :=
  let essence := (trimmed (String.ofList (contentType.toList.takeWhile (· ≠ ';')))).toLower
  essence = "application/json" ||
    (essence.startsWith "application/" && essence.endsWith "+json")

/-- Why a value is no stage. What nests too deep, or holds a text or a number that there is no way
to represent, does not count as JSON. -/
def refusalOf (j : Json) : Refusal := if Json.mayPutAside .json j then .noStage else .malformed

/-- The stage in the body of a request. -/
def stage? (r : Request) : Except Refusal Stage :=
  if !r.contentType.any isJson then .error .otherContent
  else
    match Json.read? r.body with
    | none => .error .malformed
    | some j =>
      match Stage.ofJson? .json j with
      | none => .error (refusalOf j)
      | some stage => .ok stage

/-- What a request asks for, or why it is refused. A path counts up to its query. -/
def receive (r : Request) : Except Refusal Errand :=
  let path := String.ofList (r.path.toList.takeWhile (· ≠ '?'))
  if path = s!"/{Endpoint.healthPath}" then
    if r.method = "GET" then .ok (.health false)
    else if r.method = "HEAD" then .ok (.health true)
    else .error .wrongMethod
  else if path = s!"/{Endpoint.stagesPath}" then
    if r.method = "POST" then (stage? r).map .run else .error .wrongMethod
  else .error .unknownPath

/-- The answer to a request. -/
inductive Answer where
  | text (text : String)
  | ack (ack : Acknowledgement)
  | refused (refusal : Refusal)

/-- The status code of an answer. -/
def Answer.status : Answer → Nat
  | refused r => r.status
  | _ => 200

/-- What serving a request comes to: the answer and when it is given, the worker and the store
afterwards. -/
structure Served where
  answered : Instant
  answer : Answer
  worker : Worker
  store : Simulated

/-- Serves a request. There is no answer when the stage never ends. -/
def answer (w : Worker) (env : Surroundings) (r : Request) (now : Instant) : Option Served :=
  match receive r with
  | .error refusal => some ⟨now, .refused refusal, w, env.store⟩
  | .ok (.health silent) => some ⟨now, .text (if silent then "" else "OK"), w, env.store⟩
  | .ok (.run stage) =>
    (w.execute env stage now).execution.map fun e => ⟨e.answered, .ack e.ack, e.worker, e.store⟩

end LoadFleet.Service
