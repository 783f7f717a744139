import LoadFleet.Coordinator.Fleet
import LoadFleet.Process.Config
/-!
# Workers elsewhere

A worker elsewhere is named by its base address. Nothing can be sent from here to another machine,
so every worker elsewhere counts as out of reach: its address cannot be used, or nobody listens
there.
-/

namespace LoadFleet.Endpoint

/-- Where a worker takes stages, below its base address. -/
def stagesPath : String := "v1/stages"

/-- Where a worker tells that it is up, below its base address. -/
def healthPath : String := "health"

/-- The protocol by which an address says that it is reached. -/
def scheme? (address : String) : Option String :=
  let name := address.toList.takeWhile (· ≠ ':')
  match name with
  | c :: r =>
    if name.length < address.length && c.isAlpha &&
        r.all fun d => d.isAlphanum || ['+', '-', '.'].contains d
    then some (String.ofList name)
    else none
  | [] => none

/-- Why a request to an address fails, outermost reason first: the address is not complete, it asks
for a protocol that is not spoken, or nobody listens there. -/
def causes (address : String) : List String :=
  match scheme? address with
  | none => ["builder error", "relative URL without a base"]
  | some scheme =>
    if ["http", "https"].any (sameLetters scheme) then
      [s!"error sending request for url ({address})", "client error (Connect)",
        "tcp connect error", "Connection refused (os error 111)"]
    else [s!"builder error for url ({address})", "URL scheme is not allowed"]

/-- A worker elsewhere as a worker of a fleet. -/
def member {W : Type} (index : WorkerIndex) (base : String) : Member W :=
  .unreachable index (causes s!"{withoutEndSlashes base}/{stagesPath}")

/-- The base address of the worker whose health is checked. -/
def probed (c : Config) (endpoint : Option String) : String :=
  match endpoint with
  | some base => withoutEndSlashes base
  | none => s!"http://{c.address.text}"

/-- The wording of a worker that is out of reach. -/
def unreachableText (base : String) : String := s!"worker at {base} is not reachable"

end LoadFleet.Endpoint
