import LoadFleet.Stage.Wire
import LoadFleet.Wire.YamlReader
/-!
# Plans

A plan is a list of stages in a plan file. The name and the time limit of a stage are taken as they
are written, so that a name such as `5` needs no quotes.
-/

namespace LoadFleet

open Json (Place)

namespace Stage

/-- The number of a worker as a JSON value. It is written without a minus sign. -/
def workerOfYaml (y : Yaml) : Json :=
  match y.toJson with
  | .negative _ => .unreadable
  | j => j

/-- A field of a stage as a JSON value. -/
def fieldOfYaml (name : String) (y : Yaml) : Json :=
  match name, y with
  | "workers", .list items => .arr (items.map workerOfYaml)
  | "name", .plain text => .str text
  | "timeout", .plain text => if Yaml.isNull text then .null else .str text
  | _, y => y.toJson

/-- The fields of a stage that entries stand for. A key is taken as it is written. -/
def fieldsOfYaml : List (Yaml × Yaml) → List (Json × Json)
  | [] => []
  | (.plain name, y) :: r | (.quoted name, y) :: r =>
    (.str name, fieldOfYaml name y) :: fieldsOfYaml r
  | (key, y) :: r => (key.toJson, y.toJson) :: fieldsOfYaml r

/-- A stage as a JSON value. -/
def jsonOfYaml : Yaml → Json
  | .map entries => .ofEntries (fieldsOfYaml entries)
  | .list items =>
    .arr ((items.zip (fields ++ List.replicate items.length "")).map fun (y, name) =>
      fieldOfYaml name y)
  | y => y.toJson

/-- Reads a stage from a plan file in which it stands inside a number of collections. -/
def ofYaml? (levels : Nat) (y : Yaml) : Option Stage :=
  ofJson? ((Place.text Yaml.room).deeper levels) (jsonOfYaml y)

end Stage

namespace Plan

/-- Reads a plan; an empty file is a plan without stages. -/
def ofYaml? : Yaml → Option (List Stage)
  | .list items => items.mapM (Stage.ofYaml? 1)
  | .plain "" => some []
  | _ => none

/-- Reads a plan from its text. -/
def read? (text : String) : Option (List Stage) := (Yaml.read? text).bind ofYaml?

end Plan

/-- Reads a stage from a text. -/
def Stage.readYaml? (text : String) : Option Stage := (Yaml.read? text).bind (Stage.ofYaml? 0)

end LoadFleet
