import LoadFleet.Wire.YamlReader
/-!
# Layers of settings

Settings come in layers, each a tree of named values: a configuration file, and the environment on
top of it. A later layer overrides an earlier one value by value; only where both hold a tree are
they joined.

* `Layers.find?_put`: what is put into a tree is found there, and nothing else is touched.
-/

namespace LoadFleet.Layers

/-- The value under a name in a tree. -/
def find? (name : String) : List (String × Json) → Option Json
  | [] => none
  | (n, j) :: r => if n = name then some j else find? name r

/-- Puts a value into a tree, in the place of one that is there. -/
def put (name : String) (value : Json) : List (String × Json) → List (String × Json)
  | [] => [(name, value)]
  | (n, j) :: r => if n = name then (n, value) :: r else (n, j) :: put name value r

theorem find?_put (name other : String) (value : Json) (members : List (String × Json)) :
    find? other (put name value members) =
      if other = name then some value else find? other members := by
  induction members with
  | nil => grind [put, find?]
  | cons m r ih => grind [put, find?]

mutual

/-- Lays a value over another one. -/
def overlay (below : Json) : Json → Json
  | .obj members =>
    match below with
    | .obj known => .obj (overlayMembers known members)
    | _ => .obj (overlayMembers [] members)
  | j => j

/-- Lays the members of a tree over those of another one. -/
def overlayMembers (known : List (String × Json)) : List (String × Json) → List (String × Json)
  | [] => known
  | (name, j) :: r =>
    overlayMembers (put name (overlay ((find? name known).getD .null) j) known) r

end

/-- A value under a path of names. -/
def nest (value : Json) : List String → Json
  | [] => value
  | name :: r => .obj [(name, nest value r)]

/-! ### Files -/

mutual

/-- The settings that a value of a configuration file stands for. Keys are taken as they are
written, and of entries with the same key the last one counts. -/
def ofYaml? : Yaml → Option Json
  | .plain text => some (Yaml.resolve text)
  | .quoted text => some (.str text)
  | .list items => (ofItems? items).map .arr
  | .map entries => (ofEntries? [] entries).map .obj

/-- The settings that the items of a list stand for. -/
def ofItems? : List Yaml → Option (List Json)
  | [] => some []
  | y :: r => (ofYaml? y).bind fun j => (ofItems? r).map (j :: ·)

/-- Adds the settings that entries stand for. -/
def ofEntries? (known : List (String × Json)) : List (Yaml × Yaml) → Option (List (String × Json))
  | [] => some known
  | (key, y) :: r =>
    key.text?.bind fun name => (ofYaml? y).bind fun j => ofEntries? (put name j known) r

end

/-- The layer of a configuration file, which has to hold a tree unless it is empty. -/
def ofFile? (text : String) : Option Json :=
  match Yaml.read? text with
  | some (.map entries) =>
    if (Yaml.map entries).depth ≤ Yaml.room then ofYaml? (.map entries) else none
  | some (.plain "") => some (.obj [])
  | _ => none

end LoadFleet.Layers
