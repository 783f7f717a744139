import LoadFleet.Wire.YamlToken
/-!
# Reading plan files

`Yaml.read?` reads a text as one value: its tokens are put together to collections, whose items,
keys and values may be left out and are empty scalars then.
-/

namespace LoadFleet.Yaml

/-- A value that is left out. -/
def omitted : Yaml := plain ""

/-- Whether a key or a value of a block map is left out in front of these tokens. -/
def omitsBlock : List Token → Bool
  | .key :: _ | .value :: _ | .blockEnd :: _ => true
  | _ => false

/-- Whether a value of a flow collection is left out in front of these tokens. -/
def omitsFlow : List Token → Bool
  | .comma :: _ | .closeList :: _ | .closeMap :: _ => true
  | _ => false

/-- What a value may be: anything, anything and also a list without a start of its own, or no block
collection. -/
inductive Setting where
  | block
  | blockMap
  | flow
  deriving DecidableEq

mutual

/-- Reads a value. Every call takes a step. -/
def node? : Nat → Setting → List Token → Option (Yaml × List Token)
  | 0, _, _ => none
  | steps + 1, setting, tokens =>
    match tokens with
    | .plain text :: r => some (plain text, r)
    | .quoted text :: r => some (quoted text, r)
    | .openList :: r => flowItems? steps true [] r
    | .openMap :: r => flowEntries? steps true [] r
    | .blockList :: r => if setting = .flow then none else blockItems? steps [] r
    | .blockMap :: r => if setting = .flow then none else blockEntries? steps [] r
    | .item :: r => if setting = .blockMap then bareItems? steps [] (.item :: r) else none
    | _ => none

/-- Reads the items of a block list up to its end, given those read so far in reverse. -/
def blockItems? : Nat → List Yaml → List Token → Option (Yaml × List Token)
  | 0, _, _ => none
  | steps + 1, items, tokens =>
    match tokens with
    | .item :: .item :: r => blockItems? steps (omitted :: items) (.item :: r)
    | .item :: .blockEnd :: r => blockItems? steps (omitted :: items) (.blockEnd :: r)
    | .item :: r => do
      let (y, r) ← node? steps .block r
      blockItems? steps (y :: items) r
    | .blockEnd :: r => some (list items.reverse, r)
    | _ => none

/-- Reads the items of a list that stands in the column of its key. -/
def bareItems? : Nat → List Yaml → List Token → Option (Yaml × List Token)
  | 0, _, _ => none
  | steps + 1, items, tokens =>
    match tokens with
    | .item :: .item :: r => bareItems? steps (omitted :: items) (.item :: r)
    | .item :: r =>
      if omitsBlock r then bareItems? steps (omitted :: items) r
      else do
        let (y, r) ← node? steps .block r
        bareItems? steps (y :: items) r
    | r => some (list items.reverse, r)

/-- Reads the entries of a block map up to its end. -/
def blockEntries? : Nat → List (Yaml × Yaml) → List Token → Option (Yaml × List Token)
  | 0, _, _ => none
  | steps + 1, entries, tokens =>
    match tokens with
    | .key :: r => do
      let (key, r) ← if omitsBlock r then some (omitted, r) else node? steps .blockMap r
      let (y, r) ← match r with
        | .value :: r => if omitsBlock r then some (omitted, r) else node? steps .blockMap r
        | r => some (omitted, r)
      blockEntries? steps ((key, y) :: entries) r
    | .blockEnd :: r => some (map entries.reverse, r)
    | _ => none

/-- Reads the value after a key in a flow collection, which may be left out with its colon. -/
def flowValue? : Nat → List Token → Option (Yaml × List Token)
  | 0, _ => none
  | steps + 1, tokens =>
    match tokens with
    | .value :: r => if omitsFlow r then some (omitted, r) else node? steps .flow r
    | r => some (omitted, r)

/-- Reads the items of a flow list up to its end. An item may be a map of a single entry. -/
def flowItems? : Nat → Bool → List Yaml → List Token → Option (Yaml × List Token)
  | 0, _, _, _ => none
  | steps + 1, first, items, tokens => do
    let tokens ← match first, tokens with
      | _, .closeList :: _ => some tokens
      | true, _ => some tokens
      | false, .comma :: r => some r
      | false, _ => none
    match tokens with
    | .closeList :: r => return (list items.reverse, r)
    | .key :: r =>
      let (key, r) ← match r with
        | .value :: r | .comma :: r | .closeList :: r => some (omitted, r)
        | r => node? steps .flow r
      let (y, r) ← flowValue? steps r
      flowItems? steps false (map [(key, y)] :: items) r
    | _ =>
      let (y, r) ← node? steps .flow tokens
      flowItems? steps false (y :: items) r

/-- Reads the entries of a flow map up to its end. A key without a value needs no mark. -/
def flowEntries? : Nat → Bool → List (Yaml × Yaml) → List Token → Option (Yaml × List Token)
  | 0, _, _, _ => none
  | steps + 1, first, entries, tokens => do
    let tokens ← match first, tokens with
      | _, .closeMap :: _ => some tokens
      | true, _ => some tokens
      | false, .comma :: r => some r
      | false, _ => none
    match tokens with
    | .closeMap :: r => return (map entries.reverse, r)
    | .key :: r =>
      let (key, r) ←
        if r.head? = some .value || omitsFlow r then some (omitted, r) else node? steps .flow r
      let (y, r) ← flowValue? steps r
      flowEntries? steps false ((key, y) :: entries) r
    | _ =>
      let (key, r) ← node? steps .flow tokens
      flowEntries? steps false ((key, omitted) :: entries) r

end

/-- Puts tokens together to a value; without tokens there is nothing but an empty scalar. -/
def ofTokens? (tokens : List Token) : Option Yaml := do
  let (y, rest) ← match tokens with
    | [] => some (omitted, [])
    | .documentStart :: r =>
      match r with
      | [] | .documentStart :: _ | .documentEnd :: _ => some (omitted, r)
      | r => node? (2 * r.length + 2) .block r
    | r => node? (2 * r.length + 2) .block r
  if (rest.dropWhile (· = .documentEnd)).isEmpty then some y else none

/-- Reads a whole text as one value. -/
def read? (text : String) : Option Yaml := (tokens? text).bind ofTokens?

end LoadFleet.Yaml
