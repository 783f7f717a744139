import LoadFleet.Wire.Yaml
/-!
# Tokens of plan files

A plan file is cut into tokens: scalars, the marks of flow collections, the marks of items, keys and
values, and the starts and ends of block collections, which the indentation of lines decides.

A key is only known as such once its colon is read. `KeyStart` remembers where a key may have
started; the marks in front of it are put in later. A key stands on one line and takes at most
`KeyStart.reach` characters.

A scalar that goes on for several lines is folded: `Gap` holds what stands between two words of it,
and `Gap.text` says what that stands for.
-/

namespace LoadFleet.Yaml

/-! ### Characters -/

/-- Whether a character may stand in a plan file. -/
def isAllowed (c : Char) : Bool :=
  c = '\t' || c = '\n' || c = '\r' || (0x20 ≤ c.toNat && c.toNat ≤ 0x7E) || c.toNat = 0x85 ||
    (0xA0 ≤ c.toNat && c.toNat ≠ 0xFFFE && c.toNat ≠ 0xFFFF)

/-- The text with one way to end a line in the place of four. -/
def unifyLines : List Char → List Char
  | '\r' :: '\n' :: r => '\n' :: unifyLines r
  | c :: r => (if c = '\r' || c.toNat = 0x85 then '\n' else c) :: unifyLines r
  | [] => []

/-- Whether a character ends a line. Beside the common line end there are a line separator and a
paragraph separator. -/
def endsLine (c : Char) : Bool := c = '\n' || c.toNat = 0x2028 || c.toNat = 0x2029

/-- Whether a character separates words on a line. -/
def isBlankMark (c : Char) : Bool := c = ' ' || c = '\t'

/-- Whether a character separates words. -/
def isGap (c : Char) : Bool := isBlankMark c || endsLine c

/-- Whether a text is at its end or goes on with a gap. -/
def atGap : List Char → Bool
  | [] => true
  | c :: _ => isGap c

/-- Whether a character has a meaning of its own inside flow collections. -/
def isFlowMark (c : Char) : Bool := [',', '[', ']', '\x7b', '\x7d'].contains c

/-- Whether a character cannot start a plain scalar. -/
def isMark (c : Char) : Bool :=
  isFlowMark c ||
    ['#', '&', '*', '!', '|', '>', '\'', '"', '%', '@', Char.ofNat 0x60].contains c

/-- Whether a plain scalar can start here. -/
def startsPlain (flow : Bool) : List Char → Bool
  | [] => false
  | c :: r =>
    if c = '-' then !atGap r
    else if c = '?' || c = ':' then !flow && !atGap r
    else !isMark c && !isGap c

/-- Whether the mark between documents stands here, which takes a line of its own. -/
def isDocumentMark : List Char → Bool
  | '-' :: '-' :: '-' :: r | '.' :: '.' :: '.' :: r => atGap r
  | _ => false

/-! ### Places -/

/-- A position in a text. -/
structure Position where
  index : Nat
  line : Nat
  column : Nat

/-- The position after a character. -/
def Position.past (p : Position) (c : Char) : Position :=
  if endsLine c then ⟨p.index + 1, p.line + 1, 0⟩ else ⟨p.index + 1, p.line, p.column + 1⟩

/-- A position and the text that follows it. -/
structure Spot where
  position : Position
  rest : List Char

/-- The spot some characters further on. -/
def Spot.skip : Nat → Spot → Spot
  | n + 1, ⟨p, c :: r⟩ => skip n ⟨p.past c, r⟩
  | _, s => s

/-! ### Scalars -/

/-- What stands between two words of a scalar. -/
structure Gap where
  /-- The blanks of a gap on one line. -/
  blanks : List Char := []
  /-- The line ends. -/
  breaks : List Char := []
  /-- Whether an escaped line end stands in front, which joins the words. -/
  joined : Bool := false

namespace Gap

/-- Whether a gap reaches a further line. -/
def hasLines (g : Gap) : Bool := g.joined || !g.breaks.isEmpty

/-- Whether there is nothing in a gap. -/
def isEmpty (g : Gap) : Bool := g.blanks.isEmpty && !g.hasLines

/-- Adds a blank or a line end. Blanks around line ends do not count. -/
def add (g : Gap) (c : Char) : Gap :=
  if endsLine c then { g with blanks := [], breaks := g.breaks ++ [c] }
  else if g.hasLines then g
  else { g with blanks := g.blanks ++ [c] }

/-- What a gap stands for: a single common line end for a blank, and the first of several for
nothing. -/
def text (g : Gap) : List Char :=
  if g.joined then g.breaks
  else
    match g.breaks with
    | [] => g.blanks
    | ['\n'] => [' ']
    | '\n' :: more => more
    | breaks => breaks

end Gap

/-- Reads on in a plain scalar, given its text so far in reverse and the gap after it. Further lines
are indented deeper than `indent`. -/
def plainScalar? (flow : Bool) (indent : Int) :
    List Char → Gap → Position → List Char → Option (List Char × Gap × Spot)
  | text, gap, p, [] => some (text, gap, ⟨p, []⟩)
  | text, gap, p, c :: r =>
    if isGap c then
      if c = '\t' && gap.hasLines && (p.column : Int) ≤ indent then none
      else plainScalar? flow indent text (gap.add c) (p.past c) r
    else if !gap.isEmpty && (c = '#' || (!flow && (p.column : Int) ≤ indent) ||
        (p.column = 0 && isDocumentMark (c :: r))) then
      some (text, gap, ⟨p, c :: r⟩)
    else if flow && c = ':' && r.head?.any fun d => d = '?' || isFlowMark d then none
    else if (c = ':' && atGap r) || (flow && isFlowMark c) then some (text, gap, ⟨p, c :: r⟩)
    else plainScalar? flow indent (c :: gap.text.reverse ++ text) {} (p.past c) r

/-- The character of an escape of one letter in a quoted scalar. -/
def escape? (c : Char) : Option Char :=
  match c with
  | '0' => some (Char.ofNat 0)
  | 'a' => some (Char.ofNat 7)
  | 'b' => some (Char.ofNat 8)
  | 't' | '\t' => some '\t'
  | 'n' => some '\n'
  | 'v' => some (Char.ofNat 11)
  | 'f' => some (Char.ofNat 12)
  | 'r' => some '\r'
  | 'e' => some (Char.ofNat 27)
  | ' ' | '"' | '/' | '\\' => some c
  | 'N' => some (Char.ofNat 0x85)
  | '_' => some (Char.ofNat 0xA0)
  | 'L' => some (Char.ofNat 0x2028)
  | 'P' => some (Char.ofNat 0x2029)
  | _ => none

/-- The number of digits of an escape by number. -/
def escapeDigits? (c : Char) : Option Nat :=
  match c with
  | 'x' => some 2
  | 'u' => some 4
  | 'U' => some 8
  | _ => none

/-- Reads an escape after its backslash: the character, and the number of characters it takes. -/
def escaped? : List Char → Option (Char × Nat)
  | [] => none
  | c :: r =>
    match escape? c, escapeDigits? c with
    | some e, _ => some (e, 1)
    | none, some count =>
      (natIn? 16 (r.take count)).bind fun n =>
        if (r.take count).length = count && n.isValidChar then some (Char.ofNat n, count + 1)
        else none
    | none, none => none

/-- Reads on in a quoted scalar, given its text so far in reverse and the gap after it. Every
character takes a step. -/
def quotedScalar? (quote : Char) : Nat → List Char → Gap → Spot → Option (List Char × Spot)
  | 0, _, _, _ => none
  | steps + 1, text, gap, spot =>
    match spot.rest with
    | [] => none
    | c :: r =>
      if spot.position.column = 0 && isDocumentMark (c :: r) then none
      else if isGap c then quotedScalar? quote steps text (gap.add c) (spot.skip 1)
      else
        let text := gap.text.reverse ++ text
        if c = quote then
          if quote = '\'' && r.head? = some '\'' then
            quotedScalar? quote steps ('\'' :: text) {} (spot.skip 2)
          else some (text, spot.skip 1)
        else if quote = '"' && c = '\\' then
          if r.head?.any endsLine then
            quotedScalar? quote steps text { joined := true } (spot.skip 2)
          else
            (escaped? r).bind fun (e, count) =>
              quotedScalar? quote steps (e :: text) {} (spot.skip (count + 1))
        else quotedScalar? quote steps (c :: text) {} (spot.skip 1)

/-! ### Tokens -/

/-- A part of a plan file. -/
inductive Token where
  | plain (text : String)
  | quoted (text : String)
  /-- The mark of an item of a block list. -/
  | item
  /-- The place in front of a key, where no mark has to be written. -/
  | key
  /-- The colon in front of a value. -/
  | value
  | comma
  | openList
  | closeList
  | openMap
  | closeMap
  | blockList
  | blockMap
  | blockEnd
  | documentStart
  | documentEnd
  deriving DecidableEq

/-- Where a key may have started. -/
structure KeyStart where
  position : Position
  /-- The number of tokens in front of it. -/
  tokens : Nat
  /-- Whether nothing but a key can stand there. -/
  required : Bool

/-- The number of characters from the start of a key to its colon is at most this one. -/
def KeyStart.reach : Nat := 1024

/-- How far a text has been cut into tokens. -/
structure Cutting where
  spot : Spot
  tokens : Array Token := #[]
  /-- The column of the innermost block collection; there is none at first. -/
  indent : Int := -1
  /-- The columns of the block collections around it. -/
  outer : List Int := []
  /-- Where a key may have started, for each of the flow collections around the spot. -/
  starts : List (Option KeyStart) := [none]
  /-- Whether a key may start here. -/
  mayStartKey : Bool := true

namespace Cutting

/-- Whether the spot is inside a flow collection. -/
def flow (s : Cutting) : Bool := !s.starts.tail.isEmpty

/-- The column of the spot. -/
def column (s : Cutting) : Nat := s.spot.position.column

/-- Adds a token that takes some characters. -/
def push (s : Cutting) (t : Token) (length : Nat) : Cutting :=
  { s with tokens := s.tokens.push t, spot := s.spot.skip length }

/-- Skips blanks, line ends and comments. Outside of flow collections, a tab is no blank where a key
may start. -/
def skipGap (flow : Bool) : Bool → Bool → Position → List Char → Bool × Spot
  | mayStartKey, _, p, [] => (mayStartKey, ⟨p, []⟩)
  | mayStartKey, inComment, p, c :: r =>
    if endsLine c then skipGap flow (mayStartKey || !flow) false (p.past c) r
    else if inComment || c = '#' then skipGap flow mayStartKey true (p.past c) r
    else if c = ' ' || (c = '\t' && (flow || !mayStartKey)) then
      skipGap flow mayStartKey false (p.past c) r
    else (mayStartKey, ⟨p, c :: r⟩)

/-- Goes on to the next token. -/
def advance (s : Cutting) : Cutting :=
  let (mayStartKey, spot) := skipGap s.flow s.mayStartKey false s.spot.position s.spot.rest
  { s with mayStartKey, spot }

/-- Sets the start of the innermost collection. -/
def setStart (s : Cutting) (start : Option KeyStart) : Cutting :=
  { s with starts := start :: s.starts.tail }

/-- Forgets the start of the innermost collection, unless only a key can stand there. -/
def forget? (s : Cutting) : Option Cutting :=
  match s.starts.head?.join with
  | some k => if k.required then none else some (s.setStart none)
  | none => some s

/-- Forgets the start of the innermost collection if it is too far away. The starts around it wait
until their collection is the innermost one again. -/
def forgetFar? (s : Cutting) : Option Cutting :=
  match s.starts.head?.join with
  | some k =>
    let p := s.spot.position
    if k.position.line < p.line || k.position.index + KeyStart.reach < p.index then s.forget?
    else some s
  | none => some s

/-- Remembers that a key may start at the spot. -/
def remember? (s : Cutting) : Option Cutting :=
  if s.mayStartKey then
    s.forget?.map fun s =>
      s.setStart (some ⟨s.spot.position, s.tokens.size, !s.flow && s.indent = s.column⟩)
  else some s

/-- Ends the block collections in columns after `column`, given the columns of all but the innermost
of them. -/
def endBlocks (column indent : Int) (tokens : Array Token) : List Int → Int × Array Token × List Int
  | [] => (indent, tokens, [])
  | out :: outer =>
    if column < indent then endBlocks column out (tokens.push .blockEnd) outer
    else (indent, tokens, out :: outer)

/-- Ends the block collections that stand in columns after `column`. -/
def unroll (s : Cutting) (column : Int) : Cutting :=
  if s.flow then s
  else
    let (indent, tokens, outer) := endBlocks column s.indent s.tokens s.outer
    { s with indent, tokens, outer }

/-- Starts a block collection in a column, unless it has started there already. The token takes its
place behind the first `place` ones. -/
def roll (s : Cutting) (column place : Nat) (t : Token) : Cutting :=
  if s.flow || (column : Int) ≤ s.indent then s
  else
    { s with
      indent := column
      outer := s.indent :: s.outer
      tokens := s.tokens.insertIdxIfInBounds place t }

/-- The end of the text. -/
def finish? (s : Cutting) : Option Cutting := (s.unroll (-1)).forget?

/-- A mark between documents. -/
def document? (s : Cutting) (t : Token) : Option Cutting :=
  (s.unroll (-1)).forget?.map fun s => { s.push t 3 with mayStartKey := false }

/-- The opening mark of a flow collection, with which a key may start. -/
def opening? (s : Cutting) (t : Token) : Option Cutting :=
  s.remember?.map fun s =>
    { s.push t 1 with starts := none :: s.starts, mayStartKey := true }

/-- The closing mark of a flow collection. -/
def closing? (s : Cutting) (t : Token) : Option Cutting :=
  s.forget?.map fun s =>
    { s.push t 1 with
      starts := if s.flow then s.starts.tail else s.starts
      mayStartKey := false }

/-- The comma of a flow collection. -/
def comma? (s : Cutting) : Option Cutting :=
  s.forget?.map fun s => { s.push .comma 1 with mayStartKey := true }

/-- The mark of an item. -/
def item? (s : Cutting) : Option Cutting :=
  if !s.flow && !s.mayStartKey then none
  else
    (s.roll s.column s.tokens.size .blockList).forget?.map fun s =>
      { s.push .item 1 with mayStartKey := true }

/-- The mark of a key. -/
def key? (s : Cutting) : Option Cutting :=
  if !s.flow && !s.mayStartKey then none
  else
    (s.roll s.column s.tokens.size .blockMap).forget?.map fun s =>
      { s.push .key 1 with mayStartKey := !s.flow }

/-- The colon in front of a value. If a key has started on the line, its marks are put in. -/
def value? (s : Cutting) : Option Cutting :=
  match s.starts.head?.join with
  | some k =>
    let s := { s with tokens := s.tokens.insertIdxIfInBounds k.tokens .key }
    let s := (s.roll k.position.column k.tokens .blockMap).setStart none
    some { s.push .value 1 with mayStartKey := false }
  | none =>
    if !s.flow && !s.mayStartKey then none
    else
      let s := s.roll s.column s.tokens.size .blockMap
      some { s.push .value 1 with mayStartKey := !s.flow }

/-- A quoted scalar, with which a key may start. -/
def quoted? (s : Cutting) (quote : Char) : Option Cutting := do
  let s ← s.remember?
  let (text, spot) ← quotedScalar? quote s.spot.rest.length [] {} (s.spot.skip 1)
  return { s with
    spot, mayStartKey := false, tokens := s.tokens.push (.quoted (String.ofList text.reverse)) }

/-- A plain scalar, with which a key may start. After a scalar that reaches a further line a key may
start again. -/
def plain? (s : Cutting) : Option Cutting := do
  let s ← s.remember?
  let (text, gap, spot) ← plainScalar? s.flow s.indent [] {} s.spot.position s.spot.rest
  return { s with
    spot
    mayStartKey := gap.hasLines
    tokens := s.tokens.push (.plain (String.ofList text.reverse)) }

/-- Cuts off the token at the spot. -/
def next? (s : Cutting) : Option Cutting :=
  match s.spot.rest with
  | [] => none
  | c :: r =>
    if s.column = 0 && isDocumentMark (c :: r) then
      s.document? (if c = '-' then .documentStart else .documentEnd)
    else if c = '[' then s.opening? .openList
    else if c = '\x7b' then s.opening? .openMap
    else if c = ']' then s.closing? .closeList
    else if c = '\x7d' then s.closing? .closeMap
    else if c = ',' then s.comma?
    else if c = '-' && atGap r then s.item?
    else if c = '?' && (s.flow || atGap r) then s.key?
    else if c = ':' && (s.flow || atGap r) then s.value?
    else if c = '\'' || c = '"' then s.quoted? c
    else if startsPlain s.flow (c :: r) then s.plain?
    else none

/-- Cuts a text up to its end. Every token takes a step. -/
def all? : Nat → Cutting → Option (List Token)
  | 0, _ => none
  | steps + 1, s => do
    let s ← s.advance.forgetFar?
    if s.spot.rest.isEmpty then return (← s.finish?).tokens.toList
    else all? steps (← (s.unroll s.column).next?)

end Cutting

/-- The mark that may stand in front of a text to tell its encoding. It takes a column. -/
def encodingMark : Char := Char.ofNat 0xFEFF

/-- The start of a text. -/
def Spot.start (text : List Char) : Spot :=
  if text.head? = some encodingMark then ⟨⟨1, 0, 1⟩, text.tail⟩ else ⟨⟨0, 0, 0⟩, text⟩

/-- The tokens of a text. -/
def tokens? (text : String) : Option (List Token) :=
  if text.toList.all isAllowed then
    let spot := Spot.start (unifyLines text.toList)
    Cutting.all? (text.length + 1) { spot }
  else none

end LoadFleet.Yaml
