import LoadFleet.Wire.JsonReader
/-!
# Patterns

A pattern describes texts: characters stand for themselves, `.` for any character, `*`, `+` and `?`
repeat what is in front of them, `|` separates alternatives, parentheses group, and brackets hold
classes of characters. Here it is only decided whether a text is a pattern. Braces, which would
count repetitions, cannot be closed where patterns are used, and neither references to groups nor
the bounds of words are known.
-/

namespace LoadFleet.Pattern

/-- What an escape stands for: a character, or a class or a place. -/
inductive Escape where
  | char (c : Char)
  | other

/-- The character of an escape by number, and what follows it. -/
def byNumber? (digits : Nat) (text : List Char) : Option (Escape × List Char) :=
  let number? := (text.take digits).foldlM (fun n c => (Json.hexDigit? c).map (n * 16 + ·)) 0
  number?.bind fun n =>
    if (text.take digits).length = digits && n.isValidChar then
      some (.char (Char.ofNat n), text.drop digits)
    else none

/-- Reads an escape after its backslash. -/
def escape? : List Char → Option (Escape × List Char)
  | [] => none
  | 'x' :: r => byNumber? 2 r
  | 'u' :: r => byNumber? 4 r
  | 'U' :: r => byNumber? 8 r
  | 'p' :: c :: r | 'P' :: c :: r =>
    if "LMNPSZC".contains c.toUpper then some (.other, r) else none
  | c :: r =>
    if "dDsSwWAz".contains c then some (.other, r)
    else if c = 'n' then some (.char '\n', r)
    else if c = 't' then some (.char '\t', r)
    else if c = 'r' then some (.char '\r', r)
    else if c = 'a' then some (.char (Char.ofNat 7), r)
    else if c = 'v' then some (.char (Char.ofNat 11), r)
    else if c = 'f' then some (.char (Char.ofNat 12), r)
    else if c.toNat < 128 && !c.isAlphanum && c ≠ '<' && c ≠ '>' then some (.char c, r)
    else none

/-- Reads a member of a class, which is a character or an escape. -/
def member? : List Char → Option (Escape × List Char)
  | [] => none
  | '\\' :: 'A' :: _ | '\\' :: 'z' :: _ => none
  | '\\' :: r => escape? r
  | c :: r => some (.char c, r)

/-- The start of a class after its opening bracket: a sign that negates it, and a bracket or dashes
that stand for themselves. -/
def classStart (text : List Char) : List Char :=
  let text := match text with
    | '^' :: r => r
    | r => r
  match text with
  | ']' :: r => r
  | r => r.dropWhile (· = '-')

/-- What follows a class of characters, given the number of brackets that are open. Every character
takes a step. -/
def afterClass? : Nat → Nat → List Char → Option (List Char)
  | _, 0, text => some text
  | 0, _, _ => none
  | steps + 1, brackets + 1, text =>
    match text with
    | [] => none
    | ']' :: r => afterClass? steps brackets r
    | '[' :: r => afterClass? steps (brackets + 2) (classStart r)
    | text =>
      (member? text).bind fun (first, rest) =>
        match rest with
        | '-' :: ']' :: _ | '-' :: '-' :: _ => afterClass? steps (brackets + 1) (rest.drop 1)
        | '-' :: r =>
          (member? r).bind fun (last, rest) =>
            match first, last with
            | .char a, .char b => if a ≤ b then afterClass? steps (brackets + 1) rest else none
            | _, _ => none
        | rest => afterClass? steps (brackets + 1) rest

/-- What follows the opening of a group after its parenthesis and question mark, and whether the
group is still open. -/
def afterFlags? (text : List Char) : Option (Bool × List Char) :=
  let named (r : List Char) : Option (Bool × List Char) :=
    let name := r.takeWhile (· ≠ '>')
    if name.isEmpty || !name.all (fun c => c.isAlphanum || c = '_') || name.head?.any Char.isDigit
    then none
    else (r.drop name.length).tail?.map fun rest => (true, rest)
  match text with
  | 'P' :: '<' :: r | '<' :: r => named r
  | r =>
    let flags := r.takeWhile fun c => "imsUuxR-".contains c
    match r.drop flags.length with
    | ':' :: rest => if flags.getLast? = some '-' then none else some (true, rest)
    | ')' :: rest => if flags.isEmpty || flags.getLast? = some '-' then none else some (false, rest)
    | _ => none

/-- Whether a pattern goes on correctly, given the number of open groups and whether there is
something to repeat. Every character takes a step. -/
def goesOn : Nat → Nat → Bool → List Char → Bool
  | _, groups, _, [] => groups = 0
  | 0, _, _, _ => false
  | steps + 1, groups, repeats, c :: r =>
    match c with
    | '\\' => (escape? r).any fun e => goesOn steps groups true e.2
    | '[' => (afterClass? (2 * r.length + 2) 1 (classStart r)).any (goesOn steps groups true)
    | '(' =>
      match r with
      | '?' :: r =>
        (afterFlags? r).any fun e => goesOn steps (if e.1 then groups + 1 else groups) false e.2
      | r => goesOn steps (groups + 1) false r
    | ')' => 0 < groups && goesOn steps (groups - 1) true r
    | '|' => goesOn steps groups false r
    | '*' | '+' | '?' => repeats && goesOn steps groups true r
    | '\x7b' => false
    | _ => goesOn steps groups true r

/-- Whether a text is a pattern. -/
def isPattern (text : String) : Bool := goesOn (text.length + 1) 0 false text.toList

end LoadFleet.Pattern
