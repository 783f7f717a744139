import LoadFleet.Text.Visible
/-!
# Quoted texts

A text in double quotes, in which quotes, backslashes and characters that are not visible are
escaped.
-/

namespace LoadFleet.Quoted

/-- The escape of a character inside a quoted text, which is the character itself for most. -/
def escape (c : Char) : List Char :=
  match c with
  | '"' => ['\\', '"']
  | '\\' => ['\\', '\\']
  | '\n' => ['\\', 'n']
  | '\r' => ['\\', 'r']
  | '\t' => ['\\', 't']
  | _ =>
    if c.toNat = 0 then ['\\', '0']
    else if isVisible c then [c]
    else ['\\', 'u', '\x7b'] ++ Nat.toDigits 16 c.toNat ++ ['\x7d']

/-- A text in quotes. -/
def encode (text : String) : String :=
  String.ofList ('"' :: text.toList.flatMap escape ++ ['"'])

end LoadFleet.Quoted
