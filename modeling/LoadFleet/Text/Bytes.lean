/-!
# Lengths in bytes

Positions in a text count the bytes of its UTF-8 form. A cut that would divide a character leaves
the character out.
-/

namespace LoadFleet

/-- A text without its first `n` bytes. -/
def dropBytes : Nat → List Char → List Char
  | 0, text => text
  | _, [] => []
  | n + 1, c :: r => dropBytes (n + 1 - c.utf8Size) r

/-- The first `n` bytes of a text. -/
def takeBytes : Nat → List Char → List Char
  | _, [] => []
  | n, c :: r => if c.utf8Size ≤ n then c :: takeBytes (n - c.utf8Size) r else []

/-- The part of a text between two positions. -/
def sliceBytes (start stop : Nat) (text : List Char) : String :=
  String.ofList (takeBytes (stop - start) (dropBytes start text))

end LoadFleet
