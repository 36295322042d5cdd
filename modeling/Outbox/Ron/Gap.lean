/-! # White space and comments of RON

What may stand between two tokens of a document: white space, `//` comments up to the end of their
line and `/* */` comments, which nest.

* `skip`: the document from its next token on, or none if a comment is malformed or never ends.
-/

set_option autoImplicit false

namespace Outbox.Ron

/-- White space between tokens: the Unicode property `Pattern_White_Space`. -/
def isSpace (c : Char) : Bool :=
  let n := c.toNat
  (9 ≤ n && n ≤ 13) || n == 0x20 || n == 0x85 || n == 0x200E || n == 0x200F || n == 0x2028 ||
    n == 0x2029

/-- Where a scan between tokens stands. -/
inductive Gap where
  | space
  | line
  /-- Inside a block comment with so many more comments around it. -/
  | block (outer : Nat)
  deriving DecidableEq, Repr

/-- The document from its next token on, scanning from `gap`. -/
def skipFrom : Gap → List Char → Option (List Char)
  | .space, [] => some []
  | .space, '/' :: '/' :: rest => skipFrom .line rest
  | .space, '/' :: '*' :: rest => skipFrom (.block 0) rest
  | .space, c :: rest =>
    if c == '/' then none else if isSpace c then skipFrom .space rest else some (c :: rest)
  | .line, [] => some []
  | .line, c :: rest => if c == '\n' then skipFrom .space rest else skipFrom .line rest
  | .block _, [] => none
  | .block n, '/' :: '*' :: rest => skipFrom (.block (n + 1)) rest
  | .block 0, '*' :: '/' :: rest => skipFrom .space rest
  | .block (n + 1), '*' :: '/' :: rest => skipFrom (.block n) rest
  | .block n, _ :: rest => skipFrom (.block n) rest

/-- The document from its next token on. -/
def skip (s : List Char) : Option (List Char) := skipFrom .space s

end Outbox.Ron
