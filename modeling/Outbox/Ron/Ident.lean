import Outbox.Text.IdentTail

/-! # Identifiers of RON

Field names, struct names and bare words: an identifier in the Unicode sense, or `r#` before a raw
one, which may also hold dots and signs.

* `ident`: the identifier at the start of a document, and whether it is raw.
-/

set_option autoImplicit false

namespace Outbox.Ron

/-- What may start an identifier. -/
def isFirst (c : Char) : Bool := c == '_' || Text.isIdentStart c

/-- What a raw identifier may hold beyond the characters of a plain one. -/
def isSign (c : Char) : Bool := c == '.' || c == '+' || c == '-'

/-- What a raw identifier consists of. -/
def isRaw (c : Char) : Bool := isSign c || Text.isIdentTail c

/-- Whether a document starts with the mark of a raw string or of an octet literal, which looks
like an identifier. -/
def startsLiteral : List Char → Bool
  | 'b' :: '"' :: _ => true
  | 'b' :: '\'' :: _ => true
  | 'b' :: 'r' :: '"' :: _ => true
  | 'b' :: 'r' :: '#' :: _ => true
  | 'r' :: '"' :: _ => true
  | 'r' :: '#' :: '"' :: _ => true
  | 'r' :: '#' :: '#' :: _ => true
  | _ => false

/-- An identifier as it was written. -/
structure Ident where
  raw : Bool
  name : List Char
  deriving DecidableEq, Repr

/-- The identifier at the start of a document. A plain one must not run into a dot or sign. -/
def ident (s : List Char) : Option (Ident × List Char) :=
  match s with
  | [] => none
  | c :: _ =>
    if !isFirst c || startsLiteral s then none
    else match s with
      | 'r' :: '#' :: rest =>
        let name := rest.takeWhile isRaw
        if name.isEmpty then none else some (⟨true, name⟩, rest.dropWhile isRaw)
      | _ =>
        let rest := s.dropWhile Text.isIdentTail
        if (rest.head?.map isSign).getD false then none
        else some (⟨false, s.takeWhile Text.isIdentTail⟩, rest)

end Outbox.Ron
