import Outbox.Text.Combining
import Outbox.Text.Unprintable

/-! # Quoted texts

A text between double quotes, with everything escaped that would not show as itself:

* `escape`: one character, with the rule for single and double quotes left to the caller.
* `quote`: a text as diagnostics show it, single quotes as they are.
-/

set_option autoImplicit false

namespace Outbox.Text

/-- The lower case hexadecimal digits of a number. -/
def hex (n : Nat) : List Char := Nat.toDigits 16 n

/-- The escape that names a character by its code point. -/
def codePoint (c : Char) : List Char := ['\\', 'u', '\x7b'] ++ hex c.toNat ++ ['\x7d']

/-- A character inside quotes. NUL, tab, line breaks, quotes and the backslash have short escapes;
what is invisible or joins the character before it is named by its code point. `single` says
whether a single quote is escaped too. -/
def escape (single : Bool) (c : Char) : List Char :=
  match c with
  | '\x00' => ['\\', '0']
  | '\t' => ['\\', 't']
  | '\r' => ['\\', 'r']
  | '\n' => ['\\', 'n']
  | '"' => ['\\', '"']
  | '\\' => ['\\', '\\']
  | '\'' => if single then ['\\', '\''] else ['\'']
  | c => if isCombining c || isUnprintable c then codePoint c else [c]

/-- A text between double quotes, each character escaped. -/
def quoteWith (single : Bool) (s : String) : String :=
  String.ofList ('"' :: s.toList.flatMap (escape single) ++ ['"'])

/-- A text as diagnostics show it. -/
def quote (s : String) : String := quoteWith false s

end Outbox.Text
