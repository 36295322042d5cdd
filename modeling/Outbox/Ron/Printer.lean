import Outbox.Text.Quoted

/-! # Writing RON

The written form of settings: no white space, no struct names, fields in the order given, one form
per value.
-/

set_option autoImplicit false

namespace Outbox.Ron.Printer

/-- An integer in decimal. -/
def number (n : Nat) : List Char := Nat.toDigits 10 n

/-- A text between double quotes, both kinds of quote escaped. -/
def quoted (s : String) : List Char := (Text.quoteWith true s).toList

/-- An option around a written form. -/
def option (v : Option (List Char)) : List Char :=
  match v with
  | none => "None".toList
  | some v => "Some(".toList ++ v ++ [')']

/-- A name, a colon and a written form. -/
def field (f : String × List Char) : List Char := f.1.toList ++ ':' :: f.2

/-- Fields between parentheses, separated by commas. -/
def record (fields : List (String × List Char)) : List Char :=
  '(' :: ((fields.map field).intersperse [',']).flatten ++ [')']

end Outbox.Ron.Printer
