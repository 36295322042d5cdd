import Outbox.Ron.Number

/-! # Values of RON

What a document holds, as far as a setting can hold it: records, tuples, options, texts, integers
and bare words. Numbers with a fraction, characters, octet strings and booleans are well-formed but
no setting takes one, so they are all one `scalar`.

* `record`, `option`, `quoted`, `number`: the written forms, without white space or struct names.
-/

set_option autoImplicit false

namespace Outbox.Ron

/-- A value of a document. -/
inductive Value where
  | word (name : List Char)
  | integer (n : Integer)
  | text (s : List Char)
  | scalar
  | nothing
  | something (v : Value)
  | record (name : Option (List Char)) (fields : List (List Char × Value))
  | tuple (name : Option (List Char)) (items : List Value)
  | list (items : List Value)
  | map (entries : List (Value × Value))

/-- What a document's attributes switch on. -/
structure Extensions where
  implicitSome : Bool
  unwrapVariants : Bool
  explicitNames : Bool
  deriving DecidableEq, Repr

/-- No attribute. -/
def Extensions.none : Extensions := ⟨false, false, false⟩

/-- Both sets of switches together. -/
def Extensions.union (a b : Extensions) : Extensions :=
  ⟨a.implicitSome || b.implicitSome, a.unwrapVariants || b.unwrapVariants,
    a.explicitNames || b.explicitNames⟩

/-- The switch that a name in an attribute stands for. -/
def Extensions.ofName (name : String) : Option Extensions :=
  match name with
  | "implicit_some" => some ⟨true, false, false⟩
  | "unwrap_newtypes" => some Extensions.none
  | "unwrap_variant_newtypes" => some ⟨false, true, false⟩
  | "explicit_struct_names" => some ⟨false, false, true⟩
  | _ => Option.none

/-- A whole document. -/
structure Document where
  extensions : Extensions
  value : Value

end Outbox.Ron
