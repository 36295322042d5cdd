import Outbox.Ron.Ident
import Outbox.Ron.Literal
import Outbox.Ron.Value

/-! # Reading RON

* `value`: the value at the start of a document, within a nesting depth. Opening a bracket takes
  one level and so does every element inside it; the content of `Some(...)` takes one.
* `document`: attributes, one value, and nothing behind it.

A list of elements is read by `items`, which any kind of element shares: fields, list elements,
map entries, attribute names.
-/

set_option autoImplicit false

namespace Outbox.Ron

/-- Reads something off the start of a document and leaves the rest. -/
abbrev Reader (α : Type) := List Char → Option (α × List Char)

/-- A comma, if there is one, and the gaps around it. -/
def comma : Reader Bool := fun s =>
  match skip s with
  | some (',' :: rest) => (skip rest).map fun rest => (true, rest)
  | some s => some (false, s)
  | none => none

/-- Elements separated by commas up to a closing character, a trailing comma allowed. `more` says
whether an element may come next; `fuel` bounds their number. -/
def items {α : Type} (item : Reader α) (close : Char) : Nat → Bool → Reader (List α)
  | 0, _, _ => none
  | fuel + 1, more, s =>
    match skip s with
    | none => none
    | some [] => none
    | some (c :: rest) =>
      if c == close then some ([], rest)
      else if !more then none
      else match item (c :: rest) with
        | none => none
        | some (x, s) =>
          match comma s with
          | none => none
          | some (more, s) =>
            match items item close fuel more s with
            | none => none
            | some (xs, s) => some (x :: xs, s)

/-- Elements up to a closing character. Each takes at least one character, so the document's length
bounds their number. -/
def elements {α : Type} (item : Reader α) (close : Char) : Reader (List α) := fun s =>
  items item close (s.length + 1) true s

/-- A colon and the gap behind it, after a gap. -/
def colon (s : List Char) : Option (List Char) :=
  match skip s with
  | some (':' :: rest) => skip rest
  | _ => none

/-- A name, a colon and a value. -/
def field (item : Reader Value) : Reader (List Char × Value) := fun s =>
  match ident s with
  | none => none
  | some (name, s) =>
    match colon s with
    | none => none
    | some s => (item s).map fun (v, s) => ((name.name, v), s)

/-- A key, a colon and a value. -/
def entry (item : Reader Value) : Reader (Value × Value) := fun s =>
  match item s with
  | none => none
  | some (k, s) =>
    match colon s with
    | none => none
    | some s => (item s).map fun (v, s) => ((k, v), s)

/-- Whether a bracket's content starts with a field. -/
def startsField (s : List Char) : Bool :=
  match skip s with
  | none => false
  | some s =>
    match ident s with
    | none => false
    | some (_, s) => (colon s).isSome

/-- Fields or elements, from behind the opening parenthesis. -/
def body (item : Reader Value) (name : Option (List Char)) : Reader Value := fun s =>
  if startsField s then (elements (field item) ')' s).map fun (fs, s) => (.record name fs, s)
  else (elements item ')' s).map fun (xs, s) => (.tuple name xs, s)

/-- Words that are values of their own, never names. -/
def constants : List (List Char × Value) :=
  [("true".toList, .scalar), ("false".toList, .scalar), ("None".toList, .nothing),
    ("inf".toList, .scalar), ("inff32".toList, .scalar), ("inff64".toList, .scalar),
    ("NaN".toList, .scalar), ("NaNf32".toList, .scalar), ("NaNf64".toList, .scalar)]

/-- The content of an option, from behind its name. With `unwrap` it may also be the bare content
of a record or tuple. -/
def option (unwrap : Bool) (item content : Reader Value) : Reader Value := fun s =>
  match skip s with
  | some ('(' :: s) =>
    match skip s with
    | none => none
    | some s =>
      let single := match content s with
        | none => none
        | some (v, s) =>
          match comma s with
          | some (_, ')' :: s) => some (Value.something v, s)
          | _ => none
      match single with
      | some r => some r
      | none =>
        if unwrap then (body item none s).map fun (v, s) => (.something v, s) else none
  | _ => none

/-- A literal, by its first character. -/
def literal (s : List Char) : Option (Value × List Char) :=
  match s with
  | '"' :: _ => (text s).map fun (t, s) => (.text t, s)
  | 'r' :: _ => (text s).map fun (t, s) => (.text t, s)
  | '\'' :: s => (character false s).map fun s => (.scalar, s)
  | 'b' :: '\'' :: s => (character true s).map fun s => (.scalar, s)
  | 'b' :: _ => (octets s).map fun s => (.scalar, s)
  | c :: _ =>
    if c.isDigit || isSign c then
      (number s).map fun (n, s) => ((n.map Value.integer).getD .scalar, s)
    else none
  | [] => none

/-- One value. `nested` says whether a bracket may open here, `item` reads what stands between
brackets and `content` what stands inside an option. -/
def form (ext : Extensions) (nested : Bool) (item content : Reader Value) : Reader Value := fun s =>
  match s with
  | '(' :: ')' :: rest => some (.tuple none [], rest)
  | _ =>
    match ident s with
    | some (name, rest) =>
      match if name.raw then none else constants.lookup name.name with
      | some v => some (v, rest)
      | none =>
        if !name.raw && name.name == "Some".toList then
          if nested then option ext.unwrapVariants item content rest else none
        else match skip rest with
          | some ('(' :: rest) => if nested then body item (some name.name) rest else none
          | some rest => some (.word name.name, rest)
          | none => none
    | none =>
      match s with
      | '(' :: rest => if nested then body item none rest else none
      | '[' :: rest =>
        if nested then (elements item ']' rest).map fun (xs, s) => (.list xs, s) else none
      | '\x7b' :: rest =>
        if nested then (elements (entry item) '\x7d' rest).map fun (es, s) => (.map es, s) else none
      | _ => literal s

/-- The value at the start of a document, within a nesting depth. -/
def value (ext : Extensions) : Nat → Reader Value
  | 0, s => form ext false (fun _ => none) (fun _ => none) s
  | 1, s => form ext true (fun _ => none) (value ext 0) s
  | depth + 2, s => form ext true (value ext depth) (value ext (depth + 1)) s

/-- How deep a document may nest. -/
def maxDepth : Nat := 128

/-! ## Attributes -/

/-- The document behind a token and a gap, if it starts with the token. -/
def token (word : List Char) (s : List Char) : Option (List Char) :=
  if word.isPrefixOf s then skip (s.drop word.length) else none

/-- The name of an extension in an attribute. -/
def extensionName : Reader Extensions := fun s =>
  match ident s with
  | none => none
  | some (name, s) => (Extensions.ofName (String.ofList name.name)).map fun e => (e, s)

/-- An attribute `#![enable(...)]` with at least one name, and the gap behind it. -/
def enabling : Reader Extensions := fun s =>
  let opened := do
    let s ← token ['#'] s
    let s ← token ['!'] s
    let s ← token ['['] s
    let s ← token "enable".toList s
    token ['('] s
  match opened with
  | none => none
  | some s =>
    match elements extensionName ')' s with
    | none => none
    | some ([], _) => none
    | some (e :: es, s) =>
      match skip s with
      | none => none
      | some s => (token [']'] s).map fun s => (es.foldl Extensions.union e, s)

/-- The attributes at the start of a document; `fuel` bounds their number. -/
def attributes : Nat → Extensions → Reader Extensions
  | 0, _, _ => none
  | fuel + 1, ext, s =>
    if s.head? == some '#' then
      match enabling s with
      | none => none
      | some (e, s) => attributes fuel (ext.union e) s
    else some (ext, s)

/-- A whole document, none if it is not well-formed. -/
def document (s : List Char) : Option Document :=
  match skip s with
  | none => none
  | some s =>
    match attributes (s.length + 1) Extensions.none s with
    | none => none
    | some (ext, s) =>
      match value ext maxDepth s with
      | none => none
      | some (v, s) =>
        match skip s with
        | some [] => some ⟨ext, v⟩
        | _ => none

end Outbox.Ron
