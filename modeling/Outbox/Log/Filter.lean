import Outbox.Log

/-! # Which events are printed

A filter holds the most detailed level that is still printed, or none at all.

* `Filter.ofText?`: the filter that a level's name or number stands for.
* `Filter.choose`: the filter to use, and the complaint about a text that names none.
* `shows`, `line`: whether an event is printed, and how.
-/

set_option autoImplicit false

namespace Outbox

/-- The most detailed level that is printed. -/
structure Filter where
  most : Option Level
  deriving DecidableEq, Repr

namespace Filter

/-- The filter of settings that name none. -/
def standard : Filter := ⟨some .trace⟩

def name (f : Filter) : String :=
  match f.most with
  | none => "off"
  | some .error => "error"
  | some .warn => "warn"
  | some .info => "info"
  | some .debug => "debug"
  | some .trace => "trace"

/-- The filters from least to most detail, so by number. -/
def all : List Filter :=
  [⟨none⟩, ⟨some .error⟩, ⟨some .warn⟩, ⟨some .info⟩, ⟨some .debug⟩, ⟨some .trace⟩]

/-- The number that a text spells, with an optional plus sign. -/
def number? (s : List Char) : Option Nat :=
  let ds := match s with
    | '+' :: ds => ds
    | ds => ds
  if ds.isEmpty || !ds.all Char.isDigit then none
  else some (ds.foldl (fun n c => n * 10 + (c.toNat - 0x30)) 0)

/-- The filter that a text stands for: a number up to five, a name in any case, or nothing, which
stands for errors only. -/
def ofText? (s : String) : Option Filter :=
  match number? s.toList with
  | some n => all[n]?
  | none =>
    if s.isEmpty then some ⟨some .error⟩
    else all.find? fun f => f.name.toList == s.toList.map Char.toLower

/-- The filter to use, and a complaint about a text that stands for none. -/
def choose (text : Option String) : Filter × List String :=
  match text with
  | none => (standard, [])
  | some s =>
    match ofText? s with
    | some f => (f, [])
    | none =>
      (standard,
        ["Invalid log level specified " ++ s ++ ", defaulting to " ++ standard.name ++ "\n"])

end Filter

/-- An event with the module it comes from and the name of its stage. -/
structure Notice where
  level : Level
  stage : String
  target : String
  text : String
  deriving DecidableEq, Repr

/-- Whether an event is printed: its level is within the filter and its module is one of the
program's. -/
def Filter.shows (f : Filter) (n : Notice) : Bool :=
  (match f.most with
    | none => false
    | some l => n.level.detail ≤ l.detail) && "herald".toList.isPrefixOf n.target.toList

/-- A printed event: level, stage if any, module, text. -/
def Notice.line (n : Notice) : String :=
  n.level.name ++ " " ++ (if n.stage.isEmpty then "" else n.stage ++ ": ") ++ n.target ++ ": " ++
    n.text

end Outbox
