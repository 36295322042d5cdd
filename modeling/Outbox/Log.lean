/-! # Log events

What the program reports while it works:

* `Level`: how much an event matters, with an order.
* `Scope`: the stage an event belongs to, if any: internal work, what is sent, what comes in.
* `LogSpan`: a stretch of work, which what is reported meanwhile belongs to.
* `Event`: level, scope, text, fields and the spans around it. `Event.within` puts one more around.
-/

set_option autoImplicit false

namespace Outbox

/-- The weight of an event. -/
inductive Level where
  | trace
  | debug
  | info
  | warn
  | error
  deriving DecidableEq, Repr

namespace Level

def name : Level → String
  | trace => "TRACE"
  | debug => "DEBUG"
  | info => "INFO"
  | warn => "WARN"
  | error => "ERROR"

/-- The level as a number: the higher, the more detail a reader asks for. -/
def detail : Level → Nat
  | error => 1
  | warn => 2
  | info => 3
  | debug => 4
  | trace => 5

end Level

/-- The stage an event is reported from. -/
inductive Scope where
  | internal
  | outgoing
  | incoming
  | plain
  deriving DecidableEq, Repr

def Scope.name : Scope → String
  | internal => "internal"
  | outgoing => "outgoing"
  | incoming => "incoming"
  | plain => ""

/-- The value of an event's field. -/
inductive FieldValue where
  | flag (b : Bool)
  | text (s : String)
  deriving DecidableEq, Repr

/-- A stretch of work: its name, its level, and what it is about. -/
structure LogSpan where
  name : String
  level : Level
  fields : List (String × String)
  deriving DecidableEq, Repr

/-- A report of the program. -/
structure Event where
  level : Level
  scope : Scope
  text : String
  fields : List (String × FieldValue)
  /-- The spans around it, outermost first. -/
  around : List LogSpan := []
  deriving DecidableEq, Repr

namespace Event

/-- An event of the program's own work. -/
def internal (level : Level) (text : String) : Event := ⟨level, .internal, text, [], []⟩

/-- A line sent to the mail server. -/
def outgoing (text : String) : Event := ⟨.trace, .outgoing, text, [], []⟩

/-- A reply of the mail server. -/
def incoming (text : String) : Event := ⟨.trace, .incoming, text, [], []⟩

/-- An event outside any stage. -/
def plain (level : Level) (text : String) (fields : List (String × FieldValue)) : Event :=
  ⟨level, .plain, text, fields, []⟩

/-- An event of work that a span is around. -/
def within (span : LogSpan) (e : Event) : Event := { e with around := span :: e.around }

end Event

end Outbox
