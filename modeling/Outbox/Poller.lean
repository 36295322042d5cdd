import Outbox.Pool
import Outbox.Stats

/-! # The poller

The one party that drives multiplexers. It goes over the slots again and again, as long as the
running flag is set: a slot that someone else holds is skipped, the others are each given time,
performed, and reaped of every completion.

* `Poller.visit`: one slot. `Poller.reap` reads its completions, counts them and takes the
  transfers back.
* `Poller.pass`: the slots in order. `looks` is how often the running flag will still be found set;
  it is looked at before each slot.
* `Poller.run`: pass after pass until the flag is found cleared.
-/

set_option autoImplicit false

namespace Outbox.Poller

/-- The name of the poller's thread. -/
def threadName : String := "herald-poller"

/-- What a multiplexer is asked, with the answer where it matters. -/
inductive Call where
  | timeout
  | wait (limit : Duration)
  | perform
  | next (id : Option TransferId)
  | remove (id : TransferId)
  deriving DecidableEq, Repr

/-- What the poller did: what it asked of which slot, and what it reported. -/
structure Work where
  calls : List (Nat × Call)
  events : List Event

namespace Work

def none : Work := ⟨[], []⟩

/-- First the one, then the other. -/
def append (a b : Work) : Work := ⟨a.calls ++ b.calls, a.events ++ b.events⟩

instance : Append Work := ⟨append⟩

end Work

variable {M : Type} [Multiplexer M]

/-- The counter of an outcome. -/
def counter : Outcome → Counter
  | .ok _ => .delivered
  | .error _ => .failed

/-- The report of an outcome. -/
def outcomeEvent (c : Completion) : Event :=
  match c.outcome with
  | .ok _ => Event.plain .debug "Mail delivered" [("transfer", .text c.id.render)]
  | .error e =>
    Event.plain .warn ("Mail delivery failed: " ++ e.message)
      [("transfer", .text c.id.render), ("transient", .flag e.isTransient)]

/-- Reads every completion of a multiplexer. Each is counted and reported, and its transfer taken
back, before the next is read. -/
def reap (slot : Nat) (m : M) (stats : Stats) : M × Stats × Work :=
  match _h : Multiplexer.next m with
  | none => (m, stats, ⟨[(slot, .next none)], []⟩)
  | some (c, m') =>
    let (left, counted, work) :=
      reap slot (Multiplexer.remove m' c.id).2 (stats.count (counter c.outcome))
    (left, counted, ⟨[(slot, .next (some c.id)), (slot, .remove c.id)], [outcomeEvent c]⟩ ++ work)
termination_by Multiplexer.unread m
decreasing_by
  exact Nat.lt_of_le_of_lt (Multiplexer.unread_remove m' c.id) (Multiplexer.unread_next _h)

/-- Gives a multiplexer time, as much as it wishes or else `standard`, lets it perform, and reaps
it. -/
def visit (standard : Duration) (slot : Nat) (m : M) (stats : Stats) : M × Stats × Work :=
  let limit := (Multiplexer.timeout m).getD standard
  let (m, waited) := Multiplexer.wait m limit
  let (m, performed) := Multiplexer.perform m
  let (m, stats, work) := reap slot m stats
  (m, stats,
    ⟨[(slot, .timeout), (slot, .wait limit), (slot, .perform)], waited ++ performed⟩ ++ work)

/-- The slots that a pass left, the counters, how often the flag will still be found set, and what
was done. -/
structure Pass (M : Type) where
  slots : List (Slot M)
  stats : Stats
  looks : Nat
  work : Work

/-- Goes over the slots from the one at `index` on. -/
def pass (standard : Duration) (index : Nat) (slots : List (Slot M)) (stats : Stats)
    (looks : Nat) : Pass M :=
  match slots, looks with
  | [], looks => ⟨[], stats, looks, Work.none⟩
  | slots, 0 => ⟨slots, stats, 0, Work.none⟩
  | s :: rest, looks + 1 =>
    if s.held then
      let p := pass standard (index + 1) rest stats looks
      { p with slots := s :: p.slots }
    else
      let (m, stats, work) := visit standard index s.mux stats
      let p := pass standard (index + 1) rest stats looks
      { p with slots := { s with mux := m } :: p.slots, work := work ++ p.work }

theorem looks_pass_le (standard : Duration) (index : Nat) (slots : List (Slot M)) (stats : Stats)
    (looks : Nat) : (pass standard index slots stats looks).looks ≤ looks := by
  induction slots generalizing index stats looks with
  | nil => simp [pass]
  | cons s rest ih =>
    cases looks with
    | zero => simp [pass]
    | succ looks =>
      simp only [pass]
      split
      · exact Nat.le_succ_of_le (ih ..)
      · exact Nat.le_succ_of_le (ih ..)

/-- Passes until the flag is found cleared, which it is after `looks` times of being found set. -/
def passes (standard : Duration) (slots : List (Slot M)) (stats : Stats) (looks : Nat) : Pass M :=
  match looks with
  | 0 => ⟨slots, stats, 0, Work.none⟩
  | looks + 1 =>
    let p := pass standard 0 slots stats looks
    let q := passes standard p.slots p.stats p.looks
    { q with work := p.work ++ q.work }
termination_by looks
decreasing_by
  exact Nat.lt_succ_of_le (looks_pass_le ..)

/-- The whole life of the poller over a pool. -/
def run (standard : Duration) (pool : Pool M) (stats : Stats) (looks : Nat) :
    Pool M × Stats × Work :=
  let p := passes standard pool.slots stats looks
  (⟨p.slots⟩, p.stats,
    ⟨[], [Event.internal .debug ("Poller started with " ++ toString pool.size ++ " slots")]⟩ ++
      p.work ++ ⟨[], [Event.internal .debug "Poller stopped"]⟩)

/-- How often the flag is looked at, and found set, until `visits` slots have been visited, given
which slots are held; nothing if there is none to visit. -/
def looksFor (held : List Bool) (visits : Nat) : Nat :=
  let free := (List.range held.length).filter fun i => !(held.getD i true)
  if visits = 0 ∨ free.length = 0 then 0
  else
    let full := (visits - 1) / free.length
    let last := free.getD ((visits - 1) % free.length) 0
    full * (held.length + 1) + last + 2

end Outbox.Poller
