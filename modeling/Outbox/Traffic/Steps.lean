import Outbox.Traffic

/-!
# What a step of traffic can do

Each step of a submitter, of the poller and of a shutdown, with the stage before and after and with
what it does to the mailer: at most one slot changes, or a counter, or the tickets, or a flag.

* `SubmitterStage.ticket?`, `slot?`, `admitted?`: what a submitter has at a stage.
* `Submits`, `Polls`, `Closes`: the steps; `submits`, `polls` and `closes` say that there are no
  others.
-/

set_option autoImplicit false

namespace Outbox

variable {T M : Type}

/-! ## Reading a stage -/

namespace SubmitterStage

/-- The ticket that is not yet given back. -/
def ticket? : SubmitterStage → Option Ticket
  | .fresh .. | .over => none
  | .noted k _ | .submitted k _ | .prepared k _ _ | .holding k _ _ | .admitted k _ _ | .taken k _ _
  | .attached k _ | .declined k _ | .failed k | .leaving k => some k

/-- The slot that is held. -/
def slot? : SubmitterStage → Option Nat
  | .holding _ i _ | .admitted _ i _ | .taken _ i _ | .attached _ i | .declined _ i => some i
  | _ => none

/-- The held slot that may still get a transfer, or got it and did not count it yet. -/
def admitted? : SubmitterStage → Option Nat
  | .admitted _ i _ | .taken _ i _ => some i
  | _ => none

theorem slot?_of_admitted? {s : SubmitterStage} {i : Nat} (h : s.admitted? = some i) :
    s.slot? = some i := by
  cases s <;> simp_all [admitted?, slot?]

end SubmitterStage

/-- The slot that the poller holds. -/
def PollerStage.slot? : PollerStage → Option Nat
  | .holding i | .waited i | .reading i => some i
  | _ => none

namespace ShutdownStage

/-- The slot that the shutdown holds. -/
def slot? : ShutdownStage → Option Nat
  | .holding i => some i
  | _ => none

/-- Whether the poller was waited for. -/
def hasJoined : ShutdownStage → Bool
  | .awaited | .flagCleared | .poolTaken => false
  | _ => true

/-- Whether a slot was waited for. -/
def hasSettled : ShutdownStage → Nat → Bool
  | .awaited, _ | .flagCleared, _ | .poolTaken, _ => false
  | .settling j, i | .holding j, i => i < j
  | _, _ => true

/-- Whether the pool was let go. -/
def hasReleased : ShutdownStage → Bool
  | .released _ | .finished _ => true
  | _ => false

theorem hasJoined_of_hasReleased {c : ShutdownStage} (h : c.hasReleased = true) :
    c.hasJoined = true := by
  cases c <;> simp_all [hasReleased, hasJoined]

end ShutdownStage

namespace Mailer

/-- Whether someone holds a slot of a pool. -/
def isHeld (m : Mailer T M) (pool i : Nat) : Bool := (m.slot? pool i).any (·.held)

theorem isHeld_of_settled {m : Mailer T M} (h : m.pools.all fun q => q.2.isSettled) (pool i : Nat) :
    m.isHeld pool i = false := by
  cases hp : m.pool? pool with
  | none => simp [isHeld, slot?, hp]
  | some p =>
    obtain ⟨before, after, split, _⟩ := List.lookup_eq_some_iff.mp hp
    have settled : p.isSettled = true := List.all_eq_true.mp h (pool, p) (by simp [split])
    cases hx : p.slots[i]? with
    | none => simp [isHeld, slot?, hp, hx]
    | some x =>
      have free := List.all_eq_true.mp settled x (List.mem_of_getElem? hx)
      simpa [isHeld, slot?, hp, hx] using free

/-- The slots of a pool are numbered without a gap. -/
theorem slot?_isSome_of_le {m : Mailer T M} {pool i j : Nat} (hij : i ≤ j)
    (h : (m.slot? pool j).isSome) : (m.slot? pool i).isSome := by
  unfold slot? at h ⊢
  cases hp : m.pool? pool with
  | none => simp [hp] at h
  | some p =>
    simp only [hp, Option.bind_eq_bind, Option.bind_some, isSome_getElem?] at h ⊢
    omega

namespace Changes

variable {m m' : Mailer T M} {pool i : Nat} {f : Slot M → Slot M}

theorem isHeld_ne (h : Changes m m' pool i f) {j : Nat} (hj : j ≠ i) :
    m'.isHeld pool j = m.isHeld pool j := by
  simp [Mailer.isHeld, h.slot?, hj]

/-- A slot is held as before if only its multiplexer changed. -/
theorem isHeld_eq (h : Changes m m' pool i f) (hf : ∀ x, (f x).held = x.held) (j : Nat) :
    m'.isHeld pool j = m.isHeld pool j := by
  by_cases hj : j = i
  · subst hj
    cases hx : m.slot? pool j with
    | none => simp [Mailer.isHeld, h.slot?, hx]
    | some x => simp [Mailer.isHeld, h.slot?, hx, hf]
  · exact h.isHeld_ne hj

end Changes

end Mailer

/-! ## What a step can do -/

/-- Takes hold of a slot. -/
def Slot.hold (s : Slot M) : Slot M := { s with held := true }

/-- Lets a slot go. -/
def Slot.free (s : Slot M) : Slot M := { s with held := false }

/-- Puts a multiplexer into a slot. -/
def Slot.put (mux : M) (s : Slot M) : Slot M := { s with mux := mux }

section Steps

variable [Multiplexer M]

open Mailer

/-- A step of a submission: stage and mailer before and after, and what a slot took. -/
inductive Submits (m : Mailer T M) :
    SubmitterStage → Mailer T M → SubmitterStage → List Placement → Prop where
  | missed {l : Letter} {now : String} : Submits m (.fresh l now) m .over []
  | noted {l : Letter} {now : String} {k : Ticket} :
      m.running = true → m.current = some k.pool → k.number = m.nextTicket →
        Submits m (.fresh l now)
          { m with tickets := m.tickets ++ [k], nextTicket := m.nextTicket + 1 } (.noted k now) []
  | submitted {k : Ticket} {now : String} :
      Submits m (.noted k now) (m.count .submitted) (.submitted k now) []
  | prepared {k : Ticket} {now : String} {t : Transfer} :
      Submits m (.submitted k now) m (.prepared k t 0) []
  | unfit {k : Ticket} {now : String} : Submits m (.submitted k now) m (.failed k) []
  | passed {k : Ticket} {t : Transfer} {i j : Nat} :
      Submits m (.prepared k t i) m (.prepared k t j) []
  | locked {k : Ticket} {t : Transfer} {i : Nat} {x : Slot M} {m' : Mailer T M} :
      m.slot? k.pool i = some x → x.held = false → Changes m m' k.pool i Slot.hold →
        Submits m (.prepared k t i) m' (.holding k i t) []
  | admitted {k : Ticket} {i : Nat} {t : Transfer} :
      m.running = true → Submits m (.holding k i t) m (.admitted k i t) []
  | late {k : Ticket} {i : Nat} {t : Transfer} :
      m.running = false → Submits m (.holding k i t) m (.declined k i) []
  | taken {k : Ticket} {i : Nat} {t : Transfer} {x : Slot M} {id : TransferId} {mux : M}
      {m' : Mailer T M} :
      m.slot? k.pool i = some x → Multiplexer.add x.mux t = (.ok id, mux) →
        Changes m m' k.pool i (Slot.put mux) →
          Submits m (.admitted k i t) m' (.taken k i id) [⟨k.pool, i, id⟩]
  | refused {k : Ticket} {i : Nat} {t : Transfer} {x : Slot M} {e : TransportError} {mux : M}
      {m' : Mailer T M} :
      m.slot? k.pool i = some x → Multiplexer.add x.mux t = (.error e, mux) →
        Changes m m' k.pool i (Slot.put mux) → Submits m (.admitted k i t) m' (.declined k i) []
  | lost {k : Ticket} {i : Nat} {t : Transfer} :
      Submits m (.admitted k i t) m (.declined k i) []
  | attached {k : Ticket} {i : Nat} {id : TransferId} :
      Submits m (.taken k i id) (m.count .attached) (.attached k i) []
  | unlocked {k : Ticket} {i : Nat} {m' : Mailer T M} :
      Changes m m' k.pool i Slot.free → Submits m (.attached k i) m' (.leaving k) []
  | declined {k : Ticket} {i : Nat} {m' : Mailer T M} :
      Changes m m' k.pool i Slot.free → Submits m (.declined k i) m' (.failed k) []
  | rejected {k : Ticket} : Submits m (.failed k) (m.count .rejected) (.leaving k) []
  | left {k : Ticket} : Submits m (.leaving k) (m.discard k.number) .over []
  | over : Submits m .over m .over []

/-- The ticket found after an issue is the one just issued. -/
theorem submits_fresh {m : Mailer T M} (numbered : ∀ k ∈ m.tickets, k.number < m.nextTicket)
    (l : Letter) (now : String) : Submits m (.fresh l now)
      (Traffic.submit m (.fresh l now)).1 (Traffic.submit m (.fresh l now)).2.1
      (Traffic.submit m (.fresh l now)).2.2 := by
  cases hr : m.running with
  | false => simpa [Traffic.submit, issue, hr] using Submits.missed
  | true =>
    cases hc : m.current with
    | none => simpa [Traffic.submit, issue, hr, hc] using Submits.missed
    | some pool =>
      cases ha : m.account with
      | none => simpa [Traffic.submit, issue, hr, hc, ha] using Submits.missed
      | some a =>
        let k : Ticket := ⟨m.nextTicket, l, pool, a⟩
        have others : m.tickets.find? (fun t => t.number == m.nextTicket) = none := by
          rw [List.find?_eq_none]
          intro k hk
          simpa using Nat.ne_of_lt (numbered k hk)
        have found : (m.tickets ++ [k]).find? (fun t => t.number == m.nextTicket) = some k := by
          simp [List.find?_append, others, k]
        have noted : Submits m (.fresh l now)
            { m with tickets := m.tickets ++ [k], nextTicket := m.nextTicket + 1 }
            (.noted k now) [] := .noted hr hc rfl
        simpa [Traffic.submit, issue, hr, hc, ha, ticket?, found, k] using noted

theorem submits {m : Mailer T M} (numbered : ∀ k ∈ m.tickets, k.number < m.nextTicket)
    (s : SubmitterStage) : Submits m s (Traffic.submit m s).1 (Traffic.submit m s).2.1
      (Traffic.submit m s).2.2 := by
  cases s with
  | fresh l now => exact submits_fresh numbered l now
  | noted k now => exact .submitted
  | submitted k now =>
    cases hp : k.letter.prepare k.account m.dispatch.timeouts now with
    | ok t => simpa [Traffic.submit, hp] using Submits.prepared
    | error e => simpa [Traffic.submit, hp] using Submits.unfit
  | prepared k t i =>
    cases hx : m.slot? k.pool i with
    | none => simpa [Traffic.submit, hx] using Submits.passed
    | some x =>
      cases hl : m.tryLock k.pool i with
      | none => simpa [Traffic.submit, hx, hl] using Submits.passed
      | some m' =>
        obtain ⟨changes, y, hy, free⟩ := changes_tryLock hl
        simpa [Traffic.submit, hx, hl] using Submits.locked hy free changes
  | holding k i t =>
    cases hr : m.running with
    | true => simpa [Traffic.submit, hr] using Submits.admitted hr
    | false => simpa [Traffic.submit, hr] using Submits.late hr
  | admitted k i t =>
    cases hx : m.slot? k.pool i with
    | none => simpa [Traffic.submit, offer, hx] using Submits.lost
    | some x =>
      rcases ha : Multiplexer.add x.mux t with ⟨e | id, mux⟩
      · simpa [Traffic.submit, offer, hx, ha] using
          Submits.refused hx ha (changes_modifySlot m k.pool i fun _ => mux)
      · simpa [Traffic.submit, offer, hx, ha] using
          Submits.taken hx ha (changes_modifySlot m k.pool i fun _ => mux)
  | taken k i id => exact .attached
  | attached k i => exact .unlocked (changes_unlock m k.pool i)
  | declined k i => exact .declined (changes_unlock m k.pool i)
  | failed k => exact .rejected
  | leaving k => exact .left
  | «over» => exact .over

/-- A step of the poller over a pool: stage and mailer before and after, and what was reaped. -/
inductive Polls (m : Mailer T M) (pool : Nat) :
    PollerStage → Mailer T M → PollerStage → List Placement → Prop where
  | stopped {i : Nat} : m.running = false → Polls m pool (.before i) m .stopped []
  | moved {i j : Nat} : Polls m pool (.before i) m (.before j) []
  | locked {i : Nat} {x : Slot M} {m' : Mailer T M} :
      m.slot? pool i = some x → x.held = false → Changes m m' pool i Slot.hold →
        Polls m pool (.before i) m' (.holding i) []
  | waited {i : Nat} (limit : M → Duration) {m' : Mailer T M} :
      Changes m m' pool i (fun x => x.put (Multiplexer.wait x.mux (limit x.mux)).1) →
        Polls m pool (.holding i) m' (.waited i) []
  | performed {i : Nat} {m' : Mailer T M} :
      Changes m m' pool i (fun x => x.put (Multiplexer.perform x.mux).1) →
        Polls m pool (.waited i) m' (.reading i) []
  | unlocked {i : Nat} {m' : Mailer T M} :
      Changes m m' pool i Slot.free → Polls m pool (.reading i) m' (.before (i + 1)) []
  | reaped {i : Nat} {x : Slot M} {c : Completion} {mux : M} {m' : Mailer T M} :
      m.slot? pool i = some x → Multiplexer.next x.mux = some (c, mux) →
        Changes m m' pool i (Slot.put (Multiplexer.remove mux c.id).2) →
          Polls m pool (.reading i) (m'.count (Poller.counter c.outcome)) (.reading i)
            [⟨pool, i, c.id⟩]
  | idle : Polls m pool .stopped m .stopped []

theorem polls (m : Mailer T M) (pool : Nat) (p : PollerStage) : Polls m pool p
    (Traffic.poll m pool p).1 (Traffic.poll m pool p).2.1 (Traffic.poll m pool p).2.2 := by
  cases p with
  | before i =>
    cases hr : m.running with
    | false => simpa [Traffic.poll, hr] using Polls.stopped hr
    | true =>
      cases hx : m.slot? pool i with
      | none => simpa [Traffic.poll, hr, hx] using Polls.moved
      | some x =>
        cases hl : m.tryLock pool i with
        | none => simpa [Traffic.poll, hr, hx, hl] using Polls.moved
        | some m' =>
          obtain ⟨changes, y, hy, free⟩ := changes_tryLock hl
          simpa [Traffic.poll, hr, hx, hl] using Polls.locked hy free changes
  | holding i =>
    exact .waited (fun mux => (Multiplexer.timeout mux).getD m.dispatch.pollTimeout)
      (changes_modifySlot m pool i fun mux => (Multiplexer.wait mux
        ((Multiplexer.timeout mux).getD m.dispatch.pollTimeout)).1)
  | waited i =>
    exact .performed (changes_modifySlot m pool i fun mux => (Multiplexer.perform mux).1)
  | reading i =>
    cases hx : m.slot? pool i with
    | none => simpa [Traffic.poll, hx] using Polls.unlocked (changes_unlock m pool i)
    | some x =>
      rcases hn : Multiplexer.next x.mux with _ | ⟨c, mux⟩
      · simpa [Traffic.poll, hx, hn] using Polls.unlocked (changes_unlock m pool i)
      · simpa [Traffic.poll, hx, hn] using Polls.reaped hx hn (changes_modifySlot m pool i _)
  | stopped => exact .idle

end Steps

section Steps

variable [Transport T M]

open Mailer

/-- A step of the shutdown of a mailer whose poller drives `pool`, with the poller at `p`. -/
inductive Closes (m : Mailer T M) (pool : Nat) (p : PollerStage) :
    ShutdownStage → Mailer T M → ShutdownStage → Prop where
  | flagCleared : Closes m pool p .awaited { m with running := false } .flagCleared
  | poolTaken : Closes m pool p .flagCleared { m with current := none } .poolTaken
  | joins : Closes m pool p .poolTaken m .poolTaken
  | joined : p = .stopped → Closes m pool p .poolTaken m (.settling 0)
  | settled {i : Nat} : m.slot? pool i = none → Closes m pool p (.settling i) m .settled
  | waits {i : Nat} : Closes m pool p (.settling i) m (.settling i)
  | locked {i : Nat} {x : Slot M} {m' : Mailer T M} :
      m.slot? pool i = some x → x.held = false → Changes m m' pool i Slot.hold →
        Closes m pool p (.settling i) m' (.holding i)
  | unlocked {i : Nat} {m' : Mailer T M} :
      Changes m m' pool i Slot.free → Closes m pool p (.holding i) m' (.settling (i + 1))
  | reported : Closes m pool p .settled m (.reported m.stats.inFlight)
  | released {n : Nat} :
      Closes m pool p (.reported n) { m with poller := none }.releaseUnused (.released n)
  | tornDown {n : Nat} : Closes m pool p (.released n) m.tearDown (.finished n)
  | finished {n : Nat} : Closes m pool p (.finished n) m (.finished n)

theorem closes {m : Mailer T M} {pool : Nat} {c : ShutdownStage}
    (hp : c.hasReleased = false → m.poller = some pool) (p : PollerStage) :
    Closes m pool p c (Traffic.close m p c).1 (Traffic.close m p c).2 := by
  cases c with
  | awaited =>
    have driven : m.poller.isSome := by simp [hp rfl]
    rw [Traffic.close, if_pos driven]
    exact .flagCleared
  | flagCleared => exact .poolTaken
  | poolTaken =>
    by_cases stopped : p = .stopped
    · simp only [Traffic.close, stopped, if_true]
      exact .joined rfl
    · simp only [Traffic.close, stopped, if_false]
      exact .joins
  | settling i =>
    cases hx : m.slot? pool i with
    | none =>
      simp only [Traffic.close, hp rfl, hx]
      exact .settled hx
    | some x =>
      cases hl : m.tryLock pool i with
      | none =>
        simp only [Traffic.close, hp rfl, hx, hl]
        exact .waits
      | some m' =>
        obtain ⟨changes, y, hy, free⟩ := changes_tryLock hl
        simp only [Traffic.close, hp rfl, hx, hl]
        exact .locked hy free changes
  | holding i =>
    simp only [Traffic.close, hp rfl]
    exact .unlocked (changes_unlock m pool i)
  | settled => exact .reported
  | reported n => exact .released
  | released n => exact .tornDown
  | finished n => exact .finished

end Steps

end Outbox
