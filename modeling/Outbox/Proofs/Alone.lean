import Outbox.Proofs.Teardown
import Outbox.Traffic.Steps

/-!
# Parties on their own

While nobody else takes a step, the steps of a party come to what the mailer does at once.

* `Traffic.Leads`: some steps in a row.
* `Leads.submitter`, `Leads.poller`, `Leads.shutdown`: steps of one party are steps of the traffic.
* `Traffic.submitter_sends`: **a submitter on its own does what `Mailer.send` does**, once a slot is
  free for it.
* `Traffic.poller_passes`: **a poller on its own does what `Mailer.pass` does**, whoever holds which
  slot.
* `Traffic.shutdown_finishes`: **a shutdown does what `Mailer.shutdown` does**, once nobody holds a
  slot and the poller has seen the flag.
-/

set_option autoImplicit false

namespace Outbox

variable {T M : Type}

/-! ## A slot in its pool -/

namespace Pool

theorem modify_middle (front : List (Slot M)) (x : Slot M) (rest : List (Slot M))
    (f : Slot M → Slot M) :
    (⟨front ++ x :: rest⟩ : Pool M).modify front.length f = ⟨front ++ f x :: rest⟩ := by
  refine congrArg Pool.mk ?_
  induction front with
  | nil => rfl
  | cons y front ih => exact congrArg (y :: ·) ih

/-- All slots before the first free one are held. -/
theorem held_of_lockAny {p q : Pool M} {i : Nat} (h : p.lockAny = some (i, q)) :
    ∀ j < i, ∃ x, p.slots[j]? = some x ∧ x.held = true := by
  simp only [lockAny, Option.bind_eq_bind, Option.pure_def, Option.bind_eq_some_iff,
    Option.some.injEq, Prod.mk.injEq] at h
  obtain ⟨k, first, _, _, rfl, rfl⟩ := h
  obtain ⟨inside, -, before⟩ := List.findIdx?_eq_some_iff_getElem.mp first
  intro j hj
  have within : j < p.slots.length := Nat.lt_trans hj inside
  exact ⟨p.slots[j], List.getElem?_eq_getElem within, by simpa using before j hj⟩

end Pool

namespace Mailer

/-- A pool in place of itself changes nothing. -/
theorem setPool_self {m : Mailer T M} (unique : (m.pools.map Prod.fst).Nodup) {id : Nat}
    {p : Pool M} (found : m.pool? id = some p) : m.setPool id p = m := by
  have same : m.pools.map (fun q => if q.1 == id then (id, p) else q) = m.pools := by
    refine (List.map_congr_left fun q hq => ?_).trans (List.map_id _)
    by_cases here : q.1 = id
    · have known : m.pool? q.1 = some q.2 := lookup_of_mem unique hq
      subst here
      rw [if_pos (beq_self_eq_true _), ← Option.some.inj (known.symm.trans found)]
      rfl
    · rw [if_neg (by simpa using here)]
      rfl
  rw [setPool, same]

section

variable {m : Mailer T M} {id : Nat} {p : Pool M} (found : m.pool? id = some p)
  (front : List (Slot M)) (x : Slot M) (rest : List (Slot M))

include found

theorem pool?_put (q : Pool M) : (m.setPool id q).pool? id = some q := by
  rw [pool?_setPool, found]
  rfl

theorem slot?_put : (m.setPool id ⟨front ++ x :: rest⟩).slot? id front.length = some x := by
  simp [slot?, pool?_put found]

theorem tryLock_free (free : x.held = false) :
    (m.setPool id ⟨front ++ x :: rest⟩).tryLock id front.length =
      some (m.setPool id ⟨front ++ ⟨x.mux, true⟩ :: rest⟩) := by
  simp [tryLock, pool?_put found, Pool.tryLock, free, Pool.modify_middle,
    setPool_setPool]

theorem tryLock_held (held : x.held = true) :
    (m.setPool id ⟨front ++ x :: rest⟩).tryLock id front.length = none := by
  simp [tryLock, pool?_put found, Pool.tryLock, held]

theorem modifySlot_put (f : M → M) :
    (m.setPool id ⟨front ++ x :: rest⟩).modifySlot id front.length f =
      m.setPool id ⟨front ++ ⟨f x.mux, x.held⟩ :: rest⟩ := by
  rw [modifySlot_of_pool? (pool?_put found _), Pool.modify_middle, setPool_setPool]

theorem unlock_put : (m.setPool id ⟨front ++ x :: rest⟩).unlock id front.length =
    m.setPool id ⟨front ++ ⟨x.mux, false⟩ :: rest⟩ := by
  rw [unlock_of_pool? (pool?_put found _), Pool.unlock, Pool.modify_middle, setPool_setPool]

end

end Mailer

namespace Traffic

/-! ## Steps in a row -/

/-- Some steps in a row lead from one state to the other. -/
inductive Leads {σ : Type} (step : σ → σ) : σ → σ → Prop where
  | here {a : σ} : Leads step a a
  | next {a b c : σ} : step a = b → Leads step b c → Leads step a c

namespace Leads

theorem trans {σ : Type} {step : σ → σ} {a b c : σ} (h : Leads step a b) (h' : Leads step b c) :
    Leads step a c := by
  induction h with
  | here => exact h'
  | next one _ ih => exact .next one (ih h')

theorem one {σ : Type} {step : σ → σ} {a b : σ} (h : step a = b) : Leads step a b := .next h .here

end Leads

section Submitter

variable [Multiplexer M]

/-- A step of a submission, with the mailer and the stage that it leaves. -/
def submitting (s : Mailer T M × SubmitterStage) : Mailer T M × SubmitterStage :=
  ((submit s.1 s.2).1, (submit s.1 s.2).2.1)

/-- From a held slot on, the steps come to what `Mailer.attach` does at once, and the ticket is given
back. -/
theorem leads_holding (m : Mailer T M) (k : Ticket) (i : Nat) (t : Transfer) :
    Leads submitting (m, .holding k i t)
      ((m.attach k.letter k.pool i t).1.discard k.number, .over) := by
  have declined (m : Mailer T M) : Leads submitting (m, .declined k i)
      (((m.unlock k.pool i).count .rejected).discard k.number, .over) :=
    .next rfl (.next rfl (.next rfl .here))
  cases running : m.running with
  | false =>
    refine .next (b := (m, .declined k i)) (by simp [submitting, submit, running]) ?_
    simpa [Mailer.attach, running] using declined m
  | true =>
    refine .next (b := (m, .admitted k i t)) (by simp [submitting, submit, running]) ?_
    rcases offered : m.offer k.pool i t with ⟨e | id, m'⟩
    · refine .next (b := (m', .declined k i)) (by simp [submitting, submit, offered]) ?_
      simpa [Mailer.attach, running, offered] using declined m'
    · refine .next (b := (m', .taken k i id)) (by simp [submitting, submit, offered]) ?_
      have counted : Leads submitting (m', .taken k i id)
          (((m'.count .attached).unlock k.pool i).discard k.number, .over) :=
        .next rfl (.next rfl (.next rfl .here))
      simpa [Mailer.attach, running, offered] using counted

/-- Slot by slot, a submitter comes to the first free one. -/
theorem leads_prepared {m m' : Mailer T M} {k : Ticket} {i : Nat}
    (locks : m.lockAny k.pool = some (i, m')) (t : Transfer) :
    Leads submitting (m, .prepared k t 0) (m', .holding k i t) := by
  have held : ∀ j < i, ∃ x, m.slot? k.pool j = some x ∧ m.tryLock k.pool j = none := by
    simp only [Mailer.lockAny, Option.bind_eq_bind, Option.pure_def, Option.bind_eq_some_iff,
      Option.some.injEq, Prod.mk.injEq] at locks
    obtain ⟨p, found, ⟨_, q⟩, locked, rfl, -⟩ := locks
    intro j hj
    obtain ⟨x, hx, held⟩ := Pool.held_of_lockAny locked j hj
    exact ⟨x, by simp [Mailer.slot?, found, hx], by simp [Mailer.tryLock, found, Pool.tryLock, hx, held]⟩
  have comes : ∀ j ≤ i, Leads submitting (m, .prepared k t 0) (m, .prepared k t j) := by
    intro j
    induction j with
    | zero => exact fun _ => .here
    | succ j ih =>
      intro hj
      obtain ⟨x, hx, busy⟩ := held j hj
      exact (ih (Nat.le_of_succ_le hj)).trans (.one (by simp [submitting, submit, hx, busy]))
  have lock := Mailer.tryLock_of_lockAny locks
  obtain ⟨-, x, hx, -⟩ := Mailer.changes_tryLock lock
  exact (comes i (Nat.le_refl i)).trans (.one (by simp [submitting, submit, hx, lock]))

/-- From a ticket on, the steps come to what `Mailer.redeem` does at once. -/
theorem leads_noted {m : Mailer T M} {k : Ticket} (known : m.ticket? k.number = some k)
    (free : (m.lockAny k.pool).isSome = true) (now : String) :
    Leads submitting (m, .noted k now) ((m.redeem k.number now).1, .over) := by
  obtain ⟨⟨i, m'⟩, locks⟩ := Option.isSome_iff_exists.mp free
  refine .next (b := (m.count .submitted, .submitted k now)) rfl ?_
  have limits : (m.count .submitted).dispatch = m.dispatch := rfl
  cases prepared : k.letter.prepare k.account m.dispatch.timeouts now with
  | error e =>
    rw [Mailer.redeem_unprepared known prepared]
    refine .next (b := (m.count .submitted, .failed k)) ?_ (.next rfl (.next rfl .here))
    simp [submitting, submit, limits, prepared]
  | ok t =>
    have counted : (m.count .submitted).lockAny k.pool = some (i, m'.count .submitted) := by
      rw [Mailer.lockAny_count, locks]
      rfl
    rw [Mailer.redeem_locked known prepared locks]
    refine .next (b := (m.count .submitted, .prepared k t 0)) ?_
      ((leads_prepared counted t).trans (leads_holding ..))
    simp [submitting, submit, limits, prepared]

/-- From the letter on, they come to what `Mailer.send` does. -/
theorem leads_fresh {m : Mailer T M} (numbered : ∀ k ∈ m.tickets, k.number < m.nextTicket)
    (free : ∀ pool, m.current = some pool → (m.lockAny pool).isSome = true) (l : Letter)
    (now : String) : Leads submitting (m, .fresh l now) ((m.send l now).1, .over) := by
  rcases issued : m.issue l with ⟨_ | number, m', events⟩
  · have sent : (m.send l now).1 = m' := by simp [Mailer.send, issued]
    rw [sent]
    exact .one (by simp [submitting, submit, issued])
  · have sent : (m.send l now).1 = (m'.redeem number now).1 := by simp [Mailer.send, issued]
    have given : (m.issue l).1 = some number := by rw [issued]
    obtain ⟨pool, a, current, rfl, noted⟩ := Mailer.issue_some given
    obtain rfl : m' = _ := (congrArg (·.2.1) issued).symm.trans noted
    let k : Ticket := ⟨m.nextTicket, l, pool, a⟩
    have others : m.tickets.find? (fun t => t.number == m.nextTicket) = none := by
      rw [List.find?_eq_none]
      intro t ht
      simpa using Nat.ne_of_lt (numbered t ht)
    let m' : Mailer T M := { m with tickets := m.tickets ++ [k], nextTicket := m.nextTicket + 1 }
    have known : m'.ticket? k.number = some k := by
      simp [Mailer.ticket?, List.find?_append, others, m', k]
    have same : (m'.lockAny k.pool).isSome = (m.lockAny pool).isSome := by
      simp only [Mailer.lockAny, Mailer.pool?, m', k]
      cases List.lookup pool m.pools with
      | none => rfl
      | some p => cases h : p.lockAny <;> simp [h]
    rw [sent]
    refine .next (b := (m', .noted k now)) ?_ (leads_noted known (same.trans (free pool current)) now)
    simp only [submitting, submit, issued]
    rw [show Mailer.ticket? _ m.nextTicket = some k from known]

/-- Steps of a submission are steps of its submitter. -/
theorem Leads.submitter [Transport T M] {i : Nat} {a b : Mailer T M × SubmitterStage}
    (h : Leads submitting a b) : ∀ w : Traffic T M, w.mailer = a.1 → w.submitters[i]? = some a.2 →
      ∃ n accepted, w.run (List.replicate n (.submitter i)) =
        { w with mailer := b.1, submitters := w.submitters.set i b.2, accepted := accepted } := by
  induction h with
  | here =>
    rintro w mailer stage
    refine ⟨0, w.accepted, ?_⟩
    obtain ⟨inside, same⟩ := List.getElem?_eq_some_iff.mp stage
    rw [← mailer, ← same, List.set_getElem_self]
    rfl
  | @next a b c one _ ih =>
    intro w mailer stage
    have moved : ∃ accepted, w.step (.submitter i) =
        { w with mailer := b.1, submitters := w.submitters.set i b.2, accepted := accepted } := by
      rw [← one, submitting, ← mailer, step, stage]
      exact ⟨_, rfl⟩
    obtain ⟨accepted, moved⟩ := moved
    have inside := (List.getElem?_eq_some_iff.mp stage).1
    obtain ⟨n, accepted', rest⟩ := ih (w.step (.submitter i)) (by rw [moved])
      (by rw [moved]; exact List.getElem?_set_self inside)
    refine ⟨n + 1, accepted', ?_⟩
    rw [List.replicate_succ, run, List.foldl_cons]
    refine rest.trans ?_
    rw [moved, List.set_set]

/-- **A submitter on its own does what `Mailer.send` does**, if the pool in use has a free slot. -/
theorem submitter_sends [Transport T M] {w : Traffic T M} {i : Nat} {l : Letter} {now : String}
    (stage : w.submitters[i]? = some (.fresh l now))
    (numbered : ∀ k ∈ w.mailer.tickets, k.number < w.mailer.nextTicket)
    (free : ∀ pool, w.mailer.current = some pool → (w.mailer.lockAny pool).isSome = true) :
    ∃ n accepted, w.run (List.replicate n (.submitter i)) =
      { w with
        mailer := (w.mailer.send l now).1
        submitters := w.submitters.set i .over
        accepted := accepted } :=
  (leads_fresh numbered free l now).submitter w rfl stage

end Submitter

section Poller

variable [Multiplexer M]

/-- A step of the poller over a pool, with the mailer and the stage that it leaves. -/
def polling (pool : Nat) (s : Mailer T M × PollerStage) : Mailer T M × PollerStage :=
  ((poll s.1 pool s.2).1, (poll s.1 pool s.2).2.1)

variable {m : Mailer T M} {pool : Nat} {p : Pool M} (found : m.pool? pool = some p)
  (front rest : List (Slot M))

include found

/-- Reading to the end is `Poller.reap`, and the slot is let go. -/
theorem leads_reading (mux : M) {stats : Stats} (counted : m.stats = stats) :
    let r := Poller.reap front.length mux stats
    let left : Slot M := ⟨r.1, false⟩
    Leads (polling pool) (m.setPool pool ⟨front ++ ⟨mux, true⟩ :: rest⟩, .reading front.length)
      ({ m with stats := r.2.1 }.setPool pool ⟨front ++ left :: rest⟩,
        .before (front.length + 1)) := by
  fun_induction Poller.reap front.length mux stats generalizing m with
  | case1 mux stats empty =>
    subst counted
    refine .one ?_
    simp only [polling, poll, Mailer.slot?_put found, Option.bind_some, empty,
      Mailer.unlock_put found]
  | case2 mux stats c mux' told left counted' work reaped ih =>
    let m' := m.count (Poller.counter c.outcome)
    have same : m'.stats = stats.count (Poller.counter c.outcome) := counted ▸ rfl
    have later := ih (m := m') found same
    rw [reaped] at later
    refine .next (b := (m'.setPool pool ⟨front ++ ⟨(Multiplexer.remove mux' c.id).2, true⟩ :: rest⟩,
      .reading front.length)) ?_ later
    simp only [polling, poll, Mailer.slot?_put found, Option.bind_some, told,
      Mailer.modifySlot_put found]
    rfl

/-- A free slot is given its time and reaped, as `Poller.visit` does it. -/
theorem leads_visit (running : m.running = true) {x : Slot M} (free : x.held = false) :
    let v := Poller.visit m.dispatch.pollTimeout front.length x.mux m.stats
    let left : Slot M := ⟨v.1, false⟩
    Leads (polling pool) (m.setPool pool ⟨front ++ x :: rest⟩, .before front.length)
      ({ m with stats := v.2.1 }.setPool pool ⟨front ++ left :: rest⟩,
        .before (front.length + 1)) := by
  let limit := (Multiplexer.timeout x.mux).getD m.dispatch.pollTimeout
  let waited := (Multiplexer.wait x.mux limit).1
  let performed := (Multiplexer.perform waited).1
  let put (mux : M) (held : Bool) := m.setPool pool ⟨front ++ ⟨mux, held⟩ :: rest⟩
  have on : (m.setPool pool ⟨front ++ x :: rest⟩).running = true := running
  refine .next (b := (put x.mux true, .holding front.length)) ?_
    (.next (b := (put waited true, .waited front.length)) ?_
      (.next (b := (put performed true, .reading front.length)) ?_
        (leads_reading found front rest performed rfl)))
  · simp [polling, poll, on, Mailer.slot?_put found, Mailer.tryLock_free found _ _ _ free, put]
  · simp only [polling, poll, put, Mailer.modifySlot_put found]
    rfl
  · simp only [polling, poll, put, Mailer.modifySlot_put found, performed]

/-- Slot by slot, the poller goes over the rest of its pool as `Poller.pass` does it. -/
theorem leads_pass (running : m.running = true) :
    let r := Poller.pass m.dispatch.pollTimeout front.length rest m.stats rest.length
    Leads (polling pool) (m.setPool pool ⟨front ++ rest⟩, .before front.length)
      ({ m with stats := r.stats }.setPool pool ⟨front ++ r.slots⟩,
        .before (front.length + rest.length)) := by
  induction rest generalizing m front with
  | nil => exact .here
  | cons x rest ih =>
    have behind (y : Slot M) (slots : List (Slot M)) : front ++ y :: slots = front ++ [y] ++ slots := by
      simp
    have counted (y : Slot M) : (front ++ [y]).length = front.length + 1 := by simp
    have total : front.length + (x :: rest).length = front.length + 1 + rest.length := by
      rw [List.length_cons]
      omega
    rw [total]
    cases held : x.held with
    | true =>
      have later := ih found (front ++ [x]) running
      rw [counted] at later
      refine .next (b := (m.setPool pool ⟨front ++ x :: rest⟩, .before (front.length + 1))) ?_ ?_
      · have on : (m.setPool pool ⟨front ++ x :: rest⟩).running = true := running
        simp [polling, poll, on, Mailer.slot?_put found, Mailer.tryLock_held found _ _ _ held]
      · simpa [Poller.pass, held] using later
    | false =>
      let v := Poller.visit m.dispatch.pollTimeout front.length x.mux m.stats
      let y : Slot M := ⟨v.1, false⟩
      have later := ih (m := { m with stats := v.2.1 }) found (front ++ [y]) running
      rw [counted] at later
      refine (leads_visit found front rest running held).trans ?_
      simpa [Poller.pass, held, v, y] using later

end Poller

section

variable [Multiplexer M]

theorem poller_poll (m : Mailer T M) (pool : Nat) (p : PollerStage) :
    (poll m pool p).1.poller = m.poller := by
  have h := polls m pool p
  generalize (poll m pool p).1 = m', (poll m pool p).2.1 = p', (poll m pool p).2.2 = read at h
  cases h with
  | stopped => rfl
  | moved => rfl
  | locked _ _ changes => exact changes.poller
  | waited _ changes => exact changes.poller
  | performed changes => exact changes.poller
  | unlocked changes => exact changes.poller
  | reaped _ _ changes => exact changes.poller
  | idle => rfl

variable [Transport T M]

/-- Steps over the pool of the poller are steps of the poller. -/
theorem Leads.poller {pool : Nat} {a b : Mailer T M × PollerStage} (h : Leads (polling pool) a b) :
    ∀ w : Traffic T M, w.mailer.poller = some pool → w.mailer = a.1 → w.poller = a.2 →
      ∃ n reaped, w.run (List.replicate n .poller) =
        { w with mailer := b.1, poller := b.2, reaped := reaped } := by
  induction h with
  | here =>
    intro w _ mailer stage
    refine ⟨0, w.reaped, ?_⟩
    rw [← mailer, ← stage]
    rfl
  | @next a b c one _ ih =>
    intro w driven mailer stage
    have moved : ∃ reaped, w.step .poller =
        { w with mailer := b.1, poller := b.2, reaped := reaped } := by
      rw [← one, polling, ← mailer, ← stage, step, driven]
      exact ⟨_, rfl⟩
    obtain ⟨reaped, moved⟩ := moved
    have still : (w.step .poller).mailer.poller = some pool := by
      rw [moved, ← one, polling, ← mailer]
      exact (poller_poll ..).trans driven
    obtain ⟨n, reaped', rest⟩ := ih (w.step .poller) still (by rw [moved]) (by rw [moved])
    refine ⟨n + 1, reaped', ?_⟩
    rw [List.replicate_succ, run, List.foldl_cons]
    refine rest.trans ?_
    rw [moved]

/-- **A poller on its own does what `Mailer.pass` does**, whoever holds which slot. -/
theorem poller_passes {w : Traffic T M} {pool : Nat} {p : Pool M}
    (unique : (w.mailer.pools.map Prod.fst).Nodup) (running : w.mailer.running = true)
    (driven : w.mailer.poller = some pool) (found : w.mailer.pool? pool = some p)
    (stage : w.poller = .before 0) :
    ∃ n reaped, w.run (List.replicate n .poller) =
      { w with mailer := w.mailer.pass.1, poller := .before 0, reaped := reaped } := by
  let m := w.mailer
  let r := Poller.pass m.dispatch.pollTimeout 0 p.slots m.stats p.size
  have all : Leads (polling pool) (m.setPool pool p, .before 0)
      ({ m with stats := r.stats }.setPool pool ⟨r.slots⟩, .before (0 + p.size)) :=
    leads_pass found [] p.slots running
  rw [Mailer.setPool_self unique found] at all
  have passed : m.pass.1 = { m with stats := r.stats }.setPool pool ⟨r.slots⟩ := by
    have driven : m.poller = some pool := driven
    have found : m.pool? pool = some p := found
    conv => lhs; simp only [Mailer.pass, driven, found]
    rfl
  rw [← passed] at all
  have on : m.pass.1.running = true := by rw [passed]; exact running
  have size : r.slots.length = p.size := by
    have held := congrArg List.length
      (Poller.held_pass m.dispatch.pollTimeout 0 p.slots m.stats p.size)
    rwa [List.length_map, List.length_map] at held
  have behind : m.pass.1.slot? pool (0 + p.size) = none := by
    have found : { m with stats := r.stats }.pool? pool = some p := found
    rw [passed]
    simp [Mailer.slot?, Mailer.pool?_put found, size]
  -- behind the last slot the poller turns back
  have back : polling pool (m.pass.1, .before (0 + p.size)) = (m.pass.1, .before 0) := by
    rw [polling, poll, on, behind]
    rfl
  exact (all.trans (.one back)).poller w driven rfl stage

end

section Shutdown

variable [Transport T M]

/-- A step of a shutdown once the poller has stopped. -/
def closing (s : Mailer T M × ShutdownStage) : Mailer T M × ShutdownStage :=
  close s.1 .stopped s.2

/-- Each free slot is held once and let go. -/
theorem leads_settling {m : Mailer T M} {pool : Nat} {p : Pool M} (driven : m.poller = some pool)
    (found : m.pool? pool = some p) (front rest : List (Slot M))
    (free : ∀ x ∈ rest, x.held = false) :
    Leads closing (m.setPool pool ⟨front ++ rest⟩, .settling front.length)
      (m.setPool pool ⟨front ++ rest⟩, .settled) := by
  have still (slots : List (Slot M)) : (m.setPool pool ⟨slots⟩).poller = some pool := driven
  induction rest generalizing front with
  | nil =>
    have behind : (m.setPool pool ⟨front⟩).slot? pool front.length = none := by
      simp [Mailer.slot?, Mailer.pool?_put found]
    rw [List.append_nil]
    exact .one (by simp [closing, close, still, behind])
  | cons x rest ih =>
    rw [List.forall_mem_cons] at free
    obtain ⟨mux, held⟩ := x
    obtain rfl : held = false := free.1
    have later := ih (front ++ [⟨mux, false⟩]) free.2
    simp only [List.append_assoc, List.singleton_append, List.length_append,
      List.length_singleton] at later
    refine .next (b := (m.setPool pool ⟨front ++ ⟨mux, true⟩ :: rest⟩, .holding front.length)) ?_
      (.next (b := (m.setPool pool ⟨front ++ ⟨mux, false⟩ :: rest⟩, .settling (front.length + 1)))
        ?_ later)
    · simp [closing, close, still, Mailer.slot?_put found, Mailer.tryLock_free found]
    · simp [closing, close, still, Mailer.unlock_put found]

variable [Multiplexer M]

/-- Steps of a shutdown, once the poller has stopped, are steps of the traffic. -/
theorem Leads.shutdown {a b : Mailer T M × ShutdownStage} (h : Leads closing a b) :
    ∀ w : Traffic T M, w.poller = .stopped → w.mailer = a.1 → w.shutdown = a.2 →
      ∃ n, w.run (List.replicate n .shutdown) = { w with mailer := b.1, shutdown := b.2 } := by
  induction h with
  | here =>
    intro w _ mailer stage
    refine ⟨0, ?_⟩
    rw [← mailer, ← stage]
    rfl
  | @next a b c one _ ih =>
    intro w stopped mailer stage
    have moved : w.step .shutdown = { w with mailer := b.1, shutdown := b.2 } := by
      rw [← one, closing, ← mailer, ← stage, ← stopped]
      rfl
    obtain ⟨n, rest⟩ := ih (w.step .shutdown) (by rw [moved]; exact stopped) (by rw [moved])
      (by rw [moved])
    refine ⟨n + 1, ?_⟩
    rw [List.replicate_succ, run, List.foldl_cons]
    refine rest.trans ?_
    rw [moved]

/-- **A shutdown does what `Mailer.shutdown` does**, if the poller stands between two slots, looks at
the flag once it is cleared, and nobody holds a slot. -/
theorem shutdown_finishes {w : Traffic T M} {pool i : Nat} {p : Pool M}
    (unique : (w.mailer.pools.map Prod.fst).Nodup) (driven : w.mailer.poller = some pool)
    (found : w.mailer.pool? pool = some p) (settled : p.isSettled = true)
    (between : w.poller = .before i) (awaited : w.shutdown = .awaited) :
    ∃ n, w.run (.shutdown :: .poller :: List.replicate n .shutdown) =
      { w with
        mailer := w.mailer.shutdown.1
        poller := .stopped
        shutdown := .finished w.mailer.stats.inFlight } := by
  let off : Mailer T M := { w.mailer with running := false }
  let m : Mailer T M := { off with current := none }
  let stopped : Traffic T M := { w with mailer := off, poller := .stopped, shutdown := .flagCleared }
  have stops : (w.step .shutdown).step .poller = stopped := by
    simp [step, close, awaited, driven, poll, between, stopped, off]
  have free : ∀ x ∈ p.slots, x.held = false := by
    simpa [Pool.isSettled] using settled
  have waited : Leads closing (m, .settling 0) (m, .settled) := by
    have slots := leads_settling (m := m) driven found [] p.slots free
    have same : m.setPool pool ⟨[] ++ p.slots⟩ = m := Mailer.setPool_self (m := m) unique found
    rwa [same] at slots
  have shut : w.mailer.shutdown.1 = { m with poller := none }.releaseUnused.tearDown := by
    simp only [Mailer.shutdown, driven]
    rfl
  have closed : Leads closing (off, .flagCleared)
      (w.mailer.shutdown.1, .finished w.mailer.stats.inFlight) := by
    rw [shut]
    refine .next (b := (m, .poolTaken)) rfl (.next (b := (m, .settling 0)) rfl (waited.trans ?_))
    exact .next rfl (.next rfl (.next rfl .here))
  obtain ⟨n, rest⟩ := closed.shutdown stopped rfl rfl rfl
  refine ⟨n, ?_⟩
  rw [run, List.foldl_cons, List.foldl_cons, stops]
  exact rest

end Shutdown

end Traffic

end Outbox
