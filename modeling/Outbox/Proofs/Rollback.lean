import Outbox.Mailer.Lemmas
import Outbox.Mailer.Run

/-!
# Failures of the lifecycle are undone

An attempt to start can fail at any of several points, each after some of the work is done. Whatever
was acquired by then is released again, and the mailer is as it was before.

* `Transport.Makes`: a transport makes some multiplexers in a row. Allocation either makes them all,
  `Pool.allocateFrom_all`, or stops at the first failure, `Pool.allocateFrom_stopped`.
* `Mailer.StartFails`: the points at which an attempt fails, with what is reported there and what
  the transport was asked until then. `Mailer.start_cases`: an attempt fails at one of them, or
  launches a pool.
* `Mailer.run_calls`: what was asked of the transport before does not matter to anything later.
* `Mailer.failure_undone`: **an operation of the lifecycle that fails leaves everything but the
  transport as it was**, and what is done later goes as if it had never been tried.
-/

set_option autoImplicit false

namespace Outbox

variable {T M : Type}

/-! ## Allocation -/

/-- A transport makes some multiplexers, one after the other. -/
inductive Transport.Makes [Transport T M] : T → List M → T → Prop where
  | none (t : T) : Makes t [] t
  | next {t t' t'' : T} {m : M} {ms : List M} (h : Transport.allocate t = (.ok m, t'))
      (rest : Makes t' ms t'') : Makes t (m :: ms) t''

namespace Pool

variable [Transport T M]

theorem allocateFrom_all {t t' : T} {ms : List M} (h : Transport.Makes t ms t') (made : List M) :
    allocateFrom t made ms.length =
      ⟨.ok (made.reverse ++ ms), List.replicate ms.length (.allocate true), t'⟩ := by
  induction h generalizing made with
  | none t => simp [allocateFrom]
  | @next _ _ _ m ms h _ ih =>
    simp only [List.length_cons, allocateFrom, h, ih (m :: made)]
    simp [List.replicate_succ]

/-- The slots are counted from the first multiplexer on, and those made are released. -/
theorem allocateFrom_stopped {t t' t'' : T} {ms : List M} {e : TransportError}
    (h : Transport.Makes t ms t') (stop : Transport.allocate (M := M) t' = (.error e, t''))
    (made : List M) {n : Nat} (hn : ms.length < n) :
    allocateFrom t made n =
      ⟨.error (made.length + ms.length, e),
        List.replicate ms.length (.allocate true) ++
          .allocate false :: List.replicate (made.length + ms.length) .release, t''⟩ := by
  induction h generalizing made n with
  | none t =>
    obtain ⟨n, rfl⟩ : ∃ k, n = k + 1 := ⟨n - 1, (Nat.sub_add_cancel hn).symm⟩
    simp [allocateFrom, stop, List.map_const']
  | @next _ _ _ m ms h _ ih =>
    rw [List.length_cons] at hn
    obtain ⟨n, rfl⟩ : ∃ k, n = k + 1 := ⟨n - 1, by omega⟩
    simp only [allocateFrom, h, ih stop (m :: made) (Nat.lt_of_succ_lt_succ hn)]
    simp [List.replicate_succ, Nat.add_assoc, Nat.add_comm 1]

/-- So many multiplexers can be made, or making them stops at a failure. -/
theorem makes_or_stops (t : T) (n : Nat) :
    (∃ (ms : List M) (t' : T), Transport.Makes t ms t' ∧ ms.length = n) ∨
      ∃ (ms : List M) (t' t'' : T) (e : TransportError), Transport.Makes t ms t' ∧
        Transport.allocate (M := M) t' = (.error e, t'') ∧ ms.length < n := by
  induction n generalizing t with
  | zero => exact .inl ⟨[], t, .none t, rfl⟩
  | succ n ih =>
    rcases h : Transport.allocate (M := M) t with ⟨e | m, t₁⟩
    · exact .inr ⟨[], t, t₁, e, .none t, h, by simp⟩
    · rcases ih t₁ with ⟨ms, t', hm, hn⟩ | ⟨ms, t', t'', e, hm, he, hn⟩
      · exact .inl ⟨m :: ms, t', .next h hm, by simp [hn]⟩
      · exact .inr ⟨m :: ms, t', t'', e, .next h hm, he, by simpa using hn⟩

end Pool

namespace Mailer

/-! ## Starting -/

section Start

variable [Transport T M]

/-- What a transport is asked when the multiplexer behind `k` others cannot be made: the preparation
is undone once those are released. -/
def callsUpTo (k : Nat) : List TransportCall :=
  .setUp true :: (List.replicate k (.allocate true) ++
    .allocate false :: (List.replicate k .release ++ [.tearDown]))

/-- What a transport is asked when a pool is launched. -/
def callsToLaunch (n : Nat) : List TransportCall :=
  .setUp true :: List.replicate n (.allocate true)

/-- What a transport is asked when a pool of `n` slots is made for a poller that cannot be started. -/
def callsToWithdraw (n : Nat) : List TransportCall :=
  callsToLaunch n ++ (List.replicate n .release ++ [.tearDown])

/-- The points at which an attempt to start fails, what it reports there, and what it leaves. -/
inductive StartFails (m : Mailer T M) (p : Preferences) (fault : Option SystemFault) :
    LifecycleError → Mailer T M → Prop where
  | running (h : m.poller.isSome) : StartFails m p fault .alreadyRunning m
  | refused {f : SettingsError} (h : m.poller = none) (hv : p.validate = .error f) :
      StartFails m p fault (.settings f) m
  | unready {a : Account} {e : TransportError} {t : T} (h : m.poller = none)
      (hv : p.validate = .ok a) (hs : Transport.setUp m.transport = (.error e, t)) :
      StartFails m p fault (.transport e) (m.asked t [.setUp false])
  | short {a : Account} {t t' t'' : T} {ms : List M} {e : TransportError} (h : m.poller = none)
      (hv : p.validate = .ok a) (hs : Transport.setUp m.transport = (.ok (), t))
      (hm : Transport.Makes t ms t') (hk : ms.length < m.dispatch.poolSize.count)
      (he : Transport.allocate (M := M) t' = (.error e, t'')) :
      StartFails m p fault (.multiplexer ms.length e)
        (m.asked (Transport.tearDown t'') (callsUpTo ms.length))
  | unspawned {a : Account} {t t' : T} {ms : List M} {f : SystemFault} (h : m.poller = none)
      (hv : p.validate = .ok a) (hs : Transport.setUp m.transport = (.ok (), t))
      (hm : Transport.Makes t ms t') (hn : ms.length = m.dispatch.poolSize.count)
      (hf : fault = some f) :
      StartFails m p fault (.poller f)
        { m.asked (Transport.tearDown t') (callsToWithdraw ms.length) with
          running := false, current := none }

variable {p : Preferences} {fault : Option SystemFault}

theorem start_of_fails {m m' : Mailer T M} {e : LifecycleError}
    (h : StartFails m p fault e m') :
    (m.start p fault).1 = .error e ∧ (m.start p fault).2.1 = m' := by
  cases h with
  | running h => rw [start, if_pos h]; exact ⟨rfl, rfl⟩
  | refused h hv => rw [start, if_neg (by simp [h]), hv]; exact ⟨rfl, rfl⟩
  | unready h hv hs => rw [start, if_neg (by simp [h]), hv]; simp only [hs, and_self]
  | short h hv hs hm hk he =>
    have hp := Pool.allocateFrom_stopped hm he [] hk
    rw [List.length_nil, Nat.zero_add] at hp
    rw [start, if_neg (by simp [h]), hv]
    simp [hs, acquire, Pool.allocate, asked, hp, tearDown, callsUpTo]
  | unspawned h hv hs hm hn hf =>
    have hp := Pool.allocateFrom_all hm []
    rw [start, if_neg (by simp [h]), hv, hf]
    simp [hs, acquire, Pool.allocate, asked, ← hn, hp, withdraw, tearDown, callsToWithdraw,
      callsToLaunch, List.map_const']

theorem start_of_makes {m : Mailer T M} {a : Account} {t t' : T} {ms : List M}
    (h : m.poller = none) (hv : p.validate = .ok a)
    (hs : Transport.setUp m.transport = (.ok (), t)) (hm : Transport.Makes t ms t')
    (hn : ms.length = m.dispatch.poolSize.count) :
    (m.start p).1 = .ok () ∧
      (m.start p).2.1 = ((m.asked t' (callsToLaunch ms.length)).launch a ms).1 := by
  have hp := Pool.allocateFrom_all hm []
  rw [start, if_neg (by simp [h]), hv]
  simp [hs, acquire, Pool.allocate, asked, ← hn, hp, launch, callsToLaunch]

/-- An attempt to start fails at one of its points, or launches a pool of the size asked for. -/
theorem start_cases (m : Mailer T M) (p : Preferences) (fault : Option SystemFault) :
    (∃ e, (m.start p fault).1 = .error e ∧ StartFails m p fault e (m.start p fault).2.1) ∨
      ∃ (a : Account) (t t' : T) (ms : List M), m.poller = none ∧ p.validate = .ok a ∧
        Transport.setUp m.transport = (.ok (), t) ∧ Transport.Makes t ms t' ∧
        ms.length = m.dispatch.poolSize.count ∧ (m.start p fault).1 = .ok () ∧
        (m.start p fault).2.1 = ((m.asked t' (callsToLaunch ms.length)).launch a ms).1 := by
  have fails : ∀ {e m'}, StartFails m p fault e m' →
      ∃ e, (m.start p fault).1 = .error e ∧ StartFails m p fault e (m.start p fault).2.1 :=
    fun h => by
      obtain ⟨h1, h2⟩ := start_of_fails h
      exact ⟨_, h1, h2.symm ▸ h⟩
  cases hq : m.poller with
  | some id => exact .inl (fails (.running (by simp [hq])))
  | none =>
    cases hv : p.validate with
    | error f => exact .inl (fails (.refused hq hv))
    | ok a =>
      rcases hs : Transport.setUp m.transport with ⟨e | u, t⟩
      · exact .inl (fails (.unready hq hv hs))
      · rcases Pool.makes_or_stops t m.dispatch.poolSize.count with
          ⟨ms, t', hm, hn⟩ | ⟨ms, t', t'', e, hm, he, hk⟩
        · cases fault with
          | none => exact .inr ⟨a, t, t', ms, rfl, rfl, rfl, hm, hn, start_of_makes hq hv hs hm hn⟩
          | some f => exact .inl (fails (.unspawned hq hv hs hm hn rfl))
        · exact .inl (fails (.short hq hv hs hm hk he))

theorem start_fails_iff {m m' : Mailer T M} {e : LifecycleError} :
    (m.start p fault).1 = .error e ∧ (m.start p fault).2.1 = m' ↔ StartFails m p fault e m' := by
  refine ⟨fun ⟨he, hm⟩ => ?_, start_of_fails⟩
  rcases start_cases m p fault with ⟨e', he', hf⟩ | ⟨a, t, t', ms, _, _, _, _, _, hok, _⟩
  · rw [he', Except.error.injEq] at he
    exact he ▸ hm ▸ hf
  · rw [hok] at he
    cases he

omit [Transport T M] in
/-- Neither flag nor pool is set without a poller. -/
def Rests (m : Mailer T M) : Prop := m.poller = none → m.running = false ∧ m.current = none

/-- A failed attempt leaves its mark on the transport alone. -/
theorem StartFails.left {m m' : Mailer T M} {e : LifecycleError} (h : StartFails m p fault e m')
    (rests : fault = none ∨ m.Rests) : ∃ asked, m' = m.asked m'.transport asked := by
  cases h with
  | running => exact ⟨[], by simp [asked]⟩
  | refused => exact ⟨[], by simp [asked]⟩
  | unready => exact ⟨_, rfl⟩
  | short => exact ⟨_, rfl⟩
  | @unspawned a t t' ms f h hv hs hm hn hf =>
    obtain ⟨running, current⟩ := rests.resolve_left (by simp [hf]) h
    refine ⟨callsToWithdraw ms.length, ?_⟩
    rw [← running, ← current]
    rfl

omit [Transport T M] in
theorem reconfigure_fails_iff {m m' : Mailer T M} {p : Preferences} {e : LifecycleError} :
    (m.reconfigure p).1 = .error e ∧ (m.reconfigure p).2.1 = m' ↔
      ∃ f, p.validate = .error f ∧ e = .settings f ∧ m' = m := by
  cases hv : p.validate with
  | error f => simp [reconfigure, hv, eq_comm]
  | ok a => simp [reconfigure, hv]

end Start

/-! ## What was asked before -/

/-- The same mailer, with other calls behind it. -/
def withCalls (m : Mailer T M) (calls : List TransportCall) : Mailer T M := { m with calls := calls }

/-- What releasing the unused pools asks of the transport. -/
def releases (m : Mailer T M) : List TransportCall :=
  (m.pools.filter fun p => !m.isUsed p.1).flatMap fun p => p.2.slots.map fun _ => .release

section
variable [Transport T M]

theorem start_withCalls (m : Mailer T M) (p : Preferences) (fault : Option SystemFault) :
    ∃ asked, ∀ c, (m.withCalls c).start p fault =
      ((m.start p fault).1, (m.start p fault).2.1.withCalls (c ++ asked),
        (m.start p fault).2.2) := by
  unfold start
  by_cases h : m.poller.isSome
  · exact ⟨[], fun c => by simp [withCalls, h]⟩
  · cases hv : p.validate with
    | error f => exact ⟨[], fun c => by simp [withCalls, h]⟩
    | ok a =>
      rcases hs : Transport.setUp m.transport with ⟨e | u, t⟩
      · exact ⟨[.setUp false], fun c => by simp [withCalls, h, hs, asked]⟩
      · rcases hp : (Pool.allocate t m.dispatch.poolSize : Pool.Allocation T M) with
          ⟨⟨k, e⟩ | ms, calls, t'⟩
        · exact ⟨[.setUp true] ++ calls ++ [.tearDown], fun c => by
            simp [withCalls, h, hs, asked, acquire, hp, tearDown, tearDownEvents]⟩
        · cases fault with
          | none => exact ⟨[.setUp true] ++ calls, fun c => by
              simp [withCalls, h, hs, asked, acquire, hp, launch]⟩
          | some f =>
            exact ⟨[.setUp true] ++ calls ++ (ms.map fun _ => .release) ++ [.tearDown], fun c => by
              simp [withCalls, h, hs, asked, acquire, hp, withdraw, tearDown, tearDownEvents]⟩

theorem shutdown_withCalls (m : Mailer T M) : ∃ asked, ∀ c,
    (m.withCalls c).shutdown = (m.shutdown.1.withCalls (c ++ asked), m.shutdown.2) := by
  unfold shutdown
  by_cases h : m.poller.isNone
  · exact ⟨[], fun c => by simp [withCalls, h]⟩
  · refine ⟨({ m with running := false, current := none, poller := none } : Mailer T M).releases ++
      [.tearDown], fun c => ?_⟩
    have hc : ¬(m.withCalls c).poller.isNone := h
    rw [if_neg hc, if_neg h, ← List.append_assoc]
    rfl
end

theorem discard_withCalls (m : Mailer T M) (number : Nat) : ∃ asked, ∀ c,
    (m.withCalls c).discard number = (m.discard number).withCalls (c ++ asked) :=
  ⟨({ m with tickets := m.tickets.filter fun t => t.number != number } : Mailer T M).releases,
    fun _ => rfl⟩

theorem unlock_withCalls (m : Mailer T M) (c : List TransportCall) (pool i : Nat) :
    (m.withCalls c).unlock pool i = (m.unlock pool i).withCalls c := by
  simp only [unlock, pool?, withCalls]
  cases List.lookup pool m.pools <;> rfl

theorem lockAny_withCalls (m : Mailer T M) (c : List TransportCall) (pool : Nat) :
    (m.withCalls c).lockAny pool = (m.lockAny pool).map fun r => (r.1, r.2.withCalls c) := by
  simp only [lockAny, pool?, withCalls]
  cases List.lookup pool m.pools with
  | none => rfl
  | some p =>
    cases h : p.lockAny with
    | none => simp [h]
    | some r =>
      simp [h]
      rfl

variable [Multiplexer M]

theorem offer_withCalls (m : Mailer T M) (c : List TransportCall) (pool i : Nat) (t : Transfer) :
    (m.withCalls c).offer pool i t = ((m.offer pool i t).1, (m.offer pool i t).2.withCalls c) := by
  simp only [offer, slot?, modifySlot, pool?, withCalls]
  cases List.lookup pool m.pools with
  | none => rfl
  | some p =>
    simp only [Option.bind_eq_bind, Option.bind_some]
    cases p.slots[i]? <;> rfl

theorem attach_withCalls (m : Mailer T M) (c : List TransportCall) (l : Letter) (pool i : Nat)
    (t : Transfer) : (m.withCalls c).attach l pool i t =
      ((m.attach l pool i t).1.withCalls c, (m.attach l pool i t).2) := by
  simp only [attach, offer_withCalls, unlock_withCalls]
  show (if (!m.running) = true then _ else _) = _
  split
  · rfl
  · rcases m.offer pool i t with ⟨e | id, m'⟩
    · simp only [unlock_withCalls]
      rfl
    · exact Prod.ext (unlock_withCalls (m'.count .attached) c pool i) rfl

theorem redeem_withCalls (m : Mailer T M) (number : Nat) (now : String) : ∃ asked, ∀ c,
    (m.withCalls c).redeem number now =
      ((m.redeem number now).1.withCalls (c ++ asked), (m.redeem number now).2) := by
  have ticket : ∀ c, (m.withCalls c).ticket? number = m.ticket? number := fun _ => rfl
  cases hk : m.ticket? number with
  | none =>
    refine ⟨[], fun c => ?_⟩
    rw [redeem_unknown now hk, redeem_unknown now ((ticket c).trans hk), List.append_nil]
  | some k =>
    cases hp : k.letter.prepare k.account m.dispatch.timeouts now with
    | error e =>
      obtain ⟨asked, hd⟩ := discard_withCalls ((m.count .submitted).count .rejected) number
      refine ⟨asked, fun c => ?_⟩
      rw [redeem_unprepared hk hp, redeem_unprepared ((ticket c).trans hk) hp, ← hd c]
      rfl
    | ok t =>
      have hl : ∀ c, (m.withCalls c).lockAny k.pool = _ := fun c => lockAny_withCalls m c k.pool
      cases hm : m.lockAny k.pool with
      | none =>
        simp only [hm, Option.map_none] at hl
        refine ⟨[], fun c => ?_⟩
        rw [redeem_crowded hk hp hm, redeem_crowded ((ticket c).trans hk) hp (hl c),
          List.append_nil]
      | some r =>
        obtain ⟨i, locked⟩ := r
        simp only [hm, Option.map_some] at hl
        obtain ⟨asked, hd⟩ := discard_withCalls
          ((locked.count .submitted).attach k.letter k.pool i t).1 number
        refine ⟨asked, fun c => ?_⟩
        have ha := attach_withCalls (locked.count .submitted) c k.letter k.pool i t
        have hc : (locked.withCalls c).count .submitted = (locked.count .submitted).withCalls c :=
          rfl
        rw [redeem_locked hk hp hm, redeem_locked ((ticket c).trans hk) hp (hl c), hc, ha, hd c]

omit [Multiplexer M] in
theorem issue_withCalls (m : Mailer T M) (c : List TransportCall) (l : Letter) :
    (m.withCalls c).issue l = ((m.issue l).1, (m.issue l).2.1.withCalls c, (m.issue l).2.2) := by
  obtain ⟨_, _, account, running, current⟩ := m
  cases running <;> cases current <;> cases account <;> rfl

theorem pass_withCalls (m : Mailer T M) (c : List TransportCall) :
    (m.withCalls c).pass = (m.pass.1.withCalls c, m.pass.2) := by
  have pools : ∀ id, (m.withCalls c).pool? id = m.pool? id := fun _ => rfl
  have driven : (m.withCalls c).poller = m.poller := rfl
  unfold pass
  rw [driven]
  cases m.poller with
  | none => rfl
  | some id =>
    simp only [pools]
    cases m.pool? id <;> rfl

theorem send_withCalls (m : Mailer T M) (l : Letter) (now : String) : ∃ asked, ∀ c,
    (m.withCalls c).send l now =
      ((m.send l now).1.withCalls (c ++ asked), (m.send l now).2) := by
  simp only [send, issue_withCalls]
  rcases m.issue l with ⟨_ | number, m', events⟩
  · exact ⟨[], fun c => by rw [List.append_nil]⟩
  · obtain ⟨asked, h⟩ := redeem_withCalls m' number now
    exact ⟨asked, fun c => by simp only [h c]⟩

variable [Transport T M]

/-- What was asked of the transport before makes no difference to a move: it shows the same, and
asks for the same in addition. -/
theorem move_withCalls (m : Mailer T M) (v : Move) : ∃ asked, ∀ c,
    (m.withCalls c).move v = ((m.move v).1, (m.move v).2.withCalls (c ++ asked)) := by
  cases v with
  | issue l =>
    refine ⟨[], fun c => ?_⟩
    rw [move, issue_withCalls, List.append_nil]
    rfl
  | redeem number now =>
    obtain ⟨asked, h⟩ := redeem_withCalls m number now
    refine ⟨asked, fun c => ?_⟩
    rw [move, h c]
    rfl
  | whole o =>
    cases o with
    | start p fault =>
      obtain ⟨asked, h⟩ := start_withCalls m p fault
      refine ⟨asked, fun c => ?_⟩
      rw [move, operate, h c]
      rfl
    | reconfigure p =>
      refine ⟨[], fun c => ?_⟩
      simp only [move, operate, reconfigure, List.append_nil]
      cases p.validate <;> rfl
    | send l now =>
      obtain ⟨asked, h⟩ := send_withCalls m l now
      refine ⟨asked, fun c => ?_⟩
      rw [move, operate, h c]
      rfl
    | pass =>
      refine ⟨[], fun c => ?_⟩
      rw [move, operate, pass_withCalls, List.append_nil]
      rfl
    | shutdown =>
      obtain ⟨asked, h⟩ := shutdown_withCalls m
      refine ⟨asked, fun c => ?_⟩
      rw [move, operate, h c]
      rfl

theorem run_withCalls (m : Mailer T M) (vs : List Move) : ∃ asked, ∀ c,
    (m.withCalls c).run vs = ((m.run vs).1, (m.run vs).2.withCalls (c ++ asked)) := by
  induction vs generalizing m with
  | nil => exact ⟨[], fun c => by simp only [run, List.append_nil]⟩
  | cons v vs ih =>
    obtain ⟨now, h⟩ := move_withCalls m v
    obtain ⟨later, hs⟩ := ih (m.move v).2
    refine ⟨now ++ later, fun c => ?_⟩
    simp only [run, h c, hs, List.append_assoc]

/-! ## Failures -/

/-- What follows shows the same from either mailer, asks for the same, and leaves the same, but for
what was asked before. -/
def AlikeLater (m m' : Mailer T M) : Prop :=
  ∀ vs : List Move, (m'.run vs).1 = (m.run vs).1 ∧
    ∃ asked, (m.run vs).2.calls = m.calls ++ asked ∧
      (m'.run vs).2 = (m.run vs).2.withCalls (m'.calls ++ asked)

theorem alikeLater_withCalls (m : Mailer T M) (c : List TransportCall) :
    AlikeLater m (m.withCalls c) := by
  intro vs
  obtain ⟨asked, h⟩ := run_withCalls m vs
  have here : m.run vs = ((m.run vs).1, (m.run vs).2.withCalls (m.calls ++ asked)) := h m.calls
  refine ⟨by rw [h c], asked, ?_, by rw [h c]; rfl⟩
  rw [here]
  rfl

/-- **An operation of the lifecycle that fails is undone.** An attempt to start fails exactly at the
points of `StartFails`, with the error and the calls given there; a change of settings fails exactly
when they are refused. Either way account, flag, pools, tickets and counters stay as they were, and
what follows goes as if nothing had been tried, on the transport as it is by then. Where it is the
poller that cannot be started, this is because neither flag nor pool had been set. -/
theorem failure_undone (m m' : Mailer T M) (p : Preferences) (fault : Option SystemFault)
    (e : LifecycleError) :
    ((m.start p fault).1 = .error e ∧ (m.start p fault).2.1 = m' ↔ StartFails m p fault e m') ∧
      ((m.reconfigure p).1 = .error e ∧ (m.reconfigure p).2.1 = m' ↔
        ∃ f, p.validate = .error f ∧ e = .settings f ∧ m' = m) ∧
      (fault = none ∨ m.Rests → StartFails m p fault e m' →
        m' = { m with transport := m'.transport, calls := m'.calls } ∧
          AlikeLater { m with transport := m'.transport } m') := by
  refine ⟨start_fails_iff, reconfigure_fails_iff, fun rests h => ?_⟩
  obtain ⟨asked, left⟩ := h.left rests
  have kept : m' = { m with transport := m'.transport, calls := m'.calls } := by
    rw [left]
    rfl
  refine ⟨kept, ?_⟩
  have alike := alikeLater_withCalls { m with transport := m'.transport } m'.calls
  rwa [show Mailer.withCalls { m with transport := m'.transport } m'.calls = m' from kept.symm]
    at alike

end Mailer

end Outbox
