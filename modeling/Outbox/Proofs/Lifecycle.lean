import Outbox.Proofs.Rollback

/-!
# The lifecycle of a mailer

Flag, pool, poller and account move together, and what the transport is asked adds up, whatever is
done to a mailer in whatever order.

* `Mailer.Idle`, `Mailer.Serving`: the two ways in which a mailer stands between operations.
* `Mailer.Stands.operate`: every operation leads from one of them to one of them.
* `Mailer.lifecycle_stands`: **after any operations a mailer serves or is idle**: it has a pool of
  the size asked for, a poller and an account exactly while the flag is set, and else nothing is
  alive; only an idle mailer starts, only a serving one shuts down.
-/

set_option autoImplicit false

namespace Outbox

variable {T M : Type}

/-! ## Calls that add up -/

/-- The transport is prepared `ups` times more often than undone, and `n` multiplexers are made and
not released. -/
structure TransportCall.Leaves (calls : List TransportCall) (ups n : Nat) : Prop where
  setUps : setUps calls = tearDowns calls + ups
  made : calls.count (.allocate true) = calls.count .release + n

namespace TransportCall.Leaves

variable {calls : List TransportCall}

/-- A failed attempt leaves as much as there was. -/
theorem callsUpTo {ups n : Nat} (h : Leaves calls ups n) (k : Nat) :
    Leaves (calls ++ Mailer.callsUpTo k) ups n := by
  obtain ⟨hs, hm⟩ := h
  constructor
  · simp only [TransportCall.setUps, tearDowns] at hs ⊢
    simp [Mailer.callsUpTo, List.count_replicate, hs]
    omega
  · simp [Mailer.callsUpTo, List.count_replicate, hm]
    omega

theorem callsToLaunch {k : Nat} (h : Leaves calls 0 k) (n : Nat) :
    Leaves (calls ++ Mailer.callsToLaunch n) 1 (n + k) := by
  obtain ⟨hs, hm⟩ := h
  constructor
  · simp only [TransportCall.setUps, tearDowns] at hs ⊢
    simp [Mailer.callsToLaunch, List.count_replicate, hs]
  · simp [Mailer.callsToLaunch, List.count_replicate, hm]
    omega

theorem refusal {ups n : Nat} (h : Leaves calls ups n) : Leaves (calls ++ [.setUp false]) ups n := by
  obtain ⟨hs, hm⟩ := h
  constructor
  · simpa [TransportCall.setUps, tearDowns] using hs
  · simpa using hm

theorem release {ups n k : Nat} (h : Leaves calls ups (n + k)) :
    Leaves (calls ++ List.replicate n .release) ups k := by
  obtain ⟨hs, hm⟩ := h
  constructor
  · simp only [TransportCall.setUps, tearDowns] at hs ⊢
    simp [List.count_replicate, hs]
  · simp [List.count_replicate, hm]
    omega

theorem tearDown {n : Nat} (h : Leaves calls 1 n) : Leaves (calls ++ [.tearDown]) 0 n := by
  obtain ⟨hs, hm⟩ := h
  constructor
  · simp only [TransportCall.setUps, tearDowns] at hs ⊢
    simp [hs]
  · simp [hm]

/-- A pool that is made in vain leaves as much as there was. -/
theorem callsToWithdraw {k : Nat} (h : Leaves calls 0 k) (n : Nat) :
    Leaves (calls ++ Mailer.callsToWithdraw n) 0 k := by
  have left := (h.callsToLaunch n).release.tearDown
  rw [List.append_assoc, List.append_assoc] at left
  exact left

end TransportCall.Leaves

/-! ## Slots that nobody holds -/

namespace Pool

theorem size_modify (p : Pool M) (i : Nat) (f : Slot M → Slot M) : (p.modify i f).size = p.size := by
  simp [size, modify]

theorem isSettled_eq (p : Pool M) : p.isSettled = (p.slots.map Slot.held).all (!·) := by
  simp only [isSettled, List.all_map]
  rfl

/-- Nobody holds a slot if only one was changed, and was let go in the end. -/
theorem isSettled_modify {p : Pool M} (h : p.isSettled) {f : Slot M → Slot M}
    (hf : ∀ s, (f s).held = false) (i : Nat) : (p.modify i f).isSettled := by
  simp only [isSettled, modify, List.all_eq_true, Bool.not_eq_eq_eq_not, Bool.not_true] at h ⊢
  intro s hs
  obtain ⟨j, hj⟩ := List.getElem?_of_mem hs
  rw [List.getElem?_modify] at hj
  obtain ⟨s', hs', hj⟩ := Option.map_eq_some_iff.mp hj
  split at hj
  · exact hj ▸ hf s'
  · exact hj ▸ h s' (List.mem_of_getElem? hs')

theorem modify_modify (p : Pool M) (i : Nat) (f g : Slot M → Slot M) :
    (p.modify i f).modify i g = p.modify i fun s => g (f s) := by
  simp only [modify, List.modify_modify_eq]
  rfl

theorem isSettled_ofList (ms : List M) : (ofList ms).isSettled := by
  simp [isSettled, ofList]

/-- While nobody holds a slot, the first one is to be had. -/
theorem lockAny_of_isSettled {p : Pool M} (h : p.isSettled) (pos : 0 < p.size) :
    p.lockAny = some (0, p.modify 0 fun s => { s with held := true }) := by
  obtain ⟨_ | ⟨s, rest⟩⟩ := p
  · simp [size] at pos
  · have hs : s.held = false := by
      simp only [isSettled, List.all_cons, Bool.and_eq_true, Bool.not_eq_eq_eq_not,
        Bool.not_true] at h
      exact h.1
    simp [lockAny, firstFree, tryLock, List.findIdx?_cons, hs]

end Pool

/-- A pass leaves every slot held or free as it was. -/
theorem Poller.held_pass [Multiplexer M] (standard : Duration) (index : Nat)
    (slots : List (Slot M)) (stats : Stats) (looks : Nat) :
    (pass standard index slots stats looks).slots.map Slot.held = slots.map Slot.held := by
  induction slots generalizing index stats looks with
  | nil => simp [pass]
  | cons s rest ih =>
    cases looks with
    | zero => simp [pass]
    | succ looks =>
      simp only [pass]
      split
      · simp only [List.map_cons, ih]
      · simp only [List.map_cons, ih]

namespace Mailer

/-! ## Between operations -/

/-- Nothing runs, and nothing is alive. -/
structure Idle (d : DispatchSettings) (m : Mailer T M) : Prop where
  dispatch : m.dispatch = d
  running : m.running = false
  current : m.current = none
  poller : m.poller = none
  pools : m.pools = []
  tickets : m.tickets = []
  calls : TransportCall.Leaves m.calls 0 0

/-- The poller drives the only pool there is, and submissions find it. -/
structure Serving (d : DispatchSettings) (m : Mailer T M) (id : Nat) (p : Pool M) : Prop where
  dispatch : m.dispatch = d
  running : m.running = true
  current : m.current = some id
  poller : m.poller = some id
  account : m.account.isSome = true
  pools : m.pools = [(id, p)]
  tickets : m.tickets = []
  size : p.size = d.poolSize.count
  settled : p.isSettled = true
  calls : TransportCall.Leaves m.calls 1 p.size

/-- How a mailer stands between operations. -/
def Stands (d : DispatchSettings) (m : Mailer T M) : Prop := Idle d m ∨ ∃ id p, Serving d m id p

theorem stands_new (transport : T) (d : DispatchSettings) :
    Stands d (new transport d : Mailer T M) :=
  .inl ⟨rfl, rfl, rfl, rfl, rfl, rfl, rfl, rfl⟩

section

variable {d : DispatchSettings} {m : Mailer T M} {id : Nat} {p : Pool M}

theorem Serving.pool? (h : Serving d m id p) : m.pool? id = some p := by
  simp [Mailer.pool?, h.pools]

/-- Between operations neither flag nor pool is set without a poller. -/
theorem Stands.rests (h : Stands d m) : m.Rests := by
  intro hq
  rcases h with hi | ⟨id, p, hs⟩
  · exact ⟨hi.running, hi.current⟩
  · simp [hs.poller] at hq

variable [Transport T M]

theorem StartFails.stands {m' : Mailer T M} {p : Preferences} {fault : Option SystemFault}
    {e : LifecycleError} (h : StartFails m p fault e m') (hm : Stands d m) : Stands d m' := by
  have idle : m.poller = none → Idle d m := fun hq => by
    rcases hm with hi | ⟨id, p, hs⟩
    · exact hi
    · simp [hs.poller] at hq
  cases h with
  | running => exact hm
  | refused => exact hm
  | unready hq =>
    have hi := idle hq
    exact .inl ⟨hi.dispatch, hi.running, hi.current, hi.poller, hi.pools, hi.tickets,
      hi.calls.refusal⟩
  | short hq =>
    have hi := idle hq
    exact .inl ⟨hi.dispatch, hi.running, hi.current, hi.poller, hi.pools, hi.tickets,
      hi.calls.callsUpTo _⟩
  | unspawned hq =>
    have hi := idle hq
    exact .inl ⟨hi.dispatch, rfl, rfl, hi.poller, hi.pools, hi.tickets,
      hi.calls.callsToWithdraw _⟩

theorem Stands.start (h : Stands d m) (p : Preferences) (fault : Option SystemFault) :
    Stands d (m.start p fault).2.1 := by
  rcases start_cases m p fault with ⟨e, _, hf⟩ | ⟨a, t, t', ms, hq, _, _, _, hn, _, hm⟩
  · exact hf.stands h
  · rcases h with hi | ⟨id, p, hs⟩
    · rw [hm]
      have size : (Pool.ofList ms).size = ms.length := by simp [Pool.ofList, Pool.size]
      refine .inr ⟨m.nextPool, Pool.ofList ms, hi.dispatch, rfl, rfl, rfl, rfl, ?_, hi.tickets,
        ?_, Pool.isSettled_ofList ms, ?_⟩
      · simp [launch, asked, hi.pools]
      · rw [size, hn, hi.dispatch]
      · rw [size]
        exact hi.calls.callsToLaunch _
    · simp [hs.poller] at hq

omit [Transport T M] in
theorem Stands.reconfigure (h : Stands d m) (p : Preferences) :
    Stands d (m.reconfigure p).2.1 := by
  unfold Mailer.reconfigure
  cases p.validate with
  | error f => exact h
  | ok a =>
    rcases h with h | ⟨id, p, h⟩
    · exact .inl ⟨h.dispatch, h.running, h.current, h.poller, h.pools, h.tickets, h.calls⟩
    · exact .inr ⟨id, p, h.dispatch, h.running, h.current, h.poller, rfl, h.pools, h.tickets,
        h.size, h.settled, h.calls⟩

theorem Idle.shutdown (h : Idle d m) : m.shutdown = (m, []) := by
  simp [Mailer.shutdown, h.poller]

/-- A shutdown of a mailer that serves releases every slot, and then undoes the preparation. -/
theorem Serving.shutdown (h : Serving d m id p) : Idle d m.shutdown.1 ∧ m.shutdown.1.calls =
    m.calls ++ (List.replicate d.poolSize.count .release ++ [.tearDown]) := by
  have calls : m.shutdown.1.calls =
      m.calls ++ (List.replicate d.poolSize.count .release ++ [.tearDown]) := by
    simp [Mailer.shutdown, h.poller, releaseUnused, isUsed, h.pools, h.tickets, tearDown, asked,
      ← h.size, Pool.size, List.map_const']
  have left : TransportCall.Leaves m.shutdown.1.calls 0 0 := by
    rw [calls, ← h.size, ← List.append_assoc]
    exact h.calls.release.tearDown
  refine ⟨⟨?_, ?_, ?_, ?_, ?_, ?_, left⟩, calls⟩
  all_goals
    simp [Mailer.shutdown, h.poller, releaseUnused, isUsed, h.pools, h.tickets, tearDown, asked,
      h.dispatch]

end

/-! ## Submissions in one go -/

section

variable {d : DispatchSettings} {m : Mailer T M} {id : Nat} {p : Pool M} [Multiplexer M]

theorem Idle.send (h : Idle d m) (l : Letter) (now : String) : (m.send l now).1 = m := by
  simp [Mailer.send, issue, h.running]

theorem Idle.pass (h : Idle d m) : m.pass.1 = m := by
  simp [Mailer.pass, h.poller]

theorem Serving.pass_eq (h : Serving d m id p) :
    m.pass =
      let r := Poller.pass m.dispatch.pollTimeout 0 p.slots m.stats p.size
      ({ m with pools := [(id, ⟨r.slots⟩)], stats := r.stats }, r.work) := by
  simp [Mailer.pass, h.poller, h.pool?, setPool, h.pools]

theorem Serving.pass (h : Serving d m id p) : ∃ q, Serving d m.pass.1 id q := by
  let r := Poller.pass m.dispatch.pollTimeout 0 p.slots m.stats p.size
  have held : r.slots.map Slot.held = p.slots.map Slot.held := Poller.held_pass ..
  have size : Pool.size ⟨r.slots⟩ = p.size := by
    simpa [Pool.size] using congrArg List.length held
  have settled : Pool.isSettled ⟨r.slots⟩ = true := by
    rw [Pool.isSettled_eq, held, ← Pool.isSettled_eq]
    exact h.settled
  rw [h.pass_eq]
  exact ⟨⟨r.slots⟩, h.dispatch, h.running, h.current, h.poller, h.account, rfl, h.tickets,
    size.trans h.size, settled, size.symm ▸ h.calls⟩

omit [Multiplexer M] in
/-- The last ticket given back, the pool in use stays. -/
theorem discard_last {k : Ticket} (hp : m.pools = [(id, p)]) (hc : m.current = some id)
    (hk : m.tickets = [k]) : m.discard k.number = { m with tickets := [] } := by
  simp [discard, releaseUnused, isUsed, hp, hc, hk]

/-- The counter of an answer to an offer. -/
def verdict : Except TransportError TransferId → Counter
  | .ok _ => .attached
  | .error _ => .rejected

/-- While the flag is set, a transfer is offered to the slot, which is let go. -/
theorem attach_running (found : m.pool? id = some p) (running : m.running = true) {i : Nat}
    {s : Slot M} (hs : p.slots[i]? = some s) (l : Letter) (t : Transfer) :
    (m.attach l id i t).1 =
      { m.setPool id (p.modify i fun _ => ⟨(Multiplexer.add s.mux t).2, false⟩) with
        stats := m.stats.count (verdict (Multiplexer.add s.mux t).1) } := by
  have left (mux : M) : (m.modifySlot id i fun _ => mux).unlock id i =
      m.setPool id (p.modify i fun _ => ⟨mux, false⟩) := by
    rw [modifySlot_of_pool? found, unlock_of_pool? (by rw [pool?_setPool, found]; rfl),
      setPool_setPool, Pool.unlock, Pool.modify_modify]
  rcases ha : Multiplexer.add s.mux t with ⟨e | name, mux⟩
  · simp only [attach, running, offer, slot?, found, hs, ha, Option.bind_eq_bind,
      Option.bind_some, left]
    rfl
  · simp only [attach, running, offer, slot?, found, hs, ha, Option.bind_eq_bind,
      Option.bind_some, unlock_count, left]
    rfl

/-- An attempt to hand a transfer to a slot lets the slot go, and counts what came of it. If the
transfer is attached, the slot took it while the flag was set. -/
theorem attach_cases (found : m.pool? id = some p) (l : Letter) (i : Nat) (t : Transfer) :
    (∃ f : Slot M → Slot M, (∀ x, (f x).held = false) ∧ (m.attach l id i t).1 =
      { m.setPool id (p.modify i f) with stats := m.stats.count .rejected }) ∨
      ∃ (x : Slot M) (name : TransferId) (mux : M), m.running = true ∧ p.slots[i]? = some x ∧
        Multiplexer.add x.mux t = (.ok name, mux) ∧ (m.attach l id i t).1 =
          { m.setPool id (p.modify i fun _ => ⟨mux, false⟩) with
            stats := m.stats.count .attached } := by
  have freed := unlock_of_pool? found i
  cases hr : m.running with
  | false =>
    refine .inl ⟨fun s => { s with held := false }, fun _ => rfl, ?_⟩
    simp only [attach, hr, freed]
    rfl
  | true =>
    cases hs : p.slots[i]? with
    | none =>
      refine .inl ⟨fun s => { s with held := false }, fun _ => rfl, ?_⟩
      simp only [attach, hr, offer, slot?, found, hs, Option.bind_eq_bind, Option.bind_some, freed]
      rfl
    | some s =>
      have attached := attach_running found hr hs l t
      rcases ha : Multiplexer.add s.mux t with ⟨e | name, mux⟩
      · rw [ha] at attached
        exact .inl ⟨fun _ => ⟨mux, false⟩, fun _ => rfl, attached⟩
      · rw [ha] at attached
        exact .inr ⟨s, name, mux, rfl, rfl, ha, attached⟩

/-- A letter that makes a transfer has the first slot of a pool in which nobody holds a slot. -/
theorem redeem_prepared {number : Nat} {k : Ticket} {t : Transfer} {now : String}
    (known : m.ticket? number = some k) (found : m.pool? k.pool = some p)
    (settled : p.isSettled = true) (pos : 0 < p.size)
    (prepared : k.letter.prepare k.account m.dispatch.timeouts now = .ok t) :
    (m.redeem number now).1 =
      ((((m.setPool k.pool (p.modify 0 fun s => { s with held := true })).count .submitted).attach
        k.letter k.pool 0 t).1).discard number := by
  have free : m.lockAny k.pool =
      some (0, m.setPool k.pool (p.modify 0 fun s => { s with held := true })) := by
    simp [lockAny, found, Pool.lockAny_of_isSettled settled pos]
  rw [redeem_locked known prepared free]

/-- What becomes of a ticket for a pool in which nobody holds a slot: its letter is unfit, or the
first slot is given a transfer that it takes or does not. -/
theorem redeem_cases {number : Nat} {k : Ticket} (known : m.ticket? number = some k)
    (found : m.pool? k.pool = some p) (settled : p.isSettled = true) (pos : 0 < p.size)
    (now : String) :
    (m.redeem number now).1 = ((m.count .submitted).count .rejected).discard number ∨
      (∃ f : Slot M → Slot M, (∀ x, (f x).held = false) ∧ (m.redeem number now).1 =
        ({ m.setPool k.pool (p.modify 0 f) with
          stats := (m.stats.count .submitted).count .rejected } : Mailer T M).discard number) ∨
      ∃ (t : Transfer) (x : Slot M) (name : TransferId) (mux : M), m.running = true ∧
        m.slot? k.pool 0 = some x ∧ Multiplexer.add x.mux t = (.ok name, mux) ∧
        (m.redeem number now).1 =
          ({ m.setPool k.pool (p.modify 0 fun _ => ⟨mux, false⟩) with
            stats := (m.stats.count .submitted).count .attached } : Mailer T M).discard number := by
  cases hp : k.letter.prepare k.account m.dispatch.timeouts now with
  | error e => exact .inl (congrArg Prod.fst (redeem_unprepared known hp))
  | ok t =>
    let held := p.modify 0 fun s => { s with held := true }
    have locked : ((m.setPool k.pool held).count .submitted).pool? k.pool = some held :=
      pool?_count_setPool found .submitted held
    have again (q : Pool M) : ((m.setPool k.pool held).count .submitted).setPool k.pool q =
        (m.setPool k.pool q).count .submitted := by
      rw [← setPool_setPool m k.pool held q]
      rfl
    rw [redeem_prepared known found settled pos hp]
    rcases attach_cases locked k.letter 0 t with
      ⟨f, hf, attached⟩ | ⟨x, name, mux, hr, hx, ha, attached⟩
    · refine .inr (.inl ⟨fun s => f { s with held := true }, fun _ => hf _, ?_⟩)
      rw [attached, again, Pool.modify_modify]
      rfl
    · have before : p.slots[0]?.map (fun s => { s with held := true }) = some x := by
        simpa [held, Pool.modify] using hx
      obtain ⟨y, hy, rfl⟩ := Option.map_eq_some_iff.mp before
      refine .inr (.inr ⟨t, y, name, mux, hr, by simp [slot?, found, hy], ha, ?_⟩)
      rw [attached, again, Pool.modify_modify]
      rfl

/-- What a submission in one go leaves of a mailer that serves: its ticket is given back. A letter
that is unfit changes nothing else but the counters, and of any other the first slot, which is let
go, is offered the transfer. -/
theorem Serving.send_left (h : Serving d m id p) {a : Account} (ha : m.account = some a) (l : Letter)
    (now : String) :
    (∀ e, l.prepare a d.timeouts now = .error e → (m.send l now).1 =
      { m with
        nextTicket := m.nextTicket + 1
        stats := (m.stats.count .submitted).count .rejected }) ∧
    (∀ t s rest, l.prepare a d.timeouts now = .ok t → p.slots = s :: rest → (m.send l now).1 =
      { m with
        pools := [(id, ⟨⟨(Multiplexer.add s.mux t).2, false⟩ :: rest⟩)]
        nextTicket := m.nextTicket + 1
        stats := (m.stats.count .submitted).count (verdict (Multiplexer.add s.mux t).1) }) := by
  let k : Ticket := ⟨m.nextTicket, l, id, a⟩
  let m₁ : Mailer T M := { m with tickets := [k], nextTicket := m.nextTicket + 1 }
  have issued : m.issue l = (some k.number, m₁, []) := by
    simp [issue, h.running, h.current, ha, h.tickets, k, m₁]
  have sent : (m.send l now).1 = (m₁.redeem k.number now).1 := by
    simp [Mailer.send, issued]
  have known : m₁.ticket? k.number = some k := by simp [ticket?, m₁]
  have found : m₁.pool? k.pool = some p := h.pool?
  have back (pools : List (Nat × Pool M)) (stats : Stats) {q : Pool M} (hq : pools = [(id, q)]) :
      ({ m₁ with pools := pools, stats := stats } : Mailer T M).discard k.number =
        { m with pools := [(id, q)], nextTicket := m.nextTicket + 1, stats := stats } := by
    rw [discard_last (m := { m₁ with pools := pools, stats := stats }) hq h.current rfl, hq,
      ← h.tickets]
  constructor
  · intro e unfit
    rw [sent, redeem_unprepared known (h.dispatch ▸ unfit)]
    refine (back m.pools _ h.pools).trans ?_
    rw [← h.pools]
    rfl
  · intro t s rest prepared hs
    rw [sent, redeem_prepared known found h.settled (h.size ▸ d.poolSize.pos)
      (h.dispatch ▸ prepared)]
    let held : Pool M := p.modify 0 fun s => { s with held := true }
    have locked : ((m₁.setPool k.pool held).count .submitted).pool? k.pool = some held :=
      pool?_count_setPool found .submitted held
    have first : held.slots[0]? = some { s with held := true } := by simp [held, Pool.modify, hs]
    rw [attach_running locked (by exact h.running) first]
    refine back _ _ ?_
    simp [setPool, count, m₁, k, h.pools, held, Pool.modify, hs]

/-- A submission in one go gives its ticket back and lets its slot go. -/
theorem Serving.send (h : Serving d m id p) (l : Letter) (now : String) :
    ∃ q, Serving d (m.send l now).1 id q := by
  obtain ⟨a, ha⟩ := Option.isSome_iff_exists.mp h.account
  obtain ⟨unfit, fit⟩ := h.send_left ha l now
  cases prepared : l.prepare a d.timeouts now with
  | error e =>
    rw [unfit e prepared]
    exact ⟨p, h.dispatch, h.running, h.current, h.poller, h.account, h.pools, h.tickets, h.size,
      h.settled, h.calls⟩
  | ok t =>
    have pos : 0 < p.size := h.size ▸ d.poolSize.pos
    obtain ⟨s, rest, hs⟩ := List.exists_cons_of_length_pos pos
    let q : Pool M := ⟨⟨(Multiplexer.add s.mux t).2, false⟩ :: rest⟩
    have size : q.size = p.size := by simp [q, Pool.size, hs]
    have settled : q.isSettled = true := by
      have := h.settled
      simp only [Pool.isSettled, hs, List.all_cons, Bool.and_eq_true] at this
      simpa [q, Pool.isSettled] using this.2
    rw [fit t s rest prepared hs]
    exact ⟨q, h.dispatch, h.running, h.current, h.poller, h.account, rfl, h.tickets,
      size.trans h.size, settled, size.symm ▸ h.calls⟩

end

/-! ## Every operation -/

section

variable {d : DispatchSettings} [Multiplexer M] [Transport T M]

theorem Stands.operate {m : Mailer T M} (h : Stands d m) (o : Operation) :
    Stands d (m.operate o).2 := by
  cases o with
  | start p fault => exact h.start p fault
  | reconfigure p => exact h.reconfigure p
  | send l now =>
    rcases h with hi | ⟨id, p, hs⟩
    · refine .inl ?_
      show Idle d (m.send l now).1
      rwa [hi.send]
    · exact .inr ⟨id, hs.send l now⟩
  | pass =>
    rcases h with hi | ⟨id, p, hs⟩
    · refine .inl ?_
      show Idle d m.pass.1
      rwa [hi.pass]
    · exact .inr ⟨id, hs.pass⟩
  | shutdown =>
    rcases h with hi | ⟨id, p, hs⟩
    · refine .inl ?_
      show Idle d m.shutdown.1
      rwa [hi.shutdown]
    · exact .inl hs.shutdown.1

theorem Stands.after {m : Mailer T M} (h : Stands d m) (operations : List Operation) :
    Stands d (m.after operations) := by
  induction operations generalizing m with
  | nil => exact h
  | cons o operations ih => exact ih (h.operate o)

omit [Multiplexer M] in
/-- A start that succeeds sets the flag, and can only be one of a mailer without a poller. -/
theorem start_eq_ok {m : Mailer T M} {p : Preferences} {fault : Option SystemFault}
    (h : (m.start p fault).1 = .ok ()) :
    m.poller = none ∧ (m.start p fault).2.1.running = true := by
  rcases start_cases m p fault with ⟨e, he, _⟩ | ⟨_, _, _, _, hq, _, _, _, _, _, hm⟩
  · rw [he] at h
    cases h
  · rw [hm]
    exact ⟨hq, rfl⟩

/-- **After any operations a mailer serves or is idle.** While the flag is set there are a pool of
the size asked for, a poller that drives it and an account, and the transport is prepared once more
than undone; else nothing is alive and what the transport was asked adds up. Only an idle mailer
starts. A mailer that serves answers a start by itself; an idle one ignores a shutdown, and else the
slots are released before the preparation is undone. -/
theorem lifecycle_stands (transport : T) (dispatch : DispatchSettings)
    (operations : List Operation) :
    let m : Mailer T M := (new transport dispatch).after operations
    (m.isRunning = m.current.isSome ∧ m.isRunning = m.poller.isSome ∧ m.current = m.poller) ∧
      (m.isRunning = true → m.account.isSome = true ∧
        m.multiplexers.length = dispatch.poolSize.count ∧
        m.calls.count (.allocate true) = m.calls.count .release + dispatch.poolSize.count ∧
        TransportCall.setUps m.calls = TransportCall.tearDowns m.calls + 1) ∧
      (m.isRunning = false → m.multiplexers = [] ∧ m.tickets = [] ∧
        m.calls.count (.allocate true) = m.calls.count .release ∧
        TransportCall.setUps m.calls = TransportCall.tearDowns m.calls) ∧
      (∀ p fault, (m.start p fault).1 = .ok () →
        m.isRunning = false ∧ (m.start p fault).2.1.isRunning = true) ∧
      (∀ p fault, m.isRunning = true →
        (m.start p fault).1 = .error .alreadyRunning ∧ (m.start p fault).2.1 = m) ∧
      (m.isRunning = false → m.shutdown = (m, [])) ∧
      (m.isRunning = true → m.shutdown.1.calls =
        m.calls ++ (List.replicate dispatch.poolSize.count .release ++ [.tearDown])) := by
  intro m
  have stands : Stands dispatch m := (stands_new transport dispatch).after operations
  rcases stands with h | ⟨id, p, h⟩
  · have off : m.isRunning = false := h.running
    have on : ¬m.isRunning = true := by simp [off]
    refine ⟨?_, fun hr => absurd hr on, fun _ => ?_, fun _ _ hp => ?_, fun _ _ hr => absurd hr on,
      fun _ => h.shutdown, fun hr => absurd hr on⟩
    · simp [off, h.current, h.poller]
    · exact ⟨by simp [multiplexers, h.pools], h.tickets, h.calls.made, h.calls.setUps⟩
    · exact ⟨off, (start_eq_ok hp).2⟩
  · have on : m.isRunning = true := h.running
    have off : ¬m.isRunning = false := by simp [on]
    refine ⟨?_, fun _ => ?_, fun hr => absurd hr off, fun _ _ hp => ?_, fun _ _ _ => ?_,
      fun hr => absurd hr off, fun _ => h.shutdown.2⟩
    · simp [on, h.current, h.poller]
    · have size : m.multiplexers.length = p.size := by simp [multiplexers, h.pools, Pool.size]
      exact ⟨h.account, size.trans h.size, h.size ▸ h.calls.made, h.calls.setUps⟩
    · have idle := (start_eq_ok hp).1
      simp [h.poller] at idle
    · exact start_of_fails (.running (by simp [h.poller]))

end

end Mailer

end Outbox
