import Outbox.Proofs.Letters
import Outbox.Proofs.Teardown

/-!
# What a submission does

A letter that a mailer in service is given is counted twice: as submitted, and as rejected or as
attached. All that can go wrong with the letter itself are its two addresses. What is then offered
to a slot lacks nothing.

* `Pool.lockAny_of_free`: if a slot is free, the first such slot is the one to be had.
* `Mailer.engaged`: a mailer while others hold some of its slots.
* `Mailer.send_fault`, `send_fit`: a submission by what the letter is worth.
* `Mailer.send_effects`: **what one submission does to a mailer, after any moves and while others
  hold any slots**: nothing, or it counts a rejected letter and touches no slot, or it offers one
  complete transfer to the first slot that is free and counts the answer.
-/

set_option autoImplicit false

namespace Outbox

variable {T M : Type}

/-! ## What is counted -/

namespace Stats

/-- One more letter, and it was rejected. -/
def dropped (s : Stats) : Stats :=
  { s with submitted := s.submitted + 1, rejected := s.rejected + 1 }

/-- One more letter, and its transfer was answered so. -/
def answered (s : Stats) : Except TransportError TransferId → Stats
  | .ok _ => { s with submitted := s.submitted + 1, attached := s.attached + 1 }
  | .error _ => s.dropped

theorem count_dropped (s : Stats) : (s.count .submitted).count .rejected = s.dropped := rfl

theorem count_verdict (s : Stats) (answer : Except TransportError TransferId) :
    (s.count .submitted).count (Mailer.verdict answer) = s.answered answer := by
  cases answer with
  | ok _ => rfl
  | error _ => rfl

end Stats

/-- A multiplexer of the SMTP transport refuses nothing but what lacks a part. -/
theorem SmtpMultiplexer.add_of_complete {t : Transfer} (complete : t.missing = none)
    (m : SmtpMultiplexer) : (m.add t).1 = .ok ⟨m.nextId⟩ := by
  rw [add, complete]

/-! ## The first slot that is free -/

/-- If a slot is free, then the first such slot is to be had. -/
theorem Pool.lockAny_of_free {p : Pool M} {j : Nat} {y : Slot M} (hy : p.slots[j]? = some y)
    (free : y.held = false) : ∃ (i : Nat) (x : Slot M), i ≤ j ∧ p.slots[i]? = some x ∧
      x.held = false ∧ (∀ k < i, ∀ z, p.slots[k]? = some z → z.held = true) ∧
      p.lockAny = some (i, p.modify i fun s => { s with held := true }) := by
  have some_free : p.firstFree.isSome = true := by
    rw [firstFree, List.findIdx?_isSome, List.any_eq_true]
    exact ⟨y, List.mem_of_getElem? hy, by simp [free]⟩
  obtain ⟨i, hi⟩ := Option.isSome_iff_exists.mp some_free
  obtain ⟨inside, first, before⟩ := List.findIdx?_eq_some_iff_getElem.mp hi
  have hx : p.slots[i]? = some p.slots[i] := List.getElem?_eq_getElem inside
  have unheld : p.slots[i].held = false := by simpa using first
  have earlier (k : Nat) (hk : k < i) (z : Slot M) (hz : p.slots[k]? = some z) :
      z.held = true := by
    obtain ⟨hk', rfl⟩ := List.getElem?_eq_some_iff.mp hz
    simpa using before k hk
  have up_to : i ≤ j := by
    refine Nat.le_of_not_lt fun later => ?_
    rw [earlier j later y hy] at free
    cases free
  refine ⟨i, _, up_to, hx, unheld, earlier, ?_⟩
  simp [lockAny, hi, tryLock, hx, unheld]

/-- A slot that was held and is let go is as it was put then. -/
theorem Pool.modify_back {p : Pool M} {i : Nat} (f : Slot M → Slot M) (x : Slot M) :
    (p.modify i f).modify i (fun _ => x) = ⟨p.slots.set i x⟩ := by
  rw [Pool.modify_modify]
  refine congrArg Pool.mk (List.ext_getElem? fun j => ?_)
  rw [List.getElem?_modify, List.getElem?_set']
  by_cases hj : i = j
  · simp only [if_pos hj]
    rfl
  · simp [hj]

namespace Mailer

/-! ## An account to submit under -/

/-- Whoever runs has an account. -/
def Funded (m : Mailer T M) : Prop := m.running = true → m.account.isSome = true

theorem funded_new (transport : T) (d : DispatchSettings) :
    Funded (new transport d : Mailer T M) := by
  intro running
  cases running

namespace Funded

variable {m : Mailer T M}

theorem of_same {m' : Mailer T M} (h : Funded m) (running : m'.running = m.running)
    (account : m'.account = m.account) : Funded m' := by
  rw [Funded, running, account]
  exact h

theorem start [Transport T M] (h : Funded m) (p : Preferences) (fault : Option SystemFault) :
    Funded (m.start p fault).2.1 := by
  rcases start_cases m p fault with ⟨e, -, fails⟩ | ⟨_, _, _, _, _, _, _, _, _, _, left⟩
  · generalize (m.start p fault).2.1 = m' at fails ⊢
    cases fails with
    | running => exact h
    | refused => exact h
    | unready => exact h.of_same rfl rfl
    | short => exact h.of_same rfl rfl
    | unspawned => nofun
  · rw [left]
    exact fun _ => rfl

theorem reconfigure (h : Funded m) (p : Preferences) : Funded (m.reconfigure p).2.1 := by
  unfold Mailer.reconfigure
  cases p.validate with
  | error f => exact h
  | ok a => exact fun _ => rfl

theorem shutdown [Transport T M] (h : Funded m) : Funded m.shutdown.1 := by
  unfold Mailer.shutdown
  split
  · exact h
  · nofun

theorem issue (h : Funded m) (l : Letter) : Funded (m.issue l).2.1 := by
  unfold Mailer.issue
  split
  · exact h
  · split
    · exact h.of_same rfl rfl
    · exact h

variable [Multiplexer M]

theorem redeem (h : Funded m) (sound : Sound m) (number : Nat) (now : String) :
    Funded (m.redeem number now).1 := by
  cases known : m.ticket? number with
  | none =>
    rw [redeem_unknown now known]
    exact h
  | some k =>
    obtain ⟨p, found, settled, pos⟩ := sound.found known
    rcases redeem_cases known found settled pos now with
      left | ⟨f, -, left⟩ | ⟨_, _, _, mux, -, -, -, left⟩
    all_goals
      rw [left]
      exact h.of_same rfl rfl

theorem pass (h : Funded m) : Funded m.pass.1 := by
  unfold Mailer.pass
  split
  · exact h
  · split
    · exact h
    · exact h.of_same rfl rfl

variable [Transport T M]

theorem move (h : Funded m) (sound : Sound m) (v : Move) : Funded (m.move v).2 := by
  cases v with
  | issue l => exact h.issue l
  | redeem number now => exact h.redeem sound number now
  | whole o =>
    cases o with
    | start p fault => exact h.start p fault
    | reconfigure p => exact h.reconfigure p
    | pass => exact h.pass
    | shutdown => exact h.shutdown
    | send l now =>
      show Funded (m.send l now).1
      rcases send_left m l now with left | ⟨number, -, left⟩
      · exact left ▸ h.issue l
      · exact left ▸ (h.issue l).redeem (sound.issue l) number now

theorem run (h : Funded m) (sound : Sound m) (moves : List Move) : Funded (m.run moves).2 := by
  induction moves generalizing m with
  | nil => exact h
  | cons v rest ih => exact ih (h.move sound v) (sound.move v)

end Funded

/-! ## Slots that others hold -/

/-- The mailer while others hold those slots, each given by its pool and its place. -/
def engaged (m : Mailer T M) (holds : Nat → Nat → Bool) : Mailer T M :=
  { m with
    pools := m.pools.map fun q =>
      (q.1, ⟨q.2.slots.mapIdx fun i s => { s with held := s.held || holds q.1 i }⟩) }

theorem pool?_engaged (m : Mailer T M) (holds : Nat → Nat → Bool) (id : Nat) :
    (m.engaged holds).pool? id = (m.pool? id).map fun p =>
      ⟨p.slots.mapIdx fun i s => { s with held := s.held || holds id i }⟩ := by
  simp only [pool?, engaged]
  induction m.pools with
  | nil => rfl
  | cons q rest ih =>
    obtain ⟨k, p⟩ := q
    by_cases h : id = k
    · subst h
      simp
    · have other : (id == k) = false := by simpa using h
      simpa [List.lookup_cons, other] using ih

theorem keys_engaged (m : Mailer T M) (holds : Nat → Nat → Bool) :
    (m.engaged holds).pools.map Prod.fst = m.pools.map Prod.fst := by
  simp [engaged]

theorem Needed.engaged {m : Mailer T M} (h : Needed m) (holds : Nat → Nat → Bool) :
    Needed (m.engaged holds) :=
  h.of_keys (keys_engaged m holds) fun _ hu => hu

theorem Needed.setPool {m : Mailer T M} (h : Needed m) (id : Nat) (p : Pool M) :
    Needed (m.setPool id p) := by
  refine h.of_keys ?_ fun _ hu => hu
  simp only [Mailer.setPool, List.map_map]
  refine List.map_congr_left fun q _ => ?_
  simp only [Function.comp_apply]
  split
  · next same => exact (beq_iff_eq.mp same).symm
  · rfl

/-- Under the number of a pool there is no other. -/
theorem mem_pools_iff {m : Mailer T M} (unique : (m.pools.map Prod.fst).Nodup) {id : Nat}
    {p : Pool M} (found : m.pool? id = some p) (q : Nat × Pool M) :
    q ∈ m.pools ∧ q.1 = id ↔ q = (id, p) := by
  constructor
  · rintro ⟨there, rfl⟩
    have same : some q.2 = some p := (lookup_of_mem unique there).symm.trans found
    rw [← Option.some.inj same]
  · rintro rfl
    exact ⟨mem_of_lookup found, rfl⟩

/-- The pool in service has a slot, and nobody but the others holds any. -/
theorem Sound.pool_engaged {m : Mailer T M} (h : Sound m) {id : Nat} (current : m.current = some id)
    (holds : Nat → Nat → Bool) : ∃ p, (m.engaged holds).pool? id = some p ∧ p.slots ≠ [] ∧
      ∀ (i : Nat) (x : Slot M), p.slots[i]? = some x → x.held = holds id i := by
  have used : m.isUsed id = true := by simp [isUsed, current]
  obtain ⟨q, hq⟩ := Option.isSome_iff_exists.mp (h.kept id used)
  obtain ⟨settled, pos⟩ := h.settled id q hq
  refine ⟨_, by rw [pool?_engaged, hq]; rfl, ?_, fun i x hx => ?_⟩
  · have some_slot : q.slots ≠ [] := List.ne_nil_of_length_pos pos
    simpa using some_slot
  · rw [List.getElem?_mapIdx] at hx
    obtain ⟨y, hy, rfl⟩ := Option.map_eq_some_iff.mp hx
    rw [Pool.isSettled, List.all_eq_true] at settled
    have free : y.held = false := by simpa using settled y (List.mem_of_getElem? hy)
    simp [free]

/-! ## One submission -/

section

variable {m : Mailer T M} {id : Nat} {a : Account} {l : Letter}

theorem releaseUnused_of_needed (h : Needed m) : m.releaseUnused = m := by
  have used : ∀ q ∈ m.pools, m.isUsed q.1 = true := h
  have kept : m.pools.filter (fun q => m.isUsed q.1) = m.pools := List.filter_eq_self.mpr used
  have gone : m.pools.filter (fun q => !m.isUsed q.1) = [] := by
    rw [List.filter_eq_nil_iff]
    intro q hq
    simp [used q hq]
  simp only [releaseUnused, kept, gone, List.flatMap_nil, List.append_nil]

/-- The mailer once a letter is noted. -/
def noted (m : Mailer T M) (k : Ticket) : Mailer T M :=
  { m with tickets := m.tickets ++ [k], nextTicket := m.nextTicket + 1 }

/-- A ticket just given out is found again. -/
theorem ticket?_noted (numbered : ∀ k ∈ m.tickets, k.number < m.nextTicket) {k : Ticket}
    (number : k.number = m.nextTicket) : (m.noted k).ticket? k.number = some k := by
  have others : m.tickets.find? (fun t => t.number == k.number) = none := by
    rw [List.find?_eq_none]
    intro t ht
    simpa using Nat.ne_of_lt (number ▸ numbered t ht)
  simp [ticket?, noted, List.find?_append, others]

/-- Given back, it leaves no trace but its number, and no pool is released for it. -/
theorem discard_noted (numbered : ∀ k ∈ m.tickets, k.number < m.nextTicket) (needed : Needed m)
    {k : Ticket} (number : k.number = m.nextTicket) :
    (m.noted k).discard k.number = { m with nextTicket := m.nextTicket + 1 } := by
  have others : m.tickets.filter (fun t => t.number != k.number) = m.tickets := by
    rw [List.filter_eq_self]
    intro t ht
    simpa using Nat.ne_of_lt (number ▸ numbered t ht)
  have back : (m.tickets ++ [k]).filter (fun t => t.number != k.number) = m.tickets := by
    simp [List.filter_append, others]
  simp only [discard, noted, back]
  exact releaseUnused_of_needed (m := { m with nextTicket := m.nextTicket + 1 }) needed

variable [Multiplexer M]

/-- While the mailer runs, a submission redeems the ticket that it is given. -/
theorem send_noted (running : m.running = true) (current : m.current = some id)
    (account : m.account = some a) (l : Letter) (now : String) :
    m.send l now = (m.noted ⟨m.nextTicket, l, id, a⟩).redeem m.nextTicket now := by
  simp [send, issue, running, current, account, noted]

/-- A letter with a fault is counted as submitted and as rejected, whoever holds which slot. -/
theorem send_fault (running : m.running = true) (current : m.current = some id)
    (account : m.account = some a) (numbered : ∀ k ∈ m.tickets, k.number < m.nextTicket)
    (needed : Needed m) {e : AddressError} (fault : l.fault? = some e) (now : String) :
    m.send l now =
      ({ m with nextTicket := m.nextTicket + 1, stats := m.stats.dropped },
        [unsent l (.address e)]) := by
  let k : Ticket := ⟨m.nextTicket, l, id, a⟩
  have known : (m.noted k).ticket? k.number = some k := ticket?_noted numbered rfl
  have back := discard_noted (m := (m.count .submitted).count .rejected) (k := k) numbered needed
    rfl
  rw [send_noted running current account, redeem_unprepared known (Letter.prepare_of_fault fault),
    ← Stats.count_dropped]
  exact congrArg (·, _) back

/-- A letter without a fault goes to the first slot that is free. The slot is let go, and the answer
is counted. -/
theorem send_fit (running : m.running = true) (current : m.current = some id)
    (account : m.account = some a) (numbered : ∀ k ∈ m.tickets, k.number < m.nextTicket)
    (needed : Needed m) (fit : l.fault? = none) {p : Pool M} (found : m.pool? id = some p) {i : Nat}
    {x : Slot M} (hx : p.slots[i]? = some x)
    (locks : p.lockAny = some (i, p.modify i fun s => { s with held := true })) (now : String) :
    let (answer, mux) := Multiplexer.add x.mux (l.transfer a m.dispatch.timeouts now)
    (m.send l now).1 =
      { m.setPool id ⟨p.slots.set i ⟨mux, false⟩⟩ with
        nextTicket := m.nextTicket + 1
        stats := m.stats.answered answer } := by
  let t := l.transfer a m.dispatch.timeouts now
  let answer := (Multiplexer.add x.mux t).1
  let mux := (Multiplexer.add x.mux t).2
  let k : Ticket := ⟨m.nextTicket, l, id, a⟩
  let held : Pool M := p.modify i fun s => { s with held := true }
  have known : (m.noted k).ticket? k.number = some k := ticket?_noted numbered rfl
  have locked : (m.noted k).lockAny k.pool = some (i, (m.noted k).setPool id held) := by
    have found : (m.noted k).pool? id = some p := found
    simp [lockAny, k, found, locks, held]
  have busy : (((m.noted k).setPool id held).count .submitted).pool? id = some held :=
    pool?_count_setPool (m := m.noted k) found .submitted held
  have first : held.slots[i]? = some { x with held := true } := by simp [held, Pool.modify, hx]
  have attached := attach_running busy running first l t
  have left : held.modify i (fun _ => ⟨mux, false⟩) = ⟨p.slots.set i ⟨mux, false⟩⟩ :=
    Pool.modify_back _ _
  let after : Mailer T M := { m.setPool id ⟨p.slots.set i ⟨mux, false⟩⟩ with
    stats := m.stats.answered answer }
  have again (q : Pool M) : (((m.noted k).setPool id held).count .submitted).setPool id q =
      ((m.setPool id q).noted k).count .submitted :=
    congrArg (Mailer.count · .submitted) (setPool_setPool (m.noted k) id held q)
  have back : (after.noted k).discard k.number = { after with nextTicket := m.nextTicket + 1 } :=
    discard_noted (m := after) numbered (needed.setPool id _) rfl
  show (m.send l now).1 = { after with nextTicket := m.nextTicket + 1 }
  rw [send_noted running current account, redeem_locked known (Letter.prepare_of_fit fit) locked,
    ← back]
  refine congrArg (Mailer.discard · k.number) (attached.trans ?_)
  rw [left, again]
  simp only [after, answer, ← Stats.count_verdict]
  rfl

end

variable [Multiplexer M] [Transport T M]

/-- **What one submission does**, after any moves and while others hold any slots. If the mailer
does not run, nothing. Else the letter is counted as submitted and once more. A letter with an unfit
address is rejected whoever holds which slot, and reported by its recipient if that is unfit, else
by its sender; no slot is touched. Any other letter makes a transfer that lacks nothing: its message
is the one composed of the letter, unread. If a slot is free, the transfer is offered to the first
one that is, once, and counted as that slot answers; no other slot and no settings change. -/
theorem send_effects (t : T) (d : DispatchSettings) (moves : List Move) (holds : Nat → Nat → Bool)
    (l : Letter) (now : String) :
    let m : Mailer T M := ((new t d).run moves).2.engaged holds
    let dropped : Stats :=
      { m.stats with submitted := m.stats.submitted + 1, rejected := m.stats.rejected + 1 }
    let taken : Stats :=
      { m.stats with submitted := m.stats.submitted + 1, attached := m.stats.attached + 1 }
    let report (reason : String) : List Event := [Event.plain .error
      ("Unable to send mail to " ++ Text.quote l.recipient ++ ": " ++ reason) []]
    (m.isRunning = false → (m.send l now).1 = m) ∧
    (m.isRunning = true → ∃ (id : Nat) (p : Pool M) (a : Account),
      m.current = some id ∧ m.account = some a ∧ p.slots ≠ [] ∧
      (∀ q, q ∈ m.pools ∧ q.1 = id ↔ q = (id, p)) ∧
      (∀ (i : Nat) (x : Slot M), p.slots[i]? = some x → x.held = holds id i) ∧
      (Envelope.Unfit l.recipient → m.send l now =
        ({ m with nextTicket := m.nextTicket + 1, stats := dropped },
          report ("Invalid recipient address " ++ Text.quote l.recipient))) ∧
      (¬Envelope.Unfit l.recipient → Envelope.Unfit l.sender → m.send l now =
        ({ m with nextTicket := m.nextTicket + 1, stats := dropped },
          report ("Invalid sender address " ++ Text.quote l.sender))) ∧
      (¬Envelope.Unfit l.recipient → ¬Envelope.Unfit l.sender →
        ∃ tr : Transfer, l.prepare a m.dispatch.timeouts now = .ok tr ∧ tr.missing = none ∧
          (∃ ready, tr.ready? = .ok ready) ∧
          (∀ x : SmtpMultiplexer, ∃ name, (x.add tr).1 = .ok name) ∧
          l.draft.compose now = .ok (l.message now) ∧
          (∃ payload, tr.payload = some payload ∧ payload.message = Wire.text (l.message now) ∧
            payload.remaining = payload.message.length) ∧
          ∀ j < p.slots.length, holds id j = false →
            ∃ (i : Nat) (x : Slot M), i ≤ j ∧ (∀ k < i, holds id k = true) ∧
              p.slots[i]? = some x ∧ x.held = false ∧
              (m.send l now).1 = { m with
                pools := m.pools.map fun q =>
                  if q.1 = id then (id, ⟨p.slots.set i ⟨(Multiplexer.add x.mux tr).2, false⟩⟩) else q
                nextTicket := m.nextTicket + 1
                stats := match (Multiplexer.add x.mux tr).1 with
                  | .ok _ => taken
                  | .error _ => dropped })) := by
  intro m dropped taken report
  let before : Mailer T M := ((new t d).run moves).2
  have kept : Kept before := (kept_new t d).run moves
  have funded : Funded before := (funded_new t d).run (sound_new t d) moves
  have numbered : ∀ k ∈ m.tickets, k.number < m.nextTicket := kept.sound.numbered
  have needed : Needed m := kept.needed.engaged holds
  have unique : (m.pools.map Prod.fst).Nodup := by
    rw [keys_engaged]
    exact kept.accounted.unique
  refine ⟨fun idle => ?_, fun running => ?_⟩
  · have off : m.running = false := idle
    simp [send, issue, off]
  · obtain ⟨id, current⟩ : ∃ id, m.current = some id :=
      Option.isSome_iff_exists.mp (kept.sound.running.symm.trans running)
    obtain ⟨a, account⟩ : ∃ a, m.account = some a := Option.isSome_iff_exists.mp (funded running)
    obtain ⟨p, found, some_slot, others⟩ := kept.sound.pool_engaged (m := before) current holds
    refine ⟨id, p, a, current, account, some_slot, mem_pools_iff unique found, others,
      fun recipient => ?_, fun recipient sender => ?_, fun recipient sender => ?_⟩
    · have fault : l.fault? = some (.recipient l.recipient) := if_pos recipient
      exact send_fault running current account numbered needed fault now
    · have fault : l.fault? = some (.sender l.sender) :=
        (if_neg recipient).trans (if_pos sender)
      exact send_fault running current account numbered needed fault now
    · have fit : l.fault? = none := (if_neg recipient).trans (if_neg sender)
      have complete := l.missing_transfer a m.dispatch.timeouts now
      refine ⟨_, Letter.prepare_of_fit fit, complete, Transfer.ready?_isOk_iff.mpr complete,
        fun x => ⟨_, x.add_of_complete complete⟩, l.compose_draft now, ⟨_, rfl, rfl, rfl⟩,
        fun j inside unheld => ?_⟩
      have hy : p.slots[j]? = some p.slots[j] := List.getElem?_eq_getElem inside
      obtain ⟨i, x, up_to, hx, free, earlier, locks⟩ :=
        Pool.lockAny_of_free hy ((others j _ hy).trans unheld)
      have sent := send_fit running current account numbered needed fit found hx locks now
      have bound : i < p.slots.length := (List.getElem?_eq_some_iff.mp hx).1
      have busy : ∀ k < i, holds id k = true := by
        intro k hk
        have hz : p.slots[k]? = some p.slots[k] := List.getElem?_eq_getElem (hk.trans bound)
        rw [← others k _ hz]
        exact earlier k hk _ hz
      refine ⟨i, x, up_to, busy, hx, free, sent.trans ?_⟩
      simp only [setPool, beq_iff_eq]
      rfl

end Mailer

end Outbox
