import Mathlib.Data.List.Count
import Mathlib.Data.List.Nodup
import Outbox.Traffic.Steps

/-!
# Who holds what in traffic

What the steps of all parties keep: one holder to each slot that is held, a ticket to each
submission under way, a pool as long as anyone needs it, and after a shutdown has waited for a slot
nobody hands it a transfer.

`Flags`, `Tickets`, `Locks` and `Closing` each name just what they depend on, so that a step that
leaves that alone keeps them. `Locks.release` rests on `Locks.unheld`: a pool that nobody refers to
has no holder.
-/

set_option autoImplicit false

namespace Outbox

variable {T M : Type}

/-! ## Flags -/

/-- The mailer's flag, pool and poller are in line with how far the shutdown has come. -/
structure Flags (pool : Nat) (m : Mailer T M) (p : PollerStage) (c : ShutdownStage) : Prop where
  running : m.running = true → c = .awaited
  current : ∀ id, m.current = some id → id = pool
  poller : m.poller = if c.hasReleased then none else some pool
  stopped : c.hasJoined = true → p = .stopped

section Flags

variable {m m' : Mailer T M} {pool : Nat} {p p' : PollerStage} {c c' : ShutdownStage}

theorem Flags.of_same (h : Flags pool m p c) (running : m'.running = m.running)
    (current : m'.current = m.current) (poller : m'.poller = m.poller)
    (stopped : p = .stopped → p' = .stopped) : Flags pool m' p' c where
  running := running ▸ h.running
  current := current ▸ h.current
  poller := poller.trans h.poller
  stopped hj := stopped (h.stopped hj)

variable [Multiplexer M]

theorem Flags.submits {s s' : SubmitterStage} {acc : List Placement} (h : Flags pool m p c)
    (step : Submits m s m' s' acc) : Flags pool m' p c := by
  cases step with
  | locked _ _ change => exact h.of_same change.running change.current change.poller id
  | taken _ _ change => exact h.of_same change.running change.current change.poller id
  | refused _ _ change => exact h.of_same change.running change.current change.poller id
  | unlocked change => exact h.of_same change.running change.current change.poller id
  | declined change => exact h.of_same change.running change.current change.poller id
  | _ => exact h.of_same rfl rfl rfl id

theorem Flags.polls {acc : List Placement} (h : Flags pool m p c)
    (step : Polls m pool p m' p' acc) : Flags pool m' p' c := by
  cases step with
  | stopped => exact h.of_same rfl rfl rfl fun _ => rfl
  | locked _ _ change => exact h.of_same change.running change.current change.poller (by simp)
  | waited _ change => exact h.of_same change.running change.current change.poller (by simp)
  | performed change => exact h.of_same change.running change.current change.poller (by simp)
  | unlocked change => exact h.of_same change.running change.current change.poller (by simp)
  | reaped _ _ change => exact h.of_same change.running change.current change.poller (by simp)
  | _ => exact h.of_same rfl rfl rfl (by simp)

omit [Multiplexer M] in
theorem Flags.closes [Transport T M] (h : Flags pool m p c)
    (step : Closes m pool p c m' c') : Flags pool m' p c' := by
  have late (hc : c ≠ .awaited) {q : Prop} : m.running = true → q :=
    fun hr => absurd (h.running hr) hc
  cases step with
  | flagCleared => exact ⟨nofun, h.current, h.poller, nofun⟩
  | poolTaken => exact ⟨late nofun, nofun, h.poller, nofun⟩
  | joins => exact h
  | joined stopped => exact ⟨late nofun, h.current, h.poller, fun _ => stopped⟩
  | settled => exact ⟨late nofun, h.current, h.poller, fun _ => h.stopped rfl⟩
  | waits => exact h
  | locked _ _ change =>
    have h' := h.of_same change.running change.current change.poller id
    exact ⟨fun hr => late nofun (change.running ▸ hr), h'.current, h'.poller,
      fun _ => h.stopped rfl⟩
  | unlocked change =>
    have h' := h.of_same change.running change.current change.poller id
    exact ⟨fun hr => late nofun (change.running ▸ hr), h'.current, h'.poller,
      fun _ => h.stopped rfl⟩
  | reported => exact ⟨late nofun, h.current, h.poller, fun _ => h.stopped rfl⟩
  | released => exact ⟨late nofun, h.current, rfl, fun _ => h.stopped rfl⟩
  | tornDown => exact ⟨late nofun, h.current, h.poller, fun _ => h.stopped rfl⟩
  | finished => exact h

end Flags

/-! ## Tickets -/

/-- Every submission under way has a ticket of its own, for the pool, that is not given back. -/
structure Tickets (pool : Nat) (m : Mailer T M) (subs : List SubmitterStage) : Prop where
  known : ∀ s ∈ subs, ∀ k, s.ticket? = some k → k ∈ m.tickets ∧ k.pool = pool
  numbered : ∀ k ∈ m.tickets, k.number < m.nextTicket
  distinct : (subs.filterMap fun s => s.ticket?.map Ticket.number).Nodup

section Tickets

variable {m m' : Mailer T M} {pool : Nat} {pre post : List SubmitterStage}
  {s s' : SubmitterStage}

theorem Tickets.of_same (h : Tickets pool m (pre ++ s :: post))
    (tickets : m'.tickets = m.tickets) (nextTicket : m'.nextTicket = m.nextTicket)
    (ticket : s'.ticket? = s.ticket?) : Tickets pool m' (pre ++ s' :: post) where
  known := by
    intro r hr k hk
    rw [tickets]
    simp only [List.mem_append, List.mem_cons] at hr
    rcases hr with hr | rfl | hr
    · exact h.known r (by simp [hr]) k hk
    · exact h.known s (by simp) k (ticket ▸ hk)
    · exact h.known r (by simp [hr]) k hk
  numbered := by
    rw [tickets, nextTicket]
    exact h.numbered
  distinct := by
    have := h.distinct
    simp only [List.filterMap_append, List.filterMap_cons] at this ⊢
    rwa [ticket]

/-- A ticket just issued has a number of its own. -/
theorem Tickets.issued (h : Tickets pool m (pre ++ s :: post)) (hs : s.ticket? = none) {k : Ticket}
    (hk : k.number = m.nextTicket) (hp : k.pool = pool) (hs' : s'.ticket? = some k) :
    Tickets pool { m with tickets := m.tickets ++ [k], nextTicket := m.nextTicket + 1 }
      (pre ++ s' :: post) where
  known := by
    intro r hr q hq
    simp only [List.mem_append, List.mem_cons] at hr
    rcases hr with hr | rfl | hr
    · have := h.known r (by simp [hr]) q hq
      exact ⟨by simp [this.1], this.2⟩
    · obtain rfl := Option.some.inj (hs'.symm.trans hq)
      exact ⟨by simp, hp⟩
    · have := h.known r (by simp [hr]) q hq
      exact ⟨by simp [this.1], this.2⟩
  numbered := by
    intro q hq
    simp only [List.mem_append, List.mem_singleton] at hq
    rcases hq with hq | rfl
    · exact Nat.lt_succ_of_lt (h.numbered q hq)
    · exact hk ▸ Nat.lt_succ_self _
  distinct := by
    have old := h.distinct
    -- the numbers given out so far are all below the next one
    have unused : ∀ r ∈ pre ++ s :: post, r.ticket?.map Ticket.number ≠ some k.number := by
      intro r hr hn
      obtain ⟨q, hq, hn⟩ := Option.map_eq_some_iff.mp hn
      have := h.numbered q (h.known r hr q hq).1
      omega
    simp only [List.filterMap_append, List.filterMap_cons, hs, hs', Option.map_none,
      Option.map_some] at old ⊢
    rw [List.nodup_middle, List.nodup_cons]
    refine ⟨?_, old⟩
    intro hm
    rw [← List.filterMap_append] at hm
    obtain ⟨r, hr, hn⟩ := List.mem_filterMap.mp hm
    refine unused r ?_ hn
    simp only [List.mem_append, List.mem_cons] at hr ⊢
    tauto

/-- Giving a ticket back leaves those of the other submissions. -/
theorem Tickets.left {k : Ticket} (h : Tickets pool m (pre ++ s :: post)) (hs : s.ticket? = some k)
    (hs' : s'.ticket? = none) : Tickets pool (m.discard k.number) (pre ++ s' :: post) where
  known := by
    have distinct := h.distinct
    simp only [List.filterMap_append, List.filterMap_cons, hs, Option.map_some] at distinct
    rw [List.nodup_middle, List.nodup_cons, ← List.filterMap_append] at distinct
    -- what another submission has bears another number, and so is not given back
    have others : ∀ r ∈ pre ++ post, ∀ q, r.ticket? = some q →
        q ∈ (m.discard k.number).tickets ∧ q.pool = pool := by
      intro r hr q hq
      have known := h.known r (by
        simp only [List.mem_append, List.mem_cons] at hr ⊢
        tauto) q hq
      refine ⟨List.mem_filter.mpr ⟨known.1, ?_⟩, known.2⟩
      simp only [bne_iff_ne, ne_eq]
      intro same
      exact distinct.1 (List.mem_filterMap.mpr ⟨r, hr, by simp [hq, same]⟩)
    intro r hr q hq
    simp only [List.mem_append, List.mem_cons] at hr
    rcases hr with hr | rfl | hr
    · exact others r (by simp [hr]) q hq
    · simp [hs'] at hq
    · exact others r (by simp [hr]) q hq
  numbered := fun q hq => h.numbered q (List.mem_filter.mp hq).1
  distinct := by
    have old := h.distinct
    simp only [List.filterMap_append, List.filterMap_cons, hs, hs', Option.map_none,
      Option.map_some] at old ⊢
    rw [List.nodup_middle, List.nodup_cons] at old
    exact old.2

theorem Tickets.submits [Multiplexer M] {acc : List Placement} {p : PollerStage}
    {c : ShutdownStage} (h : Tickets pool m (pre ++ s :: post)) (flags : Flags pool m p c)
    (step : Submits m s m' s' acc) : Tickets pool m' (pre ++ s' :: post) := by
  cases step with
  | noted _ current number => exact h.issued rfl number (flags.current _ current) rfl
  | left => exact h.left rfl rfl
  | locked _ _ change => exact h.of_same change.tickets change.nextTicket rfl
  | taken _ _ change => exact h.of_same change.tickets change.nextTicket rfl
  | refused _ _ change => exact h.of_same change.tickets change.nextTicket rfl
  | unlocked change => exact h.of_same change.tickets change.nextTicket rfl
  | declined change => exact h.of_same change.tickets change.nextTicket rfl
  | _ => exact h.of_same rfl rfl rfl

theorem Tickets.congr {subs : List SubmitterStage} (h : Tickets pool m subs)
    (tickets : m'.tickets = m.tickets) (nextTicket : m'.nextTicket = m.nextTicket) :
    Tickets pool m' subs :=
  ⟨tickets ▸ h.known, tickets ▸ nextTicket ▸ h.numbered, h.distinct⟩

theorem Tickets.polls [Multiplexer M] {subs : List SubmitterStage} {acc : List Placement}
    {p p' : PollerStage} (h : Tickets pool m subs) (step : Polls m pool p m' p' acc) :
    Tickets pool m' subs := by
  cases step with
  | locked _ _ change => exact h.congr change.tickets change.nextTicket
  | waited _ change => exact h.congr change.tickets change.nextTicket
  | performed change => exact h.congr change.tickets change.nextTicket
  | unlocked change => exact h.congr change.tickets change.nextTicket
  | reaped _ _ change => exact h.congr change.tickets change.nextTicket
  | _ => exact h

theorem Tickets.closes [Transport T M] {subs : List SubmitterStage} {p : PollerStage}
    {c c' : ShutdownStage} (h : Tickets pool m subs) (step : Closes m pool p c m' c') :
    Tickets pool m' subs := by
  cases step with
  | locked _ _ change => exact h.congr change.tickets change.nextTicket
  | unlocked change => exact h.congr change.tickets change.nextTicket
  | _ => exact h.congr rfl rfl

/-- A pool that nobody refers to has no submission under way. -/
theorem Tickets.none_of_unused {subs : List SubmitterStage} (h : Tickets pool m subs)
    (unused : m.isUsed pool = false) {s : SubmitterStage} (hs : s ∈ subs) : s.ticket? = none := by
  rw [Option.eq_none_iff_forall_ne_some]
  intro k hk
  obtain ⟨known, here⟩ := h.known s hs k hk
  simp only [Mailer.isUsed, Bool.or_eq_false_iff, List.any_eq_false, beq_iff_eq] at unused
  exact unused.2 k known here

end Tickets

/-! ## Locks -/

/-- How many parties hold a slot. -/
def holders (subs : List SubmitterStage) (p : PollerStage) (c : ShutdownStage) (i : Nat) : Nat :=
  subs.countP (fun s => s.slot? == some i) + (p.slot? == some i).toNat + (c.slot? == some i).toNat

/-- A slot that is held is held by one party, and any other by none. -/
def Locks (pool : Nat) (m : Mailer T M) (subs : List SubmitterStage) (p : PollerStage)
    (c : ShutdownStage) : Prop :=
  ∀ i, holders subs p c i = (m.isHeld pool i).toNat

section Locks

variable {m m' : Mailer T M} {pool i : Nat} {subs pre post : List SubmitterStage}
  {s s' : SubmitterStage} {p p' : PollerStage} {c c' : ShutdownStage}

theorem holders_submitter (i : Nat) : holders (pre ++ s :: post) p c i =
    holders (pre ++ post) p c i + (s.slot? == some i).toNat := by
  simp only [holders, List.countP_append, List.countP_cons]
  cases s.slot? == some i
  · simp
  · simp
    omega

theorem holders_pos {r : SubmitterStage} (hr : r ∈ subs) (hi : r.slot? = some i) :
    0 < holders subs p c i := by
  have : 0 < subs.countP fun s => s.slot? == some i :=
    List.countP_pos_iff.mpr ⟨r, hr, by simp [hi]⟩
  simp only [holders]
  omega

namespace Locks

/-- The locks tell who may hold a slot: there is one that is held. -/
theorem isHeld (h : Locks pool m subs p c) (hi : 0 < holders subs p c i) :
    m.isHeld pool i = true := by
  have := h i
  cases hh : m.isHeld pool i with
  | true => rfl
  | false => simp [hh] at this; omega

theorem isSome (h : Locks pool m subs p c) (hi : 0 < holders subs p c i) :
    (m.slot? pool i).isSome := by
  have held := h.isHeld hi
  cases hx : m.slot? pool i with
  | none => simp [Mailer.isHeld, hx] at held
  | some x => rfl

theorem le_one (h : Locks pool m subs p c) (i : Nat) : holders subs p c i ≤ 1 := by
  rw [h i]
  cases m.isHeld pool i <;> simp

/-- Of a slot that a submitter holds, neither the poller nor the shutdown has hold. -/
theorem alone (h : Locks pool m subs p c) {r : SubmitterStage} (hr : r ∈ subs)
    (hi : r.slot? = some i) : p.slot? ≠ some i ∧ c.slot? ≠ some i := by
  have one := h.le_one i
  have held : 0 < subs.countP fun s => s.slot? == some i :=
    List.countP_pos_iff.mpr ⟨r, hr, by simp [hi]⟩
  simp only [holders] at one
  constructor
  · intro hp
    rw [hp, BEq.rfl, Bool.toNat_true] at one
    omega
  · intro hc
    rw [hc, BEq.rfl, Bool.toNat_true] at one
    omega

/-- Nobody comes to hold a slot or lets one go. -/
theorem keep {subs' : List SubmitterStage} (h : Locks pool m subs p c)
    (held : ∀ i, m'.isHeld pool i = m.isHeld pool i)
    (same : ∀ i, holders subs' p' c' i = holders subs p c i) : Locks pool m' subs' p' c' := by
  intro i
  rw [same, h i, held]

theorem take {subs' : List SubmitterStage} {x : Slot M} (h : Locks pool m subs p c)
    (found : m.slot? pool i = some x) (free : x.held = false)
    (change : m.Changes m' pool i Slot.hold)
    (more : ∀ j, holders subs' p' c' j = holders subs p c j + (some i == some j).toNat) :
    Locks pool m' subs' p' c' := by
  intro j
  rw [more, h j]
  by_cases hj : j = i
  · subst hj
    simp [Mailer.isHeld, change.slot?, found, free, Slot.hold]
  · have : (i == j) = false := by simpa using Ne.symm hj
    simp [change.isHeld_ne hj, this]

theorem leave {subs' : List SubmitterStage} (h : Locks pool m subs p c)
    (change : m.Changes m' pool i Slot.free)
    (less : ∀ j, holders subs p c j = holders subs' p' c' j + (some i == some j).toNat) :
    Locks pool m' subs' p' c' := by
  intro j
  have before := h j
  rw [less] at before
  by_cases hj : j = i
  · subst hj
    -- the one who leaves was the only holder
    have one := h.le_one j
    rw [less] at one
    cases hx : m.slot? pool j with
    | none =>
      simp [Mailer.isHeld, hx] at before
    | some x =>
      simp [Mailer.isHeld, change.slot?, hx, Slot.free] at one ⊢
      omega
  · have : (i == j) = false := by simpa using Ne.symm hj
    simpa [change.isHeld_ne hj, this] using before

/-- Releasing the pools in no use takes none that someone holds a slot of. -/
theorem release (h : Locks pool m subs p c)
    (unheld : m.isUsed pool = false → ∀ i, holders subs p c i = 0) :
    Locks pool m.releaseUnused subs p c := by
  intro i
  cases hu : m.isUsed pool with
  | true =>
    rw [h i]
    simp [Mailer.isHeld, Mailer.slot?_releaseUnused, hu]
  | false =>
    rw [unheld hu i]
    simp [Mailer.isHeld, Mailer.slot?_releaseUnused, hu]

theorem keep_submitter (h : Locks pool m (pre ++ s :: post) p c)
    (held : ∀ i, m'.isHeld pool i = m.isHeld pool i) (same : s'.slot? = s.slot?) :
    Locks pool m' (pre ++ s' :: post) p c :=
  h.keep held fun i => by rw [holders_submitter, holders_submitter, same]

/-- While a pool is not used, nobody holds a slot of it. -/
theorem unheld (h : Tickets pool m subs) (flags : Flags pool m p c) (hu : m.isUsed pool = false)
    (i : Nat) : holders subs p c i = 0 := by
  have none : subs.countP (fun s => s.slot? == some i) = 0 := by
    rw [List.countP_eq_zero]
    intro s hs
    have := h.none_of_unused hu hs
    cases s <;> simp_all [SubmitterStage.ticket?, SubmitterStage.slot?]
  have released : c.hasReleased = true := by
    have unused : m.poller ≠ some pool := by
      simp only [Mailer.isUsed, Bool.or_eq_false_iff, beq_eq_false_iff_ne] at hu
      exact hu.1.2
    rw [flags.poller] at unused
    simpa using unused
  have stopped := flags.stopped (ShutdownStage.hasJoined_of_hasReleased released)
  have gone : c.slot? = Option.none := by
    cases c <;> simp_all [ShutdownStage.hasReleased, ShutdownStage.slot?]
  simp [holders, none, stopped, PollerStage.slot?, gone]

section Steps

variable [Multiplexer M]

theorem submits {acc : List Placement} (h : Locks pool m (pre ++ s :: post) p c)
    (flags : Flags pool m p c) (tickets : Tickets pool m (pre ++ s :: post))
    (step : Submits m s m' s' acc) : Locks pool m' (pre ++ s' :: post) p c := by
  have here : ∀ k, s.ticket? = some k → k.pool = pool := fun k hk =>
    (tickets.known s (by simp) k hk).2
  cases step with
  | @locked k t i x m' found free change =>
    obtain rfl := here k rfl
    refine h.take found free change fun j => ?_
    rw [holders_submitter, holders_submitter]
    rfl
  | @taken k i t x id mux m' found took change =>
    obtain rfl := here k rfl
    exact h.keep_submitter (change.isHeld_eq fun _ => rfl) rfl
  | @refused k i t x e mux m' found refused change =>
    obtain rfl := here k rfl
    exact h.keep_submitter (change.isHeld_eq fun _ => rfl) rfl
  | @unlocked k i m' change =>
    obtain rfl := here k rfl
    refine h.leave change fun j => ?_
    rw [holders_submitter, holders_submitter]
    rfl
  | @declined k i m' change =>
    obtain rfl := here k rfl
    refine h.leave change fun j => ?_
    rw [holders_submitter, holders_submitter]
    rfl
  | @left k =>
    let back : Mailer T M := { m with tickets := m.tickets.filter fun t => t.number != k.number }
    have h' : Locks pool back (pre ++ .over :: post) p c := h.keep_submitter (fun _ => rfl) rfl
    have left : Tickets pool (m.discard k.number) (pre ++ .over :: post) := tickets.left rfl rfl
    have tickets' : Tickets pool back (pre ++ .over :: post) := left.congr rfl rfl
    exact h'.release (unheld tickets' (flags.of_same rfl rfl rfl id))
  | _ => exact h.keep_submitter (fun _ => rfl) rfl

theorem polls {acc : List Placement} (h : Locks pool m subs p c)
    (step : Polls m pool p m' p' acc) : Locks pool m' subs p' c := by
  have same (hp : p'.slot? = p.slot?) (i : Nat) :
      holders subs p' c i = holders subs p c i := by
    simp only [holders, hp]
  cases step with
  | locked found free change =>
    refine h.take found free change fun j => ?_
    simp only [holders, PollerStage.slot?, Option.none_beq_some, Bool.toNat_false]
    omega
  | unlocked change =>
    refine h.leave change fun j => ?_
    simp only [holders, PollerStage.slot?, Option.none_beq_some, Bool.toNat_false]
    omega
  | waited _ change => exact h.keep (change.isHeld_eq fun _ => rfl) (same rfl)
  | performed change => exact h.keep (change.isHeld_eq fun _ => rfl) (same rfl)
  | reaped _ _ change => exact h.keep (change.isHeld_eq fun _ => rfl) (same rfl)
  | _ => exact h.keep (fun _ => rfl) (same rfl)

omit [Multiplexer M] in
theorem closes [Transport T M] (h : Locks pool m subs p c) (flags : Flags pool m p c)
    (tickets : Tickets pool m subs) (step : Closes m pool p c m' c') : Locks pool m' subs p c' := by
  have same (hc : c'.slot? = c.slot?) (i : Nat) :
      holders subs p c' i = holders subs p c i := by
    simp only [holders, hc]
  cases step with
  | locked found free change =>
    refine h.take found free change fun j => ?_
    simp only [holders, ShutdownStage.slot?, Option.none_beq_some, Bool.toNat_false]
    omega
  | unlocked change =>
    refine h.leave change fun j => ?_
    simp only [holders, ShutdownStage.slot?, Option.none_beq_some, Bool.toNat_false]
    omega
  | @released n =>
    let letGo : Mailer T M := { m with poller := none }
    have h' : Locks pool letGo subs p (.released n) := h.keep (fun _ => rfl) (same rfl)
    have flags' : Flags pool letGo p (.released n) :=
      ⟨fun hr => absurd (flags.running hr) nofun, flags.current, rfl, fun _ => flags.stopped rfl⟩
    exact h'.release (unheld (tickets.congr rfl rfl) flags')
  | _ => exact h.keep (fun _ => rfl) (same rfl)

end Steps

end Locks

end Locks

/-! ## Closing -/

/-- Nobody is about to hand a transfer to a slot that the shutdown has waited for. -/
def Closing (subs : List SubmitterStage) (c : ShutdownStage) : Prop :=
  ∀ s ∈ subs, ∀ i, s.admitted? = some i → c.hasSettled i = false

namespace Closing

variable {m m' : Mailer T M} {pool : Nat} {subs pre post : List SubmitterStage}
  {s s' : SubmitterStage} {p : PollerStage} {c c' : ShutdownStage}

theorem submits [Multiplexer M] {acc : List Placement} (h : Closing (pre ++ s :: post) c)
    (flags : Flags pool m p c) (step : Submits m s m' s' acc) : Closing (pre ++ s' :: post) c := by
  -- a submitter that is admitted now was so before, or has just seen the flag set
  have new : ∀ i, s'.admitted? = some i → c.hasSettled i = false := by
    intro i hi
    cases step with
    | admitted running => simp [flags.running running, ShutdownStage.hasSettled]
    | @taken k j t => exact h (.admitted k j t) (by simp) i hi
    | _ => cases hi
  intro r hr i hi
  simp only [List.mem_append, List.mem_cons] at hr
  rcases hr with hr | rfl | hr
  · exact h r (by simp [hr]) i hi
  · exact new i hi
  · exact h r (by simp [hr]) i hi

theorem closes [Transport T M] (h : Closing subs c) (locks : Locks pool m subs p c)
    (step : Closes m pool p c m' c') : Closing subs c' := by
  intro r hr i hi
  have before := h r hr i hi
  have held := holders_pos (p := p) (c := c) hr (SubmitterStage.slot?_of_admitted? hi)
  cases step with
  | joined => simp [ShutdownStage.hasSettled]
  | @settled j gone =>
    -- its slot would have to come before the end of the pool, and was waited for
    simp only [ShutdownStage.hasSettled, decide_eq_false_iff_not, Nat.not_lt] at before
    have := Mailer.slot?_isSome_of_le before (locks.isSome held)
    simp [gone] at this
  | @unlocked j =>
    simp only [ShutdownStage.hasSettled, decide_eq_false_iff_not, Nat.not_lt] at before ⊢
    have other : j ≠ i := by
      rintro rfl
      exact (locks.alone hr (SubmitterStage.slot?_of_admitted? hi)).2 rfl
    omega
  | _ => exact before

end Closing

end Outbox
