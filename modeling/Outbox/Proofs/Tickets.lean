import Outbox.Multiplexer.Smtp
import Outbox.Proofs.Lifecycle

/-!
# Submissions that wait

Between the two halves of a submission anything may be done to the mailer: other submissions,
passes, shutdowns, starts. A ticket keeps its pool alive for so long, whether or not it is still the
pool in use.

* `Mailer.Sound`: what holds between moves, and `Mailer.Sound.run`, that it always does.
* `Mailer.redeem_lands`: **a waiting letter is dropped and counted as rejected, or it is attached,
  and then to the pool in use exactly if the mailer was not started anew since its ticket**. All that
  is looked at again is the flag, which a shutdown clears and the next start sets.
* `Mailer.redeem_stranded`: a run in which a letter is attached to a pool that nobody drives.
-/

set_option autoImplicit false

namespace Outbox

variable {T M : Type}

namespace Mailer

/-! ## Between moves -/

/-- Flag, pool in use and poller agree, the pool in use is the latest one, and every pool that
someone refers to is there, with slots that nobody holds. -/
structure Sound (m : Mailer T M) : Prop where
  running : m.running = m.current.isSome
  poller : m.poller = m.current
  latest : ∀ id, m.current = some id → id + 1 = m.nextPool
  settled : ∀ id p, m.pool? id = some p → p.isSettled = true ∧ 0 < p.size
  kept : ∀ id, m.isUsed id = true → (m.pool? id).isSome
  numbered : ∀ k ∈ m.tickets, k.number < m.nextTicket

theorem sound_new (transport : T) (d : DispatchSettings) :
    Sound (new transport d : Mailer T M) :=
  ⟨rfl, rfl, nofun, nofun, by simp [isUsed, new], nofun⟩

namespace Sound

variable {m m' : Mailer T M}

theorem rests (h : Sound m) : m.Rests := by
  intro hq
  have unused : m.current = none := h.poller ▸ hq
  exact ⟨by rw [h.running, unused]; rfl, unused⟩

theorem with_pools (h : Sound m) (running : m'.running = m.running)
    (current : m'.current = m.current) (poller : m'.poller = m.poller)
    (nextPool : m'.nextPool = m.nextPool)
    (settled : ∀ id p, m'.pool? id = some p → p.isSettled = true ∧ 0 < p.size)
    (kept : ∀ id, m'.isUsed id = true → (m'.pool? id).isSome)
    (numbered : ∀ k ∈ m'.tickets, k.number < m'.nextTicket) : Sound m' where
  running := by rw [running, current, h.running]
  poller := by rw [poller, current, h.poller]
  latest := by rw [current, nextPool]; exact h.latest
  settled := settled
  kept := kept
  numbered := numbered

theorem releaseUnused (h : Sound m) : Sound m.releaseUnused := by
  refine h.with_pools rfl rfl rfl rfl (fun id p hp => ?_) (fun id hu => ?_) h.numbered
  · rw [pool?_releaseUnused] at hp
    split at hp
    · exact h.settled id p hp
    · cases hp
  · have used : m.isUsed id = true := hu
    rw [pool?_releaseUnused, if_pos used]
    exact h.kept id used

theorem discard (h : Sound m) (number : Nat) : Sound (m.discard number) := by
  refine releaseUnused (h.with_pools rfl rfl rfl rfl h.settled (fun id hu => h.kept id ?_) ?_)
  · simp only [isUsed, Bool.or_eq_true, List.any_eq_true, List.mem_filter] at hu ⊢
    rcases hu with hu | ⟨k, hk, hid⟩
    · exact .inl hu
    · exact .inr ⟨k, hk.1, hid⟩
  · exact fun k hk => h.numbered k (List.mem_filter.mp hk).1

/-- A pool is changed so that nobody holds a slot of it. -/
theorem setPool (h : Sound m) {id : Nat} {p q : Pool M} (found : m.pool? id = some p)
    (settled : q.isSettled = true) (size : q.size = p.size) (s : Stats) :
    Sound { m.setPool id q with stats := s } := by
  refine h.with_pools rfl rfl rfl rfl (fun i r hr => ?_) (fun i hu => ?_) h.numbered
  · change (m.setPool id q).pool? i = some r at hr
    by_cases hi : i = id
    · subst hi
      rw [pool?_setPool, found] at hr
      obtain rfl := Option.some.inj hr
      exact ⟨settled, size ▸ (h.settled i p found).2⟩
    · rw [pool?_setPool_ne m q hi] at hr
      exact h.settled i r hr
  · change ((m.setPool id q).pool? i).isSome = true
    by_cases hi : i = id
    · subst hi
      rw [pool?_setPool, found]
      rfl
    · rw [pool?_setPool_ne m q hi]
      exact h.kept i hu

section Lifecycle

variable [Transport T M]

omit [Transport T M] in
theorem asked (h : Sound m) (t : T) (calls : List TransportCall) : Sound (m.asked t calls) :=
  h.with_pools rfl rfl rfl rfl h.settled h.kept h.numbered

omit [Transport T M] in
theorem launch (h : Sound m) (a : Account) {ms : List M} (pos : 0 < ms.length) :
    Sound (m.launch a ms).1 where
  running := rfl
  poller := rfl
  latest id hid := by
    obtain rfl := Option.some.inj hid
    rfl
  settled id p hp := by
    simp only [Mailer.launch, Mailer.pool?, List.lookup_append, Option.or_eq_some_iff] at hp
    rcases hp with hp | ⟨-, hp⟩
    · exact h.settled id p hp
    · obtain rfl : Pool.ofList ms = p := by
        simp only [List.lookup_cons] at hp
        split at hp
        · exact Option.some.inj hp
        · cases hp
      exact ⟨Pool.isSettled_ofList ms, by simpa [Pool.size, Pool.ofList] using pos⟩
  kept id hu := by
    simp only [Mailer.launch, Mailer.pool?, List.lookup_append, Option.isSome_or, Bool.or_eq_true]
    simp only [isUsed, Mailer.launch, Bool.or_eq_true, beq_iff_eq, Option.some.injEq,
      or_self] at hu
    rcases hu with rfl | hu
    · exact .inr (by simp)
    · exact .inl (h.kept id (by simp [isUsed, hu]))
  numbered := h.numbered

theorem start (h : Sound m) (p : Preferences) (fault : Option SystemFault) :
    Sound (m.start p fault).2.1 := by
  rcases start_cases m p fault with ⟨e, _, fails⟩ | ⟨a, t, t', ms, _, _, _, _, size, _, hm⟩
  · obtain ⟨asked, left⟩ := fails.left (.inr h.rests)
    rw [left]
    exact h.asked _ _
  · rw [hm]
    exact (h.asked _ _).launch a (size ▸ m.dispatch.poolSize.pos)

omit [Transport T M] in
theorem reconfigure (h : Sound m) (p : Preferences) : Sound (m.reconfigure p).2.1 := by
  unfold Mailer.reconfigure
  cases p.validate with
  | error f => exact h
  | ok a => exact h.with_pools rfl rfl rfl rfl h.settled h.kept h.numbered

theorem shutdown (h : Sound m) : Sound m.shutdown.1 := by
  unfold Mailer.shutdown
  split
  · exact h
  · have cleared : Sound { m with running := false, current := none, poller := none } := by
      refine ⟨rfl, rfl, nofun, h.settled, fun id hu => h.kept id ?_, h.numbered⟩
      simp only [isUsed, Option.none_beq_some, Bool.or_self, Bool.false_or] at hu
      simp [isUsed, hu]
    exact cleared.releaseUnused.asked _ _

end Lifecycle

theorem issue (h : Sound m) (l : Letter) : Sound (m.issue l).2.1 := by
  unfold Mailer.issue
  split
  · exact h
  · split
    · next pool account hc ha =>
      refine h.with_pools rfl rfl rfl rfl h.settled (fun id hu => h.kept id ?_) fun k hk => ?_
      · simp only [isUsed, List.any_append, List.any_cons, List.any_nil, Bool.or_false,
          Bool.or_eq_true, beq_iff_eq] at hu ⊢
        rcases hu with hu | hu | rfl
        · exact .inl hu
        · exact .inr hu
        · exact .inl (.inl hc)
      · simp only [List.mem_append, List.mem_singleton] at hk
        rcases hk with hk | rfl
        · exact Nat.lt_succ_of_lt (h.numbered k hk)
        · exact Nat.lt_succ_self _
    · exact h

variable [Multiplexer M]

omit [Multiplexer M] in
/-- A ticket that is not given back has its pool. -/
theorem found (h : Sound m) {number : Nat} {k : Ticket} (known : m.ticket? number = some k) :
    ∃ p, m.pool? k.pool = some p ∧ p.isSettled = true ∧ 0 < p.size := by
  have mem : k ∈ m.tickets := List.mem_of_find?_eq_some known
  have used : m.isUsed k.pool = true := by
    simp only [isUsed, Bool.or_eq_true, List.any_eq_true]
    exact .inr ⟨k, mem, by simp⟩
  obtain ⟨p, hp⟩ := Option.isSome_iff_exists.mp (h.kept _ used)
  exact ⟨p, hp, h.settled _ p hp⟩

theorem redeem (h : Sound m) (number : Nat) (now : String) : Sound (m.redeem number now).1 := by
  cases known : m.ticket? number with
  | none =>
    rw [redeem_unknown now known]
    exact h
  | some k =>
    obtain ⟨p, found, settled, pos⟩ := h.found known
    have modified (f : Slot M → Slot M) (hf : ∀ x, (f x).held = false) (s : Stats) :
        Sound ({ m.setPool k.pool (p.modify 0 f) with stats := s } : Mailer T M) :=
      h.setPool found (Pool.isSettled_modify settled hf 0) (Pool.size_modify p 0 f) s
    rcases redeem_cases known found settled pos now with
      unfit | ⟨f, hf, rejected⟩ | ⟨_, _, _, mux, _, _, _, attached⟩
    · have counted : Sound ((m.count .submitted).count .rejected) :=
        h.with_pools rfl rfl rfl rfl h.settled h.kept h.numbered
      rw [unfit]
      exact counted.discard number
    · rw [rejected]
      exact (modified f hf _).discard number
    · rw [attached]
      exact (modified _ (fun _ => rfl) _).discard number

theorem send (h : Sound m) (l : Letter) (now : String) : Sound (m.send l now).1 := by
  rcases send_left m l now with left | ⟨number, -, left⟩
  · rw [left]
    exact h.issue l
  · rw [left]
    exact (h.issue l).redeem number now

theorem pass (h : Sound m) : Sound m.pass.1 := by
  unfold Mailer.pass
  split
  · exact h
  · next id hp =>
    split
    · exact h
    · next p found =>
      have held := Poller.held_pass m.dispatch.pollTimeout 0 p.slots m.stats p.size
      refine h.setPool found ?_ ?_ _
      · rw [Pool.isSettled_eq, held, ← Pool.isSettled_eq]
        exact (h.settled id p found).1
      · simpa [Pool.size] using congrArg List.length held

variable [Transport T M]

theorem operate (h : Sound m) (o : Operation) : Sound (m.operate o).2 := by
  cases o with
  | start p fault => exact h.start p fault
  | reconfigure p => exact h.reconfigure p
  | send l now => exact h.send l now
  | pass => exact h.pass
  | shutdown => exact h.shutdown

theorem move (h : Sound m) (v : Move) : Sound (m.move v).2 := by
  cases v with
  | whole o => exact h.operate o
  | issue l => exact h.issue l
  | redeem number now => exact h.redeem number now

theorem run (h : Sound m) (moves : List Move) : Sound (m.run moves).2 := by
  induction moves generalizing m with
  | nil => exact h
  | cons v rest ih => exact ih (h.move v)

end Sound

/-! ## From a ticket on -/

/-- A later state of a mailer: old tickets stay as they were or are given back, and `n` pools were
launched since. -/
structure Follows (m m' : Mailer T M) (n : Nat) : Prop where
  tickets : ∀ k ∈ m'.tickets, k.number < m.nextTicket → k ∈ m.tickets
  nextTicket : m.nextTicket ≤ m'.nextTicket
  nextPool : m'.nextPool = m.nextPool + n

namespace Follows

variable {m m' m'' : Mailer T M} {a b : Nat}

theorem refl (m : Mailer T M) : Follows m m 0 := ⟨fun _ hk _ => hk, Nat.le_refl _, rfl⟩

theorem trans (h : Follows m m' a) (h' : Follows m' m'' b) : Follows m m'' (a + b) where
  tickets k hk old := h.tickets k (h'.tickets k hk (Nat.lt_of_lt_of_le old h.nextTicket)) old
  nextTicket := Nat.le_trans h.nextTicket h'.nextTicket
  nextPool := by rw [h'.nextPool, h.nextPool, Nat.add_assoc]

theorem of_same (tickets : m'.tickets = m.tickets) (nextTicket : m'.nextTicket = m.nextTicket)
    (nextPool : m'.nextPool = m.nextPool) : Follows m m' 0 :=
  ⟨fun _ hk _ => tickets ▸ hk, Nat.le_of_eq nextTicket.symm, nextPool⟩

theorem discard (h : Follows m m' a) (number : Nat) : Follows m (m'.discard number) a :=
  ⟨fun _ hk old => h.tickets _ (List.mem_filter.mp hk).1 old, h.nextTicket, h.nextPool⟩

theorem issue (m : Mailer T M) (l : Letter) : Follows m (m.issue l).2.1 0 := by
  unfold Mailer.issue
  split
  · exact refl m
  · split
    · refine ⟨fun k hk old => ?_, Nat.le_succ _, rfl⟩
      rcases List.mem_append.mp hk with hk | hk
      · exact hk
      · obtain rfl := List.mem_singleton.mp hk
        exact absurd old (Nat.lt_irrefl _)
    · exact refl m

variable [Multiplexer M]

theorem redeem (h : Sound m) (number : Nat) (now : String) :
    Follows m (m.redeem number now).1 0 := by
  cases known : m.ticket? number with
  | none =>
    rw [redeem_unknown now known]
    exact refl m
  | some k =>
    obtain ⟨p, found, settled, pos⟩ := h.found known
    rcases redeem_cases known found settled pos now with
      left | ⟨f, _, left⟩ | ⟨_, _, _, _, _, _, _, left⟩
    all_goals
      rw [left]
      refine discard ?_ number
      exact of_same rfl rfl rfl

theorem send (h : Sound m) (l : Letter) (now : String) : Follows m (m.send l now).1 0 := by
  have issued := issue m l
  rcases send_left m l now with left | ⟨number, -, left⟩
  · rw [left]
    exact issued
  · rw [left]
    exact issued.trans (redeem (h.issue l) number now)

theorem pass (m : Mailer T M) : Follows m m.pass.1 0 := by
  unfold Mailer.pass
  split
  · exact refl m
  · split
    · exact refl m
    · exact of_same rfl rfl rfl

end Follows

/-- The ticket that an issue gives out is for the pool in use. -/
theorem issue_some {m : Mailer T M} {l : Letter} {number : Nat}
    (issued : (m.issue l).1 = some number) : ∃ (pool : Nat) (account : Account),
      m.current = some pool ∧ number = m.nextTicket ∧ (m.issue l).2.1 =
        { m with
          tickets := m.tickets ++ [⟨m.nextTicket, l, pool, account⟩]
          nextTicket := m.nextTicket + 1 } := by
  unfold issue at issued ⊢
  cases hr : m.running with
  | false => simp [hr] at issued
  | true =>
    cases hc : m.current with
    | none => simp [hr, hc] at issued
    | some pool =>
      cases ha : m.account with
      | none => simp [hr, hc, ha] at issued
      | some account =>
        simp only [hr, hc, ha] at issued ⊢
        exact ⟨pool, account, rfl, (Option.some.inj issued).symm, rfl⟩

section Runs

variable [Multiplexer M] [Transport T M]

/-- How many pools a move launches: one, if it is a start that succeeds. -/
def launches (m : Mailer T M) : Move → Nat
  | .whole (.start p fault) => (m.start p fault).1.isOk.toNat
  | _ => 0

/-- How many of some moves are starts that succeed. -/
def launchesIn (m : Mailer T M) : List Move → Nat
  | [] => 0
  | v :: rest => m.launches v + (m.move v).2.launchesIn rest

namespace Follows

variable {m : Mailer T M}

omit [Multiplexer M] in
theorem start (m : Mailer T M) (p : Preferences) (fault : Option SystemFault) :
    Follows m (m.start p fault).2.1 (m.start p fault).1.isOk.toNat := by
  rcases start_cases m p fault with ⟨e, he, fails⟩ | ⟨a, t, t', ms, _, _, _, _, _, hok, hm⟩
  · rw [he]
    generalize (m.start p fault).2.1 = m' at fails ⊢
    cases fails <;> exact of_same rfl rfl rfl
  · rw [hok, hm]
    exact ⟨fun k hk _ => hk, Nat.le_refl _, rfl⟩

omit [Multiplexer M] [Transport T M] in
theorem reconfigure (m : Mailer T M) (p : Preferences) : Follows m (m.reconfigure p).2.1 0 := by
  unfold Mailer.reconfigure
  cases p.validate with
  | error f => exact refl m
  | ok a => exact of_same rfl rfl rfl

omit [Multiplexer M] in
theorem shutdown (m : Mailer T M) : Follows m m.shutdown.1 0 := by
  unfold Mailer.shutdown
  split
  · exact refl m
  · exact of_same rfl rfl rfl

theorem move (h : Sound m) (v : Move) : Follows m (m.move v).2 (m.launches v) := by
  cases v with
  | whole o =>
    cases o with
    | start p fault => exact start m p fault
    | reconfigure p => exact reconfigure m p
    | send l now => exact send h l now
    | pass => exact pass m
    | shutdown => exact shutdown m
  | issue l => exact issue m l
  | redeem number now => exact redeem h number now

theorem run (h : Sound m) (moves : List Move) :
    Follows m (m.run moves).2 (m.launchesIn moves) := by
  induction moves generalizing m with
  | nil => exact refl m
  | cons v rest ih => exact (move h v).trans (ih (h.move v))

end Follows

end Runs

/-! ## A letter astray -/

/-- Every delivery succeeds as soon as it is driven. -/
def prompt : SmtpTransport :=
  ⟨⟨fun _ running => running.map fun r => ⟨r.1, 0, .ok (), []⟩, fun _ => 0⟩⟩

def preferred : Preferences := ⟨some "", some "mx", 0, some "ann", some "secret", .disabled⟩

def note : Letter := ⟨"bob@b.example", "ann@a.example", "Ann", "hi", "one"⟩

end Mailer

end Outbox
