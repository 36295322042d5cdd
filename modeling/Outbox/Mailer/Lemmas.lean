import Outbox.Mailer

/-! # What changes to a slot leave alone

Looking up a pool or a slot after a change, changes past a count, what a redeemed ticket comes to,
and what the operations on a slot have in common: they change that slot and nothing else
(`Mailer.Changes`).
-/

set_option autoImplicit false

namespace Outbox.Mailer

variable {T M : Type}

theorem lookup_map_replace {α : Type} (xs : List (Nat × α)) (id : Nat) (a : α) :
    List.lookup id (xs.map fun q => if q.1 == id then (id, a) else q) =
      (List.lookup id xs).map fun _ => a := by
  induction xs with
  | nil => rfl
  | cons x xs ih =>
    obtain ⟨k, v⟩ := x
    by_cases h : k = id
    · subst h; simp
    · have hk : (id == k) = false := beq_eq_false_iff_ne.2 fun e => h e.symm
      simpa [List.lookup_cons, h, hk] using ih

theorem lookup_filter_fst {α : Type} (xs : List (Nat × α)) (keep : Nat → Bool) (id : Nat) :
    List.lookup id (xs.filter fun q => keep q.1) = if keep id then List.lookup id xs else none := by
  induction xs with
  | nil => simp
  | cons x xs ih =>
    obtain ⟨k, v⟩ := x
    by_cases h : id = k
    · subst h
      by_cases hk : keep id
      · simp [hk]
      · simpa [hk] using ih
    · have other : (id == k) = false := by simpa using h
      by_cases hk : keep k
      · simpa [hk, List.lookup_cons, other] using ih
      · simpa [hk, List.lookup_cons, other] using ih

@[simp] theorem pool?_setPool (m : Mailer T M) (id : Nat) (p : Pool M) :
    (m.setPool id p).pool? id = (m.pool? id).map fun _ => p := lookup_map_replace ..

theorem pool?_setPool_ne (m : Mailer T M) {id i : Nat} (p : Pool M) (h : i ≠ id) :
    (m.setPool id p).pool? i = m.pool? i := by
  simp only [pool?, setPool]
  induction m.pools with
  | nil => rfl
  | cons x xs ih =>
    obtain ⟨k, v⟩ := x
    by_cases hk : k = id
    · have other : (i == id) = false := by simpa using h
      simpa [List.lookup_cons, hk, other] using ih
    · by_cases hi : i = k
      · simp [hk, hi]
      · have other : (i == k) = false := by simpa using hi
        simpa [List.lookup_cons, hk, other] using ih

theorem setPool_setPool (m : Mailer T M) (id : Nat) (p q : Pool M) :
    (m.setPool id p).setPool id q = m.setPool id q := by
  simp only [setPool, List.map_map]
  congr 1
  refine List.map_congr_left fun x _ => ?_
  by_cases h : x.1 = id <;> simp [h]

theorem pool?_count_setPool {m : Mailer T M} {id : Nat} {p : Pool M} (found : m.pool? id = some p)
    (c : Counter) (q : Pool M) : ((m.setPool id q).count c).pool? id = some q := by
  show (m.setPool id q).pool? id = _
  rw [pool?_setPool, found]
  rfl

theorem unlock_count (m : Mailer T M) (c : Counter) (pool i : Nat) :
    (m.count c).unlock pool i = (m.unlock pool i).count c := by
  simp only [unlock, pool?, count, setPool]
  cases List.lookup pool m.pools <;> rfl

theorem unlock_of_pool? {m : Mailer T M} {pool : Nat} {p : Pool M} (h : m.pool? pool = some p)
    (i : Nat) : m.unlock pool i = m.setPool pool (p.unlock i) := by
  simp only [unlock, h]

theorem modifySlot_of_pool? {m : Mailer T M} {pool : Nat} {p : Pool M}
    (h : m.pool? pool = some p) (i : Nat) (f : M → M) :
    m.modifySlot pool i f = m.setPool pool (p.modify i fun s => { s with mux := f s.mux }) := by
  simp only [modifySlot, h]

@[simp] theorem slot?_count (m : Mailer T M) (c : Counter) (pool i : Nat) :
    (m.count c).slot? pool i = m.slot? pool i := rfl

theorem lockAny_count (m : Mailer T M) (c : Counter) (pool : Nat) :
    (m.count c).lockAny pool = (m.lockAny pool).map fun r => (r.1, r.2.count c) := by
  simp only [lockAny, pool?, count, setPool]
  cases List.lookup pool m.pools with
  | none => rfl
  | some p => cases h : p.lockAny <;> simp [h]

/-! ## Redeeming a ticket

What a ticket comes to, by whether it is known, what its letter is worth, and whether a slot is
free. -/

section Redeem

variable [Multiplexer M]

theorem redeem_unknown {m : Mailer T M} {number : Nat} (now : String)
    (h : m.ticket? number = none) : m.redeem number now = (m, []) := by
  simp only [redeem, h]

theorem redeem_unprepared {m : Mailer T M} {number : Nat} {now : String} {k : Ticket}
    {e : SubmissionError} (h : m.ticket? number = some k)
    (hp : k.letter.prepare k.account m.dispatch.timeouts now = .error e) :
    m.redeem number now =
      (((m.count .submitted).count .rejected).discard number, [unsent k.letter e]) := by
  simp only [redeem, h, hp]

theorem redeem_crowded {m : Mailer T M} {number : Nat} {now : String} {k : Ticket} {t : Transfer}
    (h : m.ticket? number = some k)
    (hp : k.letter.prepare k.account m.dispatch.timeouts now = .ok t)
    (hl : m.lockAny k.pool = none) : m.redeem number now = (m, []) := by
  simp only [redeem, h, hp, lockAny_count, hl, Option.map_none]

theorem redeem_locked {m locked : Mailer T M} {number i : Nat} {now : String} {k : Ticket}
    {t : Transfer} (h : m.ticket? number = some k)
    (hp : k.letter.prepare k.account m.dispatch.timeouts now = .ok t)
    (hl : m.lockAny k.pool = some (i, locked)) :
    m.redeem number now =
      (((locked.count .submitted).attach k.letter k.pool i t).1.discard number,
        ((locked.count .submitted).attach k.letter k.pool i t).2) := by
  simp only [redeem, h, hp, lockAny_count, hl, Option.map_some]

/-- A submission is an issue, and the redeeming of the ticket if one was given out. -/
theorem send_left (m : Mailer T M) (l : Letter) (now : String) :
    (m.send l now).1 = (m.issue l).2.1 ∨
      ∃ number, (m.issue l).1 = some number ∧
        (m.send l now).1 = ((m.issue l).2.1.redeem number now).1 := by
  unfold send
  rcases m.issue l with ⟨_ | number, m', events⟩
  · exact .inl rfl
  · exact .inr ⟨number, rfl, rfl⟩

end Redeem

/-! ## One slot changed -/

/-- Slot `i` of a pool changed by `f`, and nothing else of the mailer but perhaps other pools. -/
structure Changes (m m' : Mailer T M) (pool i : Nat) (f : Slot M → Slot M) : Prop where
  same : m' = { m with pools := m'.pools }
  slot? : ∀ j, m'.slot? pool j = if j = i then (m.slot? pool j).map f else m.slot? pool j

namespace Changes

variable {m m' : Mailer T M} {pool i : Nat} {f : Slot M → Slot M}

theorem running (h : Changes m m' pool i f) : m'.running = m.running := by
  rw [h.same]

theorem current (h : Changes m m' pool i f) : m'.current = m.current := by
  rw [h.same]

theorem poller (h : Changes m m' pool i f) : m'.poller = m.poller := by
  rw [h.same]

theorem tickets (h : Changes m m' pool i f) : m'.tickets = m.tickets := by
  rw [h.same]

theorem nextTicket (h : Changes m m' pool i f) : m'.nextTicket = m.nextTicket := by
  rw [h.same]

theorem stats (h : Changes m m' pool i f) : m'.stats = m.stats := by
  rw [h.same]

theorem of_pool? {p : Pool M} (h : m.pool? pool = some p) (i : Nat) (f : Slot M → Slot M) :
    Changes m (m.setPool pool (p.modify i f)) pool i f where
  same := rfl
  slot? j := by
    by_cases hj : j = i
    · subst hj
      simp [Mailer.slot?, h, Pool.modify]
    · simp [Mailer.slot?, h, Pool.modify, hj, Ne.symm hj]

/-- Of a pool that is not there, nothing changes. -/
theorem of_pool?_none (h : m.pool? pool = none) (i : Nat) (f : Slot M → Slot M) :
    Changes m m pool i f := ⟨rfl, by simp [Mailer.slot?, h]⟩

end Changes

theorem changes_modifySlot (m : Mailer T M) (pool i : Nat) (f : M → M) :
    Changes m (m.modifySlot pool i f) pool i fun s => { s with mux := f s.mux } := by
  unfold modifySlot
  split
  · next p h => exact .of_pool? h i _
  · next h => exact .of_pool?_none h i _

theorem changes_unlock (m : Mailer T M) (pool i : Nat) :
    Changes m (m.unlock pool i) pool i fun s => { s with held := false } := by
  unfold unlock
  split
  · next p h => exact .of_pool? h i _
  · next h => exact .of_pool?_none h i _

theorem changes_tryLock {m m' : Mailer T M} {pool i : Nat} (h : m.tryLock pool i = some m') :
    Changes m m' pool i (fun s => { s with held := true }) ∧
      ∃ s, m.slot? pool i = some s ∧ s.held = false := by
  unfold tryLock at h
  cases hp : m.pool? pool with
  | none => simp [hp] at h
  | some p =>
    cases hs : p.slots[i]? with
    | none => simp [hp, Pool.tryLock, hs] at h
    | some s =>
      cases hh : s.held with
      | true => simp [hp, Pool.tryLock, hs, hh] at h
      | false =>
        simp only [hp, Pool.tryLock, hs, hh, Option.bind_eq_bind, Option.bind_some,
          Bool.false_eq_true, if_false, Option.pure_def, Option.some.injEq] at h
        exact ⟨h ▸ .of_pool? hp i _, s, by simp [slot?, hp, hs], hh⟩

theorem tryLock_of_lockAny {m m' : Mailer T M} {pool i : Nat}
    (h : m.lockAny pool = some (i, m')) : m.tryLock pool i = some m' := by
  unfold lockAny Pool.lockAny at h
  unfold tryLock
  simp only [Option.bind_eq_bind, Option.pure_def, Option.bind_eq_some_iff, Option.some.injEq,
    Prod.mk.injEq] at h
  obtain ⟨p, hp, ⟨i', p'⟩, ⟨_, _, q, hq, rfl, rfl⟩, rfl, rfl⟩ := h
  simp [hp, hq]

/-- Releasing drops a pool as a whole, if nobody refers to it. -/
theorem pool?_releaseUnused (m : Mailer T M) (id : Nat) :
    m.releaseUnused.pool? id = if m.isUsed id then m.pool? id else none :=
  lookup_filter_fst m.pools m.isUsed id

theorem slot?_releaseUnused (m : Mailer T M) (pool i : Nat) :
    m.releaseUnused.slot? pool i = if m.isUsed pool then m.slot? pool i else none := by
  simp only [slot?, pool?_releaseUnused]
  split
  · rfl
  · rfl

end Outbox.Mailer
