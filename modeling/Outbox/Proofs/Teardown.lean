import Mathlib.Algebra.GroupWithZero.Nat
import Outbox.Proofs.Tickets

/-!
# What a tear-down finds alive

A transport should be torn down only once every multiplexer made since it was set up is released. A
start that fails keeps to that. A shutdown does not wait for submissions under way, and each of them
refers to a pool.

* `Mailer.Accounted`: what was asked of the transport agrees with the pools there are, and
  `Mailer.Needed`: each pool is one that someone refers to. `Mailer.accounted_run`: both always hold.
* `Mailer.alive_at_tearDown`: **a tear-down comes behind the release of every multiplexer that it
  concerns exactly if no submission waits for the pool in use**.
* `Mailer.torn_down_early`: a run in which the multiplexers outlive the tear-down.
-/

set_option autoImplicit false

namespace Outbox

variable {T M : Type}

namespace Mailer

/-! ## Numbered pools -/

theorem lookup_of_mem {α : Type} {xs : List (Nat × α)} (unique : (xs.map Prod.fst).Nodup)
    {id : Nat} {a : α} (h : (id, a) ∈ xs) : xs.lookup id = some a := by
  induction xs with
  | nil => cases h
  | cons x xs ih =>
    rw [List.map_cons, List.nodup_cons] at unique
    obtain ⟨fresh, unique⟩ := unique
    rcases List.mem_cons.mp h with rfl | h
    · simp
    · have other : (id == x.1) = false := by
        rw [beq_eq_false_iff_ne]
        rintro rfl
        exact fresh (List.mem_map.mpr ⟨_, h, rfl⟩)
      rw [List.lookup_cons, other]
      exact ih unique h

theorem mem_of_lookup {α : Type} {xs : List (Nat × α)} {id : Nat} {a : α}
    (h : xs.lookup id = some a) : (id, a) ∈ xs := by
  obtain ⟨before, after, rfl, -⟩ := List.lookup_eq_some_iff.mp h
  simp

theorem filter_of_lookup {α : Type} {xs : List (Nat × α)} (unique : (xs.map Prod.fst).Nodup)
    {id : Nat} {a : α} (h : xs.lookup id = some a) : xs.filter (fun q => q.1 == id) = [(id, a)] := by
  induction xs with
  | nil => cases h
  | cons x xs ih =>
    obtain ⟨k, b⟩ := x
    rw [List.map_cons, List.nodup_cons] at unique
    obtain ⟨fresh, unique⟩ := unique
    by_cases hk : k = id
    · subst hk
      have rest : xs.filter (fun q => q.1 == k) = [] := by
        rw [List.filter_eq_nil_iff]
        intro q hq
        rw [beq_iff_eq]
        intro same
        exact fresh (same ▸ List.mem_map.mpr ⟨q, hq, rfl⟩)
      obtain rfl : b = a := by simpa using h
      simp [rest]
    · have other : (id == k) = false := beq_eq_false_iff_ne.mpr (Ne.symm hk)
      rw [List.lookup_cons, other] at h
      rw [List.filter_cons_of_neg (by simpa using hk)]
      exact ih unique h

theorem length_multiplexers (m : Mailer T M) :
    m.multiplexers.length = (m.pools.map fun q => q.2.size).sum := by
  simp only [multiplexers, List.length_flatMap, List.length_map, Pool.size]

/-! ## Calls and pools -/

/-- What was asked of the transport agrees with the pools there are, and the pool in use is what was
made since the transport was last set up. -/
structure Accounted (m : Mailer T M) : Prop where
  calls : TransportCall.Leaves m.calls m.current.isSome.toNat m.multiplexers.length
  launched : ∀ id p, m.current = some id → m.pool? id = some p →
    ∃ before n, m.calls = before ++ callsToLaunch p.size ++ List.replicate n .release
  unique : (m.pools.map Prod.fst).Nodup
  older : ∀ q ∈ m.pools, q.1 < m.nextPool

/-- Someone refers to each of the pools. -/
def Needed (m : Mailer T M) : Prop := ∀ q ∈ m.pools, m.isUsed q.1 = true

theorem accounted_new (transport : T) (d : DispatchSettings) :
    Accounted (new transport d : Mailer T M) :=
  ⟨⟨rfl, rfl⟩, nofun, List.nodup_nil, nofun⟩

/-- The pools that `releaseUnused` lets go are released slot by slot. -/
theorem calls_releaseUnused (m : Mailer T M) : m.releaseUnused.calls = m.calls ++
    List.replicate (((m.pools.filter fun q => !m.isUsed q.1).map fun q => q.2.size).sum)
      .release := by
  simp only [releaseUnused]
  congr 1
  rw [List.eq_replicate_iff]
  constructor
  · simp only [List.length_flatMap, List.length_map, Pool.size]
  · intro c hc
    obtain ⟨q, -, hq⟩ := List.mem_flatMap.mp hc
    obtain ⟨s, -, rfl⟩ := List.mem_map.mp hq
    rfl

theorem leaves_releaseUnused {m : Mailer T M} {ups : Nat}
    (h : TransportCall.Leaves m.calls ups m.multiplexers.length) :
    TransportCall.Leaves m.releaseUnused.calls ups m.releaseUnused.multiplexers.length := by
  have parted : m.multiplexers.length =
      ((m.pools.filter fun q => !m.isUsed q.1).map fun q => q.2.size).sum +
        m.releaseUnused.multiplexers.length := by
    rw [length_multiplexers, length_multiplexers, ← List.sum_append, ← List.map_append]
    have perm := List.filter_append_perm (fun q => !m.isUsed q.1) m.pools
    simp only [Bool.not_not] at perm
    exact (perm.map _).sum_nat.symm
  rw [parted] at h
  rw [calls_releaseUnused]
  exact h.release

theorem needed_releaseUnused (m : Mailer T M) : Needed m.releaseUnused := by
  intro q hq
  obtain ⟨-, used⟩ := List.mem_filter.mp hq
  exact used

namespace Accounted

variable {m m' : Mailer T M}

/-- Pools may change within, as long as none loses a slot. -/
theorem of_sizes (h : Accounted m) (calls : m'.calls = m.calls) (current : m'.current = m.current)
    (nextPool : m'.nextPool = m.nextPool)
    (sizes : m'.pools.map (fun q => (q.1, q.2.size)) = m.pools.map fun q => (q.1, q.2.size)) :
    Accounted m' := by
  have keys : m'.pools.map Prod.fst = m.pools.map Prod.fst := by
    simpa only [List.map_map, Function.comp_def] using congrArg (List.map Prod.fst) sizes
  have length : m'.multiplexers.length = m.multiplexers.length := by
    rw [length_multiplexers, length_multiplexers]
    have := congrArg (fun l => (l.map Prod.snd).sum) sizes
    simpa only [List.map_map, Function.comp_def] using this
  refine ⟨?_, ?_, keys ▸ h.unique, ?_⟩
  · rw [calls, current, length]
    exact h.calls
  · intro id p hid hp
    have mem : (id, p.size) ∈ m'.pools.map fun q => (q.1, q.2.size) :=
      List.mem_map.mpr ⟨(id, p), mem_of_lookup hp, rfl⟩
    rw [sizes] at mem
    obtain ⟨⟨i, q⟩, hq, same⟩ := List.mem_map.mp mem
    obtain ⟨rfl, size⟩ := Prod.mk.inj same
    rw [calls, ← size]
    exact h.launched i q (current ▸ hid) (lookup_of_mem h.unique hq)
  · intro q hq
    obtain ⟨r, hr, same⟩ := List.mem_map.mp (keys ▸ List.mem_map.mpr ⟨q, hq, rfl⟩)
    rw [nextPool, ← same]
    exact h.older r hr

theorem setPool (h : Accounted m) {id : Nat} {p q : Pool M} (found : m.pool? id = some p)
    (size : q.size = p.size) (s : Stats) : Accounted { m.setPool id q with stats := s } := by
  refine h.of_sizes rfl rfl rfl ?_
  simp only [Mailer.setPool, List.map_map]
  refine List.map_congr_left fun x hx => ?_
  simp only [Function.comp_apply]
  by_cases hk : x.1 = id
  · have here : m.pool? x.1 = some x.2 := lookup_of_mem h.unique hx
    rw [hk, found, Option.some.injEq] at here
    simp [hk, size, here]
  · simp [hk]

theorem releaseUnused (h : Accounted m) : Accounted m.releaseUnused := by
  refine ⟨leaves_releaseUnused h.calls, ?_, h.unique.sublist (List.filter_sublist.map _), ?_⟩
  · intro id p hid hp
    rw [pool?_releaseUnused] at hp
    split at hp
    · obtain ⟨before, n, asked⟩ := h.launched id p hid hp
      rw [calls_releaseUnused, asked, List.append_assoc _ (List.replicate n _),
        List.replicate_append_replicate]
      exact ⟨before, _, rfl⟩
    · cases hp
  · exact fun q hq => h.older q (List.mem_filter.mp hq).1

theorem discard (h : Accounted m) (number : Nat) : Accounted (m.discard number) :=
  releaseUnused (h.of_sizes rfl rfl rfl rfl)

theorem issue (h : Accounted m) (l : Letter) : Accounted (m.issue l).2.1 := by
  unfold Mailer.issue
  split
  · exact h
  · split
    · exact h.of_sizes rfl rfl rfl rfl
    · exact h

theorem redeem [Multiplexer M] (h : Accounted m) (sound : Sound m) (number : Nat) (now : String) :
    Accounted (m.redeem number now).1 := by
  cases known : m.ticket? number with
  | none =>
    rw [redeem_unknown now known]
    exact h
  | some k =>
    obtain ⟨p, found, settled, pos⟩ := sound.found known
    rcases redeem_cases known found settled pos now with
      left | ⟨f, _, left⟩ | ⟨_, _, _, mux, _, _, _, left⟩
    · rw [left]
      have counted : Accounted ((m.count .submitted).count .rejected) :=
        h.of_sizes rfl rfl rfl rfl
      exact counted.discard number
    · rw [left]
      exact (h.setPool found (Pool.size_modify p 0 f) _).discard number
    · rw [left]
      exact (h.setPool found (Pool.size_modify p 0 _) _).discard number

theorem pass [Multiplexer M] (h : Accounted m) : Accounted m.pass.1 := by
  unfold Mailer.pass
  split
  · exact h
  · split
    · exact h
    · next p found =>
      refine h.setPool found ?_ _
      have held := Poller.held_pass m.dispatch.pollTimeout 0 p.slots m.stats p.size
      simpa [Pool.size] using congrArg List.length held

/-- Where no pool is in use, the transport may be asked for what leaves nothing behind. -/
theorem asked (h : Accounted m) (unused : m.current = none) (t : T) {calls : List TransportCall}
    (leaves : TransportCall.Leaves (m.calls ++ calls) 0 m.multiplexers.length) :
    Accounted (m.asked t calls) := by
  refine ⟨?_, ?_, h.unique, h.older⟩
  · rw [show (m.asked t calls).current = none from unused]
    exact leaves
  · intro id p hid
    rw [show (m.asked t calls).current = none from unused] at hid
    cases hid

theorem launch (h : Accounted m) (unused : m.current = none) (t : T) (a : Account) (ms : List M) :
    Accounted ((m.asked t (callsToLaunch ms.length)).launch a ms).1 := by
  have unique : ((m.pools ++ [(m.nextPool, Pool.ofList ms)]).map Prod.fst).Nodup := by
    rw [List.map_append, List.nodup_append]
    refine ⟨h.unique, by simp, ?_⟩
    intro i hi j hj
    obtain ⟨q, hq, rfl⟩ := List.mem_map.mp hi
    obtain rfl := List.mem_singleton.mp hj
    exact Nat.ne_of_lt (h.older q hq)
  refine ⟨?_, ?_, unique, ?_⟩
  · have idle := h.calls
    rw [unused] at idle
    have grown : ((m.asked t (callsToLaunch ms.length)).launch a ms).1.multiplexers.length =
        ms.length + m.multiplexers.length := by
      simp [multiplexers, Mailer.launch, Mailer.asked, Pool.ofList, Nat.add_comm]
    rw [grown]
    exact idle.callsToLaunch ms.length
  · intro id p hid hp
    obtain rfl : m.nextPool = id := Option.some.inj hid
    have here : (m.pools ++ [(m.nextPool, Pool.ofList ms)]).lookup m.nextPool =
        some (Pool.ofList ms) := lookup_of_mem unique (by simp)
    obtain rfl : Pool.ofList ms = p := Option.some.inj (here.symm.trans hp)
    refine ⟨m.calls, 0, ?_⟩
    simp [Mailer.launch, Mailer.asked, Pool.ofList, Pool.size]
  · intro q hq
    rcases List.mem_append.mp hq with hq | hq
    · exact Nat.lt_succ_of_lt (h.older q hq)
    · obtain rfl := List.mem_singleton.mp hq
      exact Nat.lt_succ_self _

theorem start [Transport T M] (h : Accounted m) (sound : Sound m) (p : Preferences)
    (fault : Option SystemFault) : Accounted (m.start p fault).2.1 := by
  -- a start that gets as far as the transport finds no pool in use
  have unused : m.poller = none → m.current = none := fun hq => sound.poller ▸ hq
  have idle (hq : m.poller = none) :
      TransportCall.Leaves m.calls 0 m.multiplexers.length := by
    have := h.calls
    rwa [unused hq] at this
  rcases start_cases m p fault with ⟨e, _, fails⟩ | ⟨a, t, t', ms, hq, _, _, _, size, _, hm⟩
  · generalize (m.start p fault).2.1 = m' at fails ⊢
    cases fails with
    | running => exact h
    | refused => exact h
    | unready hq => exact h.asked (unused hq) _ (idle hq).refusal
    | short hq => exact h.asked (unused hq) _ ((idle hq).callsUpTo _)
    | @unspawned _ _ t' ms _ hq =>
      have asked := h.asked (unused hq) (Transport.tearDown t') ((idle hq).callsToWithdraw ms.length)
      exact asked.of_sizes rfl (unused hq).symm rfl rfl
  · rw [hm]
    exact h.launch (unused hq) t' a ms

theorem reconfigure (h : Accounted m) (p : Preferences) : Accounted (m.reconfigure p).2.1 := by
  unfold Mailer.reconfigure
  cases p.validate with
  | error f => exact h
  | ok a => exact h.of_sizes rfl rfl rfl rfl

end Accounted

/-! ## Shutting down -/

/-- Whether a submission under way refers to a pool. -/
def isAwaited (m : Mailer T M) (id : Nat) : Bool := m.tickets.any fun k => k.pool == id

section

variable {m : Mailer T M}

/-- What a mailer is when it has stopped and not yet let its pool go. -/
def stopped (m : Mailer T M) : Mailer T M :=
  { m with running := false, current := none, poller := none }

theorem shutdown_serving [Transport T M] (h : m.poller.isSome = true) :
    m.shutdown.1 = m.stopped.releaseUnused.tearDown := by
  rw [shutdown, if_neg (by simp [Option.isSome_iff_ne_none.mp h])]
  rfl

/-- A shutdown lets at most the pool in use go, and keeps it if it is awaited. -/
theorem Accounted.dropped (h : Accounted m) (sound : Sound m) (needed : Needed m) {id : Nat}
    {p : Pool M} (current : m.current = some id) (found : m.pool? id = some p) :
    (m.pools.filter fun q => !m.stopped.isUsed q.1) = if m.isAwaited id then [] else [(id, p)] := by
  have used (i : Nat) : m.stopped.isUsed i = m.isAwaited i := by
    simp [isUsed, stopped, isAwaited]
  have others (q : Nat × Pool M) (hq : q ∈ m.pools) (hne : q.1 ≠ id) : m.isAwaited q.1 = true := by
    have := needed q hq
    simp only [isUsed, sound.poller, current, Bool.or_eq_true, beq_iff_eq, Option.some.injEq,
      or_self] at this
    rcases this with same | awaited
    · exact absurd same.symm hne
    · exact awaited
  have only : (m.pools.filter fun q => !m.stopped.isUsed q.1) =
      m.pools.filter fun q => q.1 == id && !m.isAwaited id := by
    refine List.filter_congr fun q hq => ?_
    rw [used]
    by_cases hk : q.1 = id
    · simp [hk]
    · simp [hk, others q hq hk]
  rw [only]
  cases m.isAwaited id with
  | true => simp
  | false => simpa using filter_of_lookup h.unique found

theorem Accounted.shutdown_calls [Transport T M] (h : Accounted m) (sound : Sound m)
    (needed : Needed m) {id : Nat} {p : Pool M} (current : m.current = some id)
    (found : m.pool? id = some p) :
    m.shutdown.1.calls = m.calls ++
        (List.replicate (if m.isAwaited id then 0 else p.size) .release ++ [.tearDown]) ∧
      m.shutdown.1.pool? id = if m.isAwaited id then some p else none := by
  have driven : m.poller.isSome = true := by rw [sound.poller, current]; rfl
  rw [shutdown_serving driven]
  constructor
  · have released := calls_releaseUnused m.stopped
    rw [show m.stopped.pools = m.pools from rfl, h.dropped sound needed current found] at released
    show m.stopped.releaseUnused.calls ++ [.tearDown] = _
    rw [released, List.append_assoc]
    cases m.isAwaited id <;> simp [stopped]
  · show m.stopped.releaseUnused.pool? id = _
    rw [pool?_releaseUnused, show m.stopped.pool? id = m.pool? id from rfl, found]
    simp [isUsed, stopped, isAwaited]

theorem shutdown_idle [Transport T M] (h : m.poller = none) : m.shutdown.1 = m := by
  rw [shutdown, if_pos (by simp [h])]

theorem Accounted.shutdown [Transport T M] (h : Accounted m) (sound : Sound m) :
    Accounted m.shutdown.1 := by
  cases driven : m.poller with
  | none => rwa [shutdown_idle driven]
  | some id =>
    rw [shutdown_serving (by rw [driven]; rfl)]
    have ready : TransportCall.Leaves m.stopped.calls 1 m.stopped.multiplexers.length := by
      have calls := h.calls
      rwa [show m.current = some id from sound.poller ▸ driven] at calls
    refine ⟨(leaves_releaseUnused ready).tearDown, nofun,
      h.unique.sublist (List.filter_sublist.map _), ?_⟩
    exact fun q hq => h.older q (List.mem_filter.mp hq).1

end

/-! ## Every move -/

namespace Needed

variable {m m' : Mailer T M}

theorem of_keys (h : Needed m) (keys : m'.pools.map Prod.fst = m.pools.map Prod.fst)
    (used : ∀ id, m.isUsed id = true → m'.isUsed id = true) : Needed m' := by
  intro q hq
  obtain ⟨r, hr, same⟩ := List.mem_map.mp (keys ▸ List.mem_map.mpr ⟨q, hq, rfl⟩)
  rw [← same]
  exact used r.1 (h r hr)

theorem issue (h : Needed m) (l : Letter) : Needed (m.issue l).2.1 := by
  unfold Mailer.issue
  split
  · exact h
  · split
    · refine h.of_keys rfl fun id hu => ?_
      simp only [isUsed, List.any_append, Bool.or_eq_true] at hu ⊢
      rcases hu with hu | hu
      · exact .inl hu
      · exact .inr (.inl hu)
    · exact h

theorem redeem [Multiplexer M] (h : Needed m) (sound : Sound m) (number : Nat) (now : String) :
    Needed (m.redeem number now).1 := by
  cases known : m.ticket? number with
  | none =>
    rw [redeem_unknown now known]
    exact h
  | some k =>
    obtain ⟨p, found, settled, pos⟩ := sound.found known
    rcases redeem_cases known found settled pos now with
      left | ⟨f, _, left⟩ | ⟨_, _, _, mux, _, _, _, left⟩
    all_goals
      rw [left]
      exact needed_releaseUnused _

theorem pass [Multiplexer M] (h : Needed m) : Needed m.pass.1 := by
  unfold Mailer.pass
  split
  · exact h
  · split
    · exact h
    · next p found =>
      refine h.of_keys ?_ fun _ hu => hu
      simp only [Mailer.setPool, List.map_map]
      refine List.map_congr_left fun x _ => ?_
      simp only [Function.comp_apply]
      split
      · next same => exact (beq_iff_eq.mp same).symm
      · rfl

variable [Transport T M]

theorem start (h : Needed m) (sound : Sound m) (p : Preferences) (fault : Option SystemFault) :
    Needed (m.start p fault).2.1 := by
  rcases start_cases m p fault with ⟨e, _, fails⟩ | ⟨a, t, t', ms, hq, _, _, _, _, _, hm⟩
  · obtain ⟨asked, left⟩ := fails.left (.inr sound.rests)
    rw [left]
    exact h
  · rw [hm]
    -- nothing was in use, so it is tickets that refer to the older pools
    have unused : m.current = none := sound.poller ▸ hq
    intro q hq'
    rcases List.mem_append.mp hq' with old | new
    · have awaited := h q old
      simp only [isUsed, unused, hq, Option.none_beq_some, Bool.or_self, Bool.false_or] at awaited
      exact Bool.or_eq_true_iff.mpr (.inr awaited)
    · obtain rfl := List.mem_singleton.mp new
      simp [isUsed, launch]

omit [Transport T M] in
theorem reconfigure (h : Needed m) (p : Preferences) : Needed (m.reconfigure p).2.1 := by
  unfold Mailer.reconfigure
  cases p.validate with
  | error f => exact h
  | ok a => exact h

theorem shutdown (h : Needed m) : Needed m.shutdown.1 := by
  cases driven : m.poller with
  | none => rwa [shutdown_idle driven]
  | some id =>
    rw [shutdown_serving (by rw [driven]; rfl)]
    exact needed_releaseUnused m.stopped

end Needed

/-- All that holds of a mailer between moves. -/
structure Kept (m : Mailer T M) : Prop where
  sound : Sound m
  accounted : Accounted m
  needed : Needed m

theorem kept_new (transport : T) (d : DispatchSettings) : Kept (new transport d : Mailer T M) :=
  ⟨sound_new transport d, accounted_new transport d, nofun⟩

section Runs

variable [Multiplexer M] {m : Mailer T M}

theorem Kept.redeem (h : Kept m) (number : Nat) (now : String) : Kept (m.redeem number now).1 :=
  ⟨h.sound.redeem number now, h.accounted.redeem h.sound number now,
    h.needed.redeem h.sound number now⟩

theorem Kept.send (h : Kept m) (l : Letter) (now : String) : Kept (m.send l now).1 := by
  have issued : Kept (m.issue l).2.1 :=
    ⟨h.sound.issue l, h.accounted.issue l, h.needed.issue l⟩
  rcases send_left m l now with left | ⟨number, -, left⟩
  · exact left ▸ issued
  · exact left ▸ issued.redeem number now

variable [Transport T M]

theorem Kept.move (h : Kept m) (v : Move) : Kept (m.move v).2 := by
  have ⟨sound, accounted, needed⟩ := h
  cases v with
  | issue l => exact ⟨sound.issue l, accounted.issue l, needed.issue l⟩
  | redeem number now => exact h.redeem number now
  | whole o =>
    cases o with
    | start p fault =>
      exact ⟨sound.start p fault, accounted.start sound p fault, needed.start sound p fault⟩
    | reconfigure p => exact ⟨sound.reconfigure p, accounted.reconfigure p, needed.reconfigure p⟩
    | send l now => exact h.send l now
    | pass => exact ⟨sound.pass, accounted.pass, needed.pass⟩
    | shutdown => exact ⟨sound.shutdown, accounted.shutdown sound, needed.shutdown⟩

theorem Kept.run (h : Kept m) (moves : List Move) : Kept (m.run moves).2 := by
  induction moves generalizing m with
  | nil => exact h
  | cons v rest ih => exact ih (h.move v)

end Runs

/-! ## Tear-downs -/

/-- The calls have grown, and not by a tear-down. -/
def Untorn (m m' : Mailer T M) : Prop := ∃ asked, m'.calls = m.calls ++ asked ∧ .tearDown ∉ asked

namespace Untorn

variable {m m' m'' : Mailer T M}

theorem of_same (h : m'.calls = m.calls) : Untorn m m' := ⟨[], by simp [h], by simp⟩

theorem trans (h : Untorn m m') (h' : Untorn m' m'') : Untorn m m'' := by
  obtain ⟨asked, calls, untorn⟩ := h
  obtain ⟨asked', calls', untorn'⟩ := h'
  refine ⟨asked ++ asked', by rw [calls', calls, List.append_assoc], ?_⟩
  simp [untorn, untorn']

theorem discard (m : Mailer T M) (number : Nat) : Untorn m (m.discard number) := by
  refine ⟨_, calls_releaseUnused _, ?_⟩
  intro h
  cases List.eq_of_mem_replicate h

theorem issue (m : Mailer T M) (l : Letter) : Untorn m (m.issue l).2.1 := by
  unfold Mailer.issue
  split
  · exact .of_same rfl
  · split
    · exact .of_same rfl
    · exact .of_same rfl

theorem redeem [Multiplexer M] (sound : Sound m) (number : Nat) (now : String) :
    Untorn m (m.redeem number now).1 := by
  cases known : m.ticket? number with
  | none =>
    rw [redeem_unknown now known]
    exact .of_same rfl
  | some k =>
    obtain ⟨p, found, settled, pos⟩ := sound.found known
    rcases redeem_cases known found settled pos now with
      left | ⟨f, _, left⟩ | ⟨_, _, _, mux, _, _, _, left⟩
    all_goals
      rw [left]
      exact discard _ number

theorem send [Multiplexer M] (sound : Sound m) (l : Letter) (now : String) :
    Untorn m (m.send l now).1 := by
  rcases send_left m l now with left | ⟨number, -, left⟩
  · exact left ▸ issue m l
  · exact left ▸ (issue m l).trans (redeem (sound.issue l) number now)

theorem pass [Multiplexer M] (m : Mailer T M) : Untorn m m.pass.1 := by
  unfold Mailer.pass
  split
  · exact .of_same rfl
  · split
    · exact .of_same rfl
    · exact .of_same rfl

theorem reconfigure (m : Mailer T M) (p : Preferences) : Untorn m (m.reconfigure p).2.1 := by
  unfold Mailer.reconfigure
  cases p.validate with
  | error f => exact .of_same rfl
  | ok a => exact .of_same rfl

/-- A start tears the transport down only behind the release of all that it made. -/
theorem start [Transport T M] (m : Mailer T M) (p : Preferences) (fault : Option SystemFault) :
    Untorn m (m.start p fault).2.1 ∨
      (m.start p fault).2.1.multiplexers = m.multiplexers ∧
        ((∃ k e, (m.start p fault).1 = .error (.multiplexer k e) ∧
            (m.start p fault).2.1.calls = m.calls ++ callsUpTo k) ∨
          ∃ f, fault = some f ∧ (m.start p fault).1 = .error (.poller f) ∧
            (m.start p fault).2.1.calls =
              m.calls ++ callsToWithdraw m.dispatch.poolSize.count) := by
  rcases start_cases m p fault with ⟨e, failed, fails⟩ | ⟨a, t, t', ms, _, _, _, _, _, _, hm⟩
  · rw [failed]
    generalize (m.start p fault).2.1 = m' at fails ⊢
    cases fails with
    | running => exact .inl (.of_same rfl)
    | refused => exact .inl (.of_same rfl)
    | unready => exact .inl ⟨[.setUp false], rfl, by simp⟩
    | short => exact .inr ⟨rfl, .inl ⟨_, _, rfl, rfl⟩⟩
    | unspawned _ _ _ _ size spawn => exact .inr ⟨rfl, .inr ⟨_, spawn, rfl, by rw [← size]; rfl⟩⟩
  · rw [hm]
    exact .inl ⟨callsToLaunch ms.length, rfl, by simp [callsToLaunch]⟩

end Untorn

/-- **A tear-down finds alive what is awaited.** The transport is torn down by a start that fails at
some slot, by a start whose poller cannot be started, and by a shutdown of a mailer that serves, and
by nothing else. A start that fails has released everything that was made since the transport was
set up. A shutdown has released the pool in use, which is all that was made since then, unless a
submission under way refers to it: then all of that pool is still alive. What was made and not
released is always what the pools hold. -/
theorem alive_at_tearDown [Multiplexer M] [Transport T M] (t : T) (d : DispatchSettings)
    (moves : List Move) (v : Move) :
    let m : Mailer T M := ((new t d).run moves).2
    let m' : Mailer T M := (m.move v).2
    (Untorn m m' ∨
      (∃ p fault, v = .whole (.start p fault) ∧ m'.multiplexers = m.multiplexers ∧
        ((∃ k e, (m.start p fault).1 = .error (.multiplexer k e) ∧
            m'.calls = m.calls ++ callsUpTo k) ∨
          ∃ f, fault = some f ∧ (m.start p fault).1 = .error (.poller f) ∧
            m'.calls = m.calls ++ callsToWithdraw m.dispatch.poolSize.count)) ∨
      (v = .whole .shutdown ∧ ∃ id p before n, m.current = some id ∧ m.pool? id = some p ∧
        m.calls = before ++ callsToLaunch p.size ++ List.replicate n .release ∧
        m'.calls = m.calls ++
          (List.replicate (if m.isAwaited id then 0 else p.size) .release ++ [.tearDown]) ∧
        m'.pool? id = if m.isAwaited id then some p else none)) ∧
    m'.calls.count (.allocate true) = m'.calls.count .release + m'.multiplexers.length := by
  intro m m'
  have kept : Kept m := (kept_new t d).run moves
  refine ⟨?_, (kept.move v).accounted.calls.made⟩
  cases v with
  | issue l => exact .inl (.issue m l)
  | redeem number now => exact .inl (.redeem kept.sound number now)
  | whole o =>
    cases o with
    | reconfigure p => exact .inl (.reconfigure m p)
    | send l now => exact .inl (.send kept.sound l now)
    | pass => exact .inl (.pass m)
    | start p fault =>
      rcases Untorn.start m p fault with untorn | ⟨alive, failed⟩
      · exact .inl untorn
      · exact .inr (.inl ⟨p, fault, rfl, alive, failed⟩)
    | shutdown =>
      cases driven : m.poller with
      | none => exact .inl (.of_same (congrArg calls (shutdown_idle driven)))
      | some id =>
        have current : m.current = some id := kept.sound.poller ▸ driven
        obtain ⟨p, found⟩ := Option.isSome_iff_exists.mp
          (kept.sound.kept id (by simp [isUsed, current]))
        obtain ⟨before, n, launched⟩ := kept.accounted.launched id p current found
        obtain ⟨calls, alive⟩ := kept.accounted.shutdown_calls kept.sound kept.needed current found
        exact .inr (.inr ⟨rfl, id, p, before, n, current, found, launched, calls, alive⟩)

/-- A mailer is started, a letter waits, and the mailer is shut down. -/
def stoppedEarly : Mailer SmtpTransport SmtpMultiplexer :=
  ((new prompt .standard).run [.whole (.start preferred), .issue note, .whole .shutdown]).2

/-- The transport is torn down while both multiplexers are alive. They are released once the letter
is through, which is too late. -/
theorem torn_down_early :
    stoppedEarly.calls = [.setUp true, .allocate true, .allocate true, .tearDown] ∧
      stoppedEarly.multiplexers.length = 2 ∧
      TransportCall.live stoppedEarly.calls = 2 ∧
      (stoppedEarly.redeem 0 "now").1.calls =
        stoppedEarly.calls ++ [.release, .release] :=
  ⟨rfl, rfl, rfl, rfl⟩

end Mailer

end Outbox
