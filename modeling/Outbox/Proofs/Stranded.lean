import Outbox.Proofs.Conservation

/-!
# What a shutdown reports as dropped

The counters outlive the pools. A shutdown goes by the counters, so it reports every transfer that
was ever taken and not reaped, whichever pool had it.

* `Holdings`: where slots took transfers and from where they were reaped, along any operations on
  one mailer (`Mailer.holdings`).
* `Poller.Passed`: what a pass reads of each slot, next to the counters.
* `Mailer.Holds`: the counters agree with the holdings, and each slot of the pool in use has taken
  and reported what is listed for it. `Mailer.Holds.operate` is one operation.
* `Mailer.shutdown_reports`: **a shutdown reports the transfers that its own pool has not been
  reaped of, and with them those that earlier pools were released with**.
  `Mailer.shutdown_recounts` is a shutdown that drops nothing and reports a mail.
-/

set_option autoImplicit false

namespace Outbox

variable {T M : Type}

/-! ## Transfers and their pools -/

/-- Where slots took transfers, and from where transfers were reaped, in order. -/
structure Holdings where
  taken : List Placement
  reaped : List Placement
  deriving DecidableEq, Repr

namespace Holdings

def none : Holdings := ⟨[], []⟩

/-- The transfers that were taken and not reaped. -/
def unreaped (h : Holdings) : List Placement := h.taken.diff h.reaped

/-- How many of them a pool took. -/
def left (h : Holdings) (pool : Nat) : Nat := h.unreaped.countP fun a => a.pool == pool

/-- How many of them pools took that were made before it. -/
def stranded (h : Holdings) (pool : Nat) : Nat := h.unreaped.countP fun a => a.pool < pool

end Holdings

namespace Placement

theorem idsAt_of_forall {pool i : Nat} {places : List Placement}
    (h : ∀ a ∈ places, a.pool = pool ∧ a.slot = i) :
    idsAt pool i places = places.map Placement.id := by
  rw [idsAt, List.filter_eq_self.mpr]
  intro a ha
  simp [h a ha]

theorem idsAt_of_ne {pool i : Nat} {places : List Placement} (h : ∀ a ∈ places, a.slot ≠ i) :
    idsAt pool i places = [] := by
  rw [idsAt, List.filter_eq_nil_iff.mpr]
  · rfl
  · intro a ha
    simp [h a ha]

theorem idsAt_of_pool_ne {pool i : Nat} {places : List Placement}
    (h : ∀ a ∈ places, a.pool ≠ pool) : idsAt pool i places = [] := by
  rw [idsAt, List.filter_eq_nil_iff.mpr]
  · rfl
  · intro a ha
    simp [h a ha]

end Placement

/-! ## What the poller reads -/

namespace Poller

/-- The completions that were read of the slots of a pool. -/
def reads (pool : Nat) (calls : List (Nat × Call)) : List Placement :=
  calls.filterMap fun
    | (i, .next (some id)) => some ⟨pool, i, id⟩
    | _ => none

theorem reads_append (pool : Nat) (a b : List (Nat × Call)) :
    reads pool (a ++ b) = reads pool a ++ reads pool b := List.filterMap_append

variable [Multiplexer M]

/-- A slot was visited: what was read of it was reported by its multiplexer and counted. -/
structure Visited (pool slot : Nat) (m : M) (stats : Stats) (m' : M) (stats' : Stats)
    (read : List Placement) : Prop where
  history : ∀ {made : M} {taken reported : List TransferId},
    Multiplexer.History made taken reported m →
      Multiplexer.History made taken (reported ++ read.map Placement.id) m'
  here : ∀ a ∈ read, a.pool = pool ∧ a.slot = slot
  attached : stats'.attached = stats.attached
  reaped : stats'.reaped = stats.reaped + read.length

theorem reaped_count (stats : Stats) (o : Outcome) :
    (stats.count (counter o)).attached = stats.attached ∧
      (stats.count (counter o)).reaped = stats.reaped + 1 := by
  cases o with
  | ok u => exact ⟨rfl, Nat.add_right_comm ..⟩
  | error e => exact ⟨rfl, rfl⟩

theorem visited_reap (pool slot : Nat) (m : M) (stats : Stats) :
    Visited pool slot m stats (reap slot m stats).1 (reap slot m stats).2.1
      (reads pool (reap slot m stats).2.2.calls) := by
  fun_induction reap slot m stats with
  | case1 m stats hn => exact ⟨fun h => by simpa [reads] using h, by simp [reads], rfl, rfl⟩
  | case2 m stats c m' hn left counted work heq ih =>
    rw [heq] at ih
    obtain ⟨attached, reaped⟩ := reaped_count stats c.outcome
    have read : reads pool ([(slot, .next (some c.id)), (slot, .remove c.id)] ++ work.calls) =
        ⟨pool, slot, c.id⟩ :: reads pool work.calls := rfl
    constructor
    case history =>
      intro made taken reported history
      have later := ih.history ((history.told hn).removed c.id)
      rw [List.append_assoc] at later
      exact later
    case here =>
      show ∀ a ∈ reads pool ([(slot, .next (some c.id)), (slot, .remove c.id)] ++ work.calls), _
      rw [read, List.forall_mem_cons]
      exact ⟨⟨rfl, rfl⟩, ih.here⟩
    case attached => exact ih.attached.trans attached
    case reaped =>
      show counted.reaped = stats.reaped +
        (reads pool ([(slot, .next (some c.id)), (slot, .remove c.id)] ++ work.calls)).length
      have later : counted.reaped = (stats.count (counter c.outcome)).reaped +
          (reads pool work.calls).length := ih.reaped
      rw [read, List.length_cons, later, reaped, Nat.add_right_comm, Nat.add_assoc]

theorem visited_visit (standard : Duration) (pool slot : Nat) (m : M) (stats : Stats) :
    Visited pool slot m stats (visit standard slot m stats).1 (visit standard slot m stats).2.1
      (reads pool (visit standard slot m stats).2.2.calls) := by
  let limit := (Multiplexer.timeout m).getD standard
  have reaped := visited_reap pool slot
    (Multiplexer.perform (Multiplexer.wait m limit).1).1 stats
  exact ⟨fun h => reaped.history (h.waited limit).performed, reaped.here, reaped.attached,
    reaped.reaped⟩

/-- Slots were passed, the first of which is number `index` of its pool. -/
structure Passed (pool index : Nat) (slots : List (Slot M)) (stats : Stats)
    (slots' : List (Slot M)) (stats' : Stats) (read : List Placement) : Prop where
  slot : ∀ i x', slots'[i]? = some x' → ∃ x, slots[i]? = some x ∧
    ∀ {made : M} {taken reported : List TransferId}, Multiplexer.History made taken reported x.mux →
      Multiplexer.History made taken (reported ++ Placement.idsAt pool (index + i) read) x'.mux
  within : ∀ a ∈ read, a.pool = pool ∧ index ≤ a.slot ∧ a.slot < index + slots'.length
  attached : stats'.attached = stats.attached
  reaped : stats'.reaped = stats.reaped + read.length

namespace Passed

variable {pool index : Nat} {slots slots' : List (Slot M)} {stats stats' : Stats}

/-- Nothing was visited. -/
theorem refl (pool index : Nat) (slots : List (Slot M)) (stats : Stats) :
    Passed pool index slots stats slots stats [] where
  slot i x hx := ⟨x, hx, fun h => by simpa [Placement.idsAt] using h⟩
  within := nofun
  attached := rfl
  reaped := rfl

/-- A slot in front was visited. -/
theorem cons {x : Slot M} (x' : Slot M) {middle : Stats} {first read : List Placement}
    (visited : Visited pool index x.mux stats x'.mux middle first)
    (rest : Passed pool (index + 1) slots middle slots' stats' read) :
    Passed pool index (x :: slots) stats (x' :: slots') stats' (first ++ read) where
  slot i y hy := by
    rw [Placement.idsAt_append]
    cases i with
    | zero =>
      obtain rfl : x' = y := by simpa using hy
      have others : Placement.idsAt pool index read = [] :=
        Placement.idsAt_of_ne fun a ha => by have := rest.within a ha; omega
      refine ⟨x, rfl, fun h => ?_⟩
      rw [Nat.add_zero, others, List.append_nil, Placement.idsAt_of_forall visited.here]
      exact visited.history h
    | succ i =>
      obtain ⟨z, hz, history⟩ := rest.slot i y (by simpa using hy)
      have others : Placement.idsAt pool (index + (i + 1)) first = [] :=
        Placement.idsAt_of_ne fun a ha => by have := visited.here a ha; omega
      refine ⟨z, by simpa using hz, fun h => ?_⟩
      rw [others, List.nil_append, ← Nat.add_assoc, Nat.add_right_comm]
      exact history h
  within a ha := by
    rw [List.length_cons]
    rcases List.mem_append.mp ha with ha | ha
    · obtain ⟨hp, hs⟩ := visited.here a ha
      exact ⟨hp, by omega, by omega⟩
    · obtain ⟨hp, hs⟩ := rest.within a ha
      exact ⟨hp, by omega, by omega⟩
  attached := rest.attached.trans visited.attached
  reaped := by
    rw [rest.reaped, visited.reaped, List.length_append, Nat.add_assoc]

end Passed

theorem passed_pass (standard : Duration) (pool index : Nat) (slots : List (Slot M)) (stats : Stats)
    (looks : Nat) :
    Passed pool index slots stats (pass standard index slots stats looks).slots
      (pass standard index slots stats looks).stats
      (reads pool (pass standard index slots stats looks).work.calls) := by
  induction slots generalizing index stats looks with
  | nil =>
    rw [pass]
    exact .refl pool index [] stats
  | cons x rest ih =>
    cases looks with
    | zero =>
      rw [pass]
      · exact .refl pool index (x :: rest) stats
      · exact List.cons_ne_nil x rest
    | succ looks =>
      simp only [pass]
      split
      · -- a slot that is held is left as it is
        have skipped : Visited pool index x.mux stats x.mux stats [] :=
          ⟨fun h => by simpa using h, List.forall_mem_nil _, rfl, rfl⟩
        exact .cons x skipped (ih ..)
      · have visited := visited_visit standard pool index x.mux stats
        have both := Passed.cons { x with mux := (visit standard index x.mux stats).1 } visited
          (ih (index + 1) (visit standard index x.mux stats).2.1 looks)
        rw [← reads_append] at both
        exact both

end Poller

namespace Mailer

/-! ## Holdings of a mailer -/

section

variable [Multiplexer M]

/-- Where a submission in one go has its transfer taken. -/
def takes (m : Mailer T M) : Operation → Option Placement
  | .send l now =>
    match m.running, m.current, m.account with
    | true, some pool, some account => do
      let t ← (l.prepare account m.dispatch.timeouts now).toOption
      let (i, _) ← m.lockAny pool
      let x ← m.slot? pool i
      let id ← (Multiplexer.add x.mux t).1.toOption
      return ⟨pool, i, id⟩
    | _, _, _ => none
  | _ => none

variable [Transport T M]

/-- Where an operation reads completions. -/
def reaps (m : Mailer T M) (o : Operation) : List Placement :=
  match m.poller with
  | some pool => Poller.reads pool (m.operate o).1.asked
  | none => []

/-- The holdings after one more operation. -/
def booked (m : Mailer T M) (h : Holdings) (o : Operation) : Holdings :=
  ⟨h.taken ++ (m.takes o).toList, h.reaped ++ m.reaps o⟩

/-- The holdings after some operations. -/
def holdings (m : Mailer T M) (h : Holdings) : List Operation → Holdings
  | [] => h
  | o :: rest => (m.operate o).2.holdings (m.booked h o) rest

end

/-- A multiplexer that reports what it took has taken and reported what is listed for its slot. -/
def Traced [Multiplexer M] (h : Holdings) (pool i : Nat) (x : M) : Prop :=
  ∃ made, Multiplexer.Faithful made ∧ Multiplexer.History made
    (Placement.idsAt pool i h.taken) (Placement.idsAt pool i h.reaped) x

namespace Traced

variable [Multiplexer M] {h : Holdings} {pool i : Nat} {x y : M}

theorem took (traced : Traced h pool i x) {t : Transfer} {id : TransferId}
    (took : Multiplexer.add x t = (.ok id, y)) :
    Traced ⟨h.taken ++ [⟨pool, i, id⟩], h.reaped⟩ pool i y := by
  obtain ⟨made, faithful, history⟩ := traced
  refine ⟨made, faithful, ?_⟩
  rw [Placement.idsAt_append, Placement.idsAt_self ⟨pool, i, id⟩]
  exact history.took took

theorem refused (traced : Traced h pool i x) {t : Transfer} {e : TransportError}
    (refused : Multiplexer.add x t = (.error e, y)) : Traced h pool i y := by
  obtain ⟨made, faithful, history⟩ := traced
  exact ⟨made, faithful, history.refused refused⟩

/-- Another slot took a transfer. -/
theorem other (traced : Traced h pool i x) {a : Placement} (ne : i ≠ a.slot) :
    Traced ⟨h.taken ++ [a], h.reaped⟩ pool i x := by
  rwa [Traced, Placement.idsAt_append, Placement.idsAt_other a pool ne, List.append_nil]

end Traced

/-- The counters agree with the holdings, no pool to come has any, and what is listed for the slots
of the pool in use is right. -/
structure Holds [Multiplexer M] (d : DispatchSettings) (h : Holdings) (m : Mailer T M) : Prop where
  stands : Stands d m
  attached : m.stats.attached = h.taken.length
  reaped : m.stats.reaped = h.reaped.length
  covered : h.reaped.Subperm h.taken
  numbered : ∀ a ∈ h.taken, a.pool < m.nextPool
  slots : ∀ id p, m.pools = [(id, p)] → id + 1 = m.nextPool ∧
    ∀ i x, p.slots[i]? = some x → Traced h id i x.mux

namespace Holds

variable [Multiplexer M] {d : DispatchSettings} {h : Holdings} {m m' : Mailer T M}

theorem new (transport : T) (d : DispatchSettings) :
    Holds d .none (Mailer.new transport d : Mailer T M) :=
  ⟨stands_new transport d, rfl, rfl, List.Subperm.refl _, nofun, nofun⟩

/-- Nothing was taken or reaped, and the pools are as they were. -/
theorem same (hm : Holds d h m) (stands : Stands d m')
    (attached : m'.stats.attached = m.stats.attached) (reaped : m'.stats.reaped = m.stats.reaped)
    (pools : m'.pools = m.pools) (nextPool : m'.nextPool = m.nextPool) : Holds d h m' :=
  ⟨stands, attached ▸ hm.attached, reaped ▸ hm.reaped, hm.covered, nextPool ▸ hm.numbered,
    by rw [pools, nextPool]; exact hm.slots⟩

/-- What is counted and not reaped is in flight. -/
theorem inFlight_eq (hm : Holds d h m) : m.stats.inFlight = h.unreaped.length := by
  have parts : (h.reaped ++ h.unreaped).Perm h.taken :=
    List.subperm_append_diff_self_of_count_le fun a _ => hm.covered.count_le a
  have lengths := parts.length_eq
  have attached := hm.attached
  have reaped := hm.reaped
  rw [List.length_append] at lengths
  simp only [Stats.reaped] at reaped
  simp only [Stats.inFlight]
  omega

/-- What is not reaped was taken by the pool in use or by one before it. -/
theorem length_unreaped (hm : Holds d h m) {id : Nat} (latest : id + 1 = m.nextPool) :
    h.unreaped.length = h.left id + h.stranded id := by
  have within : ∀ a ∈ h.unreaped, a.pool ≤ id := by
    intro a ha
    have := hm.numbered a ((List.diff_subset _ _) ha)
    omega
  rw [Holdings.left, Holdings.stranded, List.length_eq_countP_add_countP fun a => a.pool == id]
  congr 1
  refine List.countP_congr fun a ha => ?_
  have := within a ha
  simp only [beq_iff_eq, decide_eq_true_eq]
  omega

/-- The names listed for a pool yet to come are none. -/
theorem idsAt_next (hm : Holds d h m) (i : Nat) :
    Placement.idsAt m.nextPool i h.taken = [] ∧ Placement.idsAt m.nextPool i h.reaped = [] := by
  have taken : ∀ a ∈ h.taken, a.pool ≠ m.nextPool := fun a ha => by
    have := hm.numbered a ha
    omega
  exact ⟨Placement.idsAt_of_pool_ne taken,
    Placement.idsAt_of_pool_ne fun a ha => taken a (hm.covered.subset ha)⟩

section Lifecycle

variable [Transport T M]

theorem start (hm : Holds d h m)
    (source : ∀ {t t' : T} {x : M}, Transport.allocate t = (.ok x, t') → Multiplexer.Faithful x)
    (p : Preferences) (fault : Option SystemFault) : Holds d h (m.start p fault).2.1 := by
  have stands := hm.stands.start p fault
  rcases start_cases m p fault with ⟨e, -, fails⟩ | ⟨a, t, t', ms, hq, -, -, made, -, -, left⟩
  · obtain ⟨calls, left⟩ := fails.left (.inr hm.stands.rests)
    rw [left] at stands ⊢
    exact hm.same stands rfl rfl rfl rfl
  · have idle : m.pools = [] := by
      rcases hm.stands with idle | ⟨id, q, serving⟩
      · exact idle.pools
      · rw [serving.poller] at hq
        cases hq
    have faithful : ∀ x ∈ ms, Multiplexer.Faithful x := faithful_of_makes source made
    rw [left] at stands ⊢
    refine ⟨stands, hm.attached, hm.reaped, hm.covered, fun a ha => ?_, fun id q hp => ?_⟩
    · exact Nat.lt_succ_of_lt (hm.numbered a ha)
    · simp only [launch, asked, idle, List.nil_append, List.cons.injEq, Prod.mk.injEq,
        and_true] at hp
      obtain ⟨rfl, rfl⟩ := hp
      refine ⟨rfl, fun i x hx => ?_⟩
      obtain ⟨taken, reaped⟩ := hm.idsAt_next i
      rw [Traced, taken, reaped]
      have mem : x.mux ∈ ms := by
        simp only [Pool.ofList, List.getElem?_map, Option.map_eq_some_iff] at hx
        obtain ⟨y, hy, rfl⟩ := hx
        exact List.mem_of_getElem? hy
      exact ⟨x.mux, faithful x.mux mem, .fresh⟩

omit [Transport T M] in
theorem reconfigure (hm : Holds d h m) (p : Preferences) : Holds d h (m.reconfigure p).2.1 := by
  have stands := hm.stands.reconfigure p
  unfold Mailer.reconfigure at stands ⊢
  split at stands
  · exact hm
  · exact hm.same stands rfl rfl rfl rfl

theorem shutdown (hm : Holds d h m) : Holds d h m.shutdown.1 := by
  rcases hm.stands with idle | ⟨id, p, serving⟩
  · rwa [idle.shutdown]
  · have idle := serving.shutdown.1
    have left : m.shutdown.1.stats = m.stats ∧ m.shutdown.1.nextPool = m.nextPool := by
      rw [Mailer.shutdown, if_neg (by simp [serving.poller])]
      exact ⟨rfl, rfl⟩
    refine ⟨.inl idle, left.1 ▸ hm.attached, left.1 ▸ hm.reaped, hm.covered, left.2 ▸ hm.numbered,
      fun id' q hq => ?_⟩
    rw [idle.pools] at hq
    cases hq

end Lifecycle

theorem takes_serving {id : Nat} {p : Pool M} (serving : Serving d m id p) {account : Account}
    (ha : m.account = some account) {x : Slot M} {rest : List (Slot M)} (hx : p.slots = x :: rest)
    (l : Letter) (now : String) : m.takes (.send l now) =
      (l.prepare account d.timeouts now).toOption.bind fun t =>
        (Multiplexer.add x.mux t).1.toOption.map fun name => ⟨id, 0, name⟩ := by
  have locked : p.lockAny = some (0, p.modify 0 fun s => { s with held := true }) :=
    Pool.lockAny_of_isSettled serving.settled (serving.size ▸ d.poolSize.pos)
  simp only [takes, serving.running, serving.current, ha, serving.dispatch, lockAny, serving.pool?,
    slot?, locked, hx, Option.bind_eq_bind, Option.bind_some, Option.pure_def, Option.map_eq_bind,
    List.getElem?_cons_zero]
  rfl

/-- The slots of a pool are traced if the first one is and the others are. -/
theorem slots_cons {id next : Nat} (latest : id + 1 = next) {x : Slot M}
    {rest : List (Slot M)} (first : Traced h id 0 x.mux)
    (others : ∀ i y, rest[i]? = some y → Traced h id (i + 1) y.mux) (id' : Nat) (q : Pool M)
    (hq : [(id, (⟨x :: rest⟩ : Pool M))] = [(id', q)]) :
    id' + 1 = next ∧ ∀ i y, q.slots[i]? = some y → Traced h id' i y.mux := by
  obtain ⟨rfl, rfl⟩ := Prod.mk.inj (List.singleton_inj.mp hq)
  refine ⟨latest, fun i y hy => ?_⟩
  cases i with
  | zero =>
    obtain rfl := Option.some.inj hy
    exact first
  | succ i => exact others i y hy

/-- A slot of the pool in use took a transfer or refused one, and was let go. -/
theorem send (hm : Holds d h m) (l : Letter) (now : String) :
    Holds d ⟨h.taken ++ (m.takes (.send l now)).toList, h.reaped⟩ (m.send l now).1 := by
  rcases hm.stands with idle | ⟨id, p, serving⟩
  · have nothing : m.takes (.send l now) = none := by simp [takes, idle.running]
    rw [nothing, Option.toList_none, List.append_nil, idle.send]
    exact hm
  · obtain ⟨account, ha⟩ := Option.isSome_iff_exists.mp serving.account
    have pos : 0 < p.size := serving.size ▸ d.poolSize.pos
    obtain ⟨x, rest, hx⟩ := List.exists_cons_of_length_pos pos
    obtain ⟨unfit, fit⟩ := serving.send_left ha l now
    obtain ⟨q, serves⟩ := serving.send l now
    have stands : Stands d (m.send l now).1 := .inr ⟨id, q, serves⟩
    cases prepared : l.prepare account d.timeouts now with
    | error e =>
      have nothing : m.takes (.send l now) = none := by
        rw [takes_serving serving ha hx, prepared]
        rfl
      rw [nothing, Option.toList_none, List.append_nil]
      rw [unfit e prepared] at stands ⊢
      exact hm.same stands rfl rfl rfl rfl
    | ok t =>
      obtain ⟨latest, traced⟩ := hm.slots id p serving.pools
      have first := traced 0 x (by rw [hx]; rfl)
      have others (i : Nat) (y : Slot M) (hy : rest[i]? = some y) : Traced h id (i + 1) y.mux :=
        traced (i + 1) y (by rw [hx]; exact hy)
      rw [fit t x rest prepared hx] at stands ⊢
      rcases added : Multiplexer.add x.mux t with ⟨e | name, mux⟩
      · rw [added] at stands
        have nothing : m.takes (.send l now) = none := by
          rw [takes_serving serving ha hx, prepared]
          simp [added, Except.toOption]
        rw [nothing, Option.toList_none, List.append_nil]
        exact ⟨stands, hm.attached, hm.reaped, hm.covered, hm.numbered,
          slots_cons latest (first.refused added) others⟩
      · rw [added] at stands
        have taken : m.takes (.send l now) = some ⟨id, 0, name⟩ := by
          rw [takes_serving serving ha hx, prepared]
          simp [added, Except.toOption]
        rw [taken, Option.toList_some]
        refine ⟨stands, ?_, hm.reaped, ?_, fun a hin => ?_, ?_⟩
        · show m.stats.attached + 1 = (h.taken ++ [(⟨id, 0, name⟩ : Placement)]).length
          rw [List.length_append, hm.attached]
          rfl
        · exact hm.covered.trans (List.sublist_append_left _ _).subperm
        · rcases List.mem_append.mp hin with hin | hin
          · exact hm.numbered a hin
          · obtain rfl := List.mem_singleton.mp hin
            exact Nat.lt_of_succ_le (Nat.le_of_eq latest)
        · exact slots_cons latest (first.took added)
            fun i y hy => (others i y hy).other (Nat.succ_ne_zero i)

/-- No name is read more often of traced slots than they gave it out. -/
theorem covered_read (hm : Holds d h m) {id : Nat} {slots : List (Slot M)} {read : List Placement}
    (within : ∀ a ∈ read, a.pool = id ∧ a.slot < slots.length)
    (traced : ∀ i x, slots[i]? = some x → Traced ⟨h.taken, h.reaped ++ read⟩ id i x.mux) :
    (h.reaped ++ read).Subperm h.taken := by
  rw [List.subperm_ext_iff]
  intro a _
  by_cases ha : a ∈ read
  · obtain ⟨rfl, lt⟩ := within a ha
    obtain ⟨made, faithful, history⟩ := traced a.slot _ (List.getElem?_eq_getElem lt)
    have told := (faithful history).count_le a.id
    rwa [Placement.count_idsAt, Placement.count_idsAt] at told
  · rw [List.count_append, List.count_eq_zero.mpr ha, Nat.add_zero]
    exact hm.covered.count_le a

section

variable [Transport T M]

/-- Every slot of the pool in use that is visited is reaped of completions that it reported. -/
theorem pass (hm : Holds d h m) :
    Holds d ⟨h.taken, h.reaped ++ m.reaps .pass⟩ m.pass.1 := by
  rcases hm.stands with idle | ⟨id, p, serving⟩
  · have nothing : m.reaps .pass = [] := by rw [reaps, idle.poller]
    rw [nothing, List.append_nil, idle.pass]
    exact hm
  · let r := Poller.pass m.dispatch.pollTimeout 0 p.slots m.stats p.size
    have passed := Poller.passed_pass m.dispatch.pollTimeout id 0 p.slots m.stats p.size
    have read : m.reaps .pass = Poller.reads id r.work.calls := by
      rw [reaps, serving.poller]
      show Poller.reads id m.pass.2.calls = _
      rw [serving.pass_eq]
    obtain ⟨q, serves⟩ := serving.pass
    obtain ⟨latest, traced⟩ := hm.slots id p serving.pools
    have traced' (i : Nat) (x' : Slot M) (hx' : r.slots[i]? = some x') :
        Traced ⟨h.taken, h.reaped ++ Poller.reads id r.work.calls⟩ id i x'.mux := by
      obtain ⟨x, hx, history⟩ := passed.slot i x' hx'
      obtain ⟨made, faithful, before⟩ := traced i x hx
      have after := history before
      rw [Nat.zero_add] at after
      refine ⟨made, faithful, ?_⟩
      rw [Placement.idsAt_append]
      exact after
    rw [read]
    rw [serving.pass_eq] at serves ⊢
    refine ⟨.inr ⟨id, q, serves⟩, ?_, ?_, ?_, hm.numbered, ?_⟩
    · exact passed.attached.trans hm.attached
    · show r.stats.reaped = (h.reaped ++ Poller.reads id r.work.calls).length
      rw [passed.reaped, hm.reaped, List.length_append]
    · refine hm.covered_read (fun a ha => ?_) traced'
      obtain ⟨hp, -, lt⟩ := passed.within a ha
      rw [Nat.zero_add] at lt
      exact ⟨hp, lt⟩
    · rintro id' q' ⟨⟩
      exact ⟨latest, traced'⟩

theorem operate (hm : Holds d h m)
    (source : ∀ {t t' : T} {x : M}, Transport.allocate t = (.ok x, t') → Multiplexer.Faithful x)
    (o : Operation) : Holds d (m.booked h o) (m.operate o).2 := by
  have quiet (h : Holdings) (o : Operation) (ht : m.takes o = none)
      (ha : (m.operate o).1.asked = []) : m.booked h o = h := by
    have read : m.reaps o = [] := by
      rw [reaps, ha]
      cases m.poller <;> rfl
    rw [booked, ht, read, Option.toList_none, List.append_nil, List.append_nil]
  cases o with
  | start p fault =>
    rw [quiet h _ rfl rfl]
    exact hm.start source p fault
  | reconfigure p =>
    rw [quiet h _ rfl rfl]
    exact hm.reconfigure p
  | send l now =>
    have sent := hm.send l now
    have read : m.reaps (.send l now) = [] := by
      rw [reaps]
      cases m.poller <;> rfl
    rw [booked, read, List.append_nil]
    exact sent
  | pass =>
    have passed := hm.pass
    have none : m.takes .pass = none := rfl
    rw [booked, none, Option.toList_none, List.append_nil]
    exact passed
  | shutdown =>
    rw [quiet h _ rfl rfl]
    exact hm.shutdown

theorem after (hm : Holds d h m)
    (source : ∀ {t t' : T} {x : M}, Transport.allocate t = (.ok x, t') → Multiplexer.Faithful x)
    (operations : List Operation) : Holds d (m.holdings h operations) (m.after operations) := by
  induction operations generalizing h m with
  | nil => exact hm
  | cons o rest ih => exact ih (hm.operate source o)

end

end Holds

section

variable [Multiplexer M] [Transport T M]

/-- What a shutdown reports, dropping so many mails. -/
def shutdownEvents (T : Type) {M : Type} [Transport T M] (dropped : Nat) : List Event :=
  (if dropped = 0 then [] else
    [⟨.warn, .plain, "Dropping " ++ toString dropped ++ " undelivered mail(s) on shutdown", [],
      []⟩]) ++
    Transport.released T ++ [⟨.info, .internal, "Mailer shut down", [], []⟩]

omit [Multiplexer M] in
theorem shutdownEvents_eq (dropped : Nat) : shutdownEvents T dropped =
    droppedEvents dropped ++ Transport.released T ++
      [Event.internal .info "Mailer shut down"] := by
  cases dropped <;> rfl

/-- **A shutdown reports what its own pool has not been reaped of, and what earlier pools were
released with.** After any operations, a mailer that is idle shuts down without a report. One that
runs releases its pool, of whose slots each has taken and reported what is listed for it, and the
mails that it says it drops are the unreaped ones of that pool and those that pools before it still
had when they were released. This holds over any transport whose multiplexers are faithful. -/
theorem shutdown_reports
    (source : ∀ {t t' : T} {x : M}, Transport.allocate t = (.ok x, t') → Multiplexer.Faithful x)
    (t : T) (d : DispatchSettings) (operations : List Operation) :
    let m : Mailer T M := (new t d).after operations
    let h := (new t d : Mailer T M).holdings .none operations
    (m.isRunning = false → m.shutdown = (m, [])) ∧
      ∀ id, m.current = some id →
        m.shutdown.2 = shutdownEvents T (h.left id + h.stranded id) ∧
        m.shutdown.1.pools = [] ∧ h.reaped.Subperm h.taken ∧
        ∀ i x, m.slot? id i = some x → ∃ made, Multiplexer.History made
          (Placement.idsAt id i h.taken) (Placement.idsAt id i h.reaped) x.mux := by
  intro m h
  have holds : Holds d h m := (Holds.new t d).after source operations
  rcases holds.stands with idle | ⟨id, p, serving⟩
  · refine ⟨fun _ => idle.shutdown, fun id current => ?_⟩
    rw [idle.current] at current
    cases current
  · refine ⟨fun off => absurd (serving.running.symm.trans off) (by decide), fun id' current => ?_⟩
    obtain rfl : id = id' := Option.some.inj (serving.current.symm.trans current)
    obtain ⟨latest, traced⟩ := holds.slots id p serving.pools
    refine ⟨?_, serving.shutdown.1.pools, holds.covered, fun i x hx => ?_⟩
    · rw [Mailer.shutdown, if_neg (by simp [serving.poller]), ← holds.length_unreaped latest,
        ← holds.inFlight_eq, shutdownEvents_eq]
      rfl
    · rw [slot?, serving.pool?] at hx
      obtain ⟨made, -, history⟩ := traced i x hx
      exact ⟨made, history⟩

end

/-- Deliveries that never end. -/
def stuck : SmtpTransport := ⟨⟨fun _ _ => [], fun _ => 0⟩⟩

/-- A mail is left in each of two pools. -/
theorem shutdown_reports_stuck :
    let operations : List Operation := [.start preferred, .send note "now", .shutdown,
      .start preferred, .send note "now"]
    let m : Mailer SmtpTransport SmtpMultiplexer := (new stuck .standard).after operations
    (∀ {t t' : SmtpTransport} {x : SmtpMultiplexer},
      Transport.allocate t = (.ok x, t') → Multiplexer.Faithful x) ∧
      m.current = some 1 ∧ m.shutdown.2 = shutdownEvents SmtpTransport 2 := by
  intro operations m
  have reported := (shutdown_reports SmtpTransport.faithful_allocate stuck .standard
    operations).2 1 rfl
  exact ⟨SmtpTransport.faithful_allocate, rfl, reported.1⟩

/-- A shutdown that drops nothing reports the mail that the first pool was released with. -/
theorem shutdown_recounts :
    let operations : List Operation := [.start preferred, .send note "now", .shutdown,
      .start preferred]
    let m : Mailer SmtpTransport SmtpMultiplexer := (new stuck .standard).after operations
    let h := (new stuck .standard : Mailer SmtpTransport SmtpMultiplexer).holdings .none operations
    m.current = some 1 ∧ h.left 1 = 0 ∧ m.shutdown.2 = shutdownEvents SmtpTransport 1 ∧
      m.shutdown.2 ≠ shutdownEvents SmtpTransport (h.left 1) := by
  intro operations m h
  refine ⟨rfl, rfl, rfl, ?_⟩
  intro same
  have lengths : (shutdownEvents SmtpTransport 1).length =
      (shutdownEvents SmtpTransport 0).length := congrArg List.length same
  exact absurd lengths (by decide)

end Mailer

end Outbox
