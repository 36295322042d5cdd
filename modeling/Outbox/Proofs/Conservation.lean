import Mathlib.Data.List.Count
import Mathlib.Data.List.Perm.Subperm
import Outbox.Proofs.Faithful
import Outbox.Proofs.Holding
import Outbox.Proofs.Tickets

/-!
# Mails are conserved

Submitters, the poller and a shutdown take their steps on one mailer in any order. Whatever a slot
takes is counted once when it is taken and once when it is reaped, and the counters add up between
any two steps.

* `Tally`: submitted mails are attached, rejected or under way.
* `Ledger`: what the slots took and what was reaped from them, next to the counters. It needs
  faithful multiplexers (`Multiplexer.Faithful`) at one place, when the poller reads a completion.
* `Once`: a submission has its transfer taken once.
* `Traffic.Inv`: all of it together with who holds what. `Traffic.Inv.step` is one step of any party,
  `Traffic.Inv.run` a schedule.
* `Traffic.conserved`: **in every state the counters account for every mail**.
-/

set_option autoImplicit false

namespace Outbox

variable {T M : Type}

/-! ## What is counted -/

/-- The names under which one slot of a pool has transfers, in order. -/
def Placement.idsAt (pool i : Nat) (places : List Placement) : List TransferId :=
  (places.filter fun a => a.pool == pool && a.slot == i).map Placement.id

namespace Placement

theorem idsAt_append (pool i : Nat) (xs ys : List Placement) :
    idsAt pool i (xs ++ ys) = idsAt pool i xs ++ idsAt pool i ys := by
  simp [idsAt]

theorem idsAt_self (a : Placement) : idsAt a.pool a.slot [a] = [a.id] := by simp [idsAt]

theorem idsAt_other (a : Placement) (pool : Nat) {i : Nat} (h : i ≠ a.slot) :
    idsAt pool i [a] = [] := by
  simp [idsAt, Ne.symm h]

theorem count_idsAt (a : Placement) (places : List Placement) :
    (idsAt a.pool a.slot places).count a.id = places.count a := by
  induction places with
  | nil => rfl
  | cons b rest ih =>
    have split : idsAt a.pool a.slot (b :: rest) =
        idsAt a.pool a.slot [b] ++ idsAt a.pool a.slot rest := idsAt_append _ _ [b] rest
    rw [split, List.count_append, ih, List.count_cons, Nat.add_comm]
    congr 1
    obtain ⟨p, i, n⟩ := a
    obtain ⟨q, j, k⟩ := b
    by_cases hq : q = p
    · by_cases hj : j = i
      · by_cases hk : k = n <;> simp [idsAt, hq, hj, hk]
      · simp [idsAt, hq, hj]
    · simp [idsAt, hq]

end Placement

namespace SubmitterStage

/-- Whether the letter is counted as submitted, and not yet as attached or rejected. -/
def isPending : SubmitterStage → Bool
  | .submitted .. | .prepared .. | .holding .. | .admitted .. | .taken .. | .declined ..
  | .failed .. => true
  | _ => false

/-- Where the transfer was taken, while that is not yet counted. -/
def uncounted? : SubmitterStage → Option Placement
  | .taken k i id => some ⟨k.pool, i, id⟩
  | _ => none

theorem slot?_of_uncounted? {s : SubmitterStage} {a : Placement} (h : s.uncounted? = some a) :
    s.slot? = some a.slot := by
  cases s with
  | taken k i id =>
    obtain rfl := Option.some.inj h
    rfl
  | _ => cases h

/-- Whether no transfer will be handed to a slot any more. -/
def isThrough : SubmitterStage → Bool
  | .taken .. | .attached .. | .leaving .. | .over => true
  | _ => false

end SubmitterStage

/-- The number of mails that a shutdown reported as dropped. -/
def ShutdownStage.dropped? : ShutdownStage → Option Nat
  | .reported n | .released n | .finished n => some n
  | _ => none

/-- The transfers that slots took and that are not yet counted. -/
def uncounted (subs : List SubmitterStage) : List Placement :=
  subs.filterMap SubmitterStage.uncounted?

theorem uncounted_submitter (pre post : List SubmitterStage) (s : SubmitterStage) :
    uncounted (pre ++ s :: post) = uncounted pre ++ (s.uncounted?.toList ++ uncounted post) := by
  simp only [uncounted, List.filterMap_append, List.filterMap_cons]
  cases s.uncounted? <;> rfl

namespace Traffic

/-- Where slots took transfers so far, in order. -/
def places (w : Traffic T M) : List Placement := w.accepted.map Prod.snd

/-- The transfers that slots took and that are not reaped. -/
def outstanding (w : Traffic T M) : List Placement := w.places.diff w.reaped

/-- Whether nobody holds a slot. -/
def isFree (w : Traffic T M) : Bool := w.mailer.pools.all fun q => q.2.isSettled

end Traffic

/-! ## Submissions -/

/-- Submitted letters are attached, rejected or under way. -/
def Tally (stats : Stats) (subs : List SubmitterStage) : Prop :=
  stats.submitted = stats.attached + stats.rejected + subs.countP SubmitterStage.isPending

theorem Tally.submits [Multiplexer M] {m m' : Mailer T M} {pre post : List SubmitterStage}
    {s s' : SubmitterStage} {acc : List Placement} (h : Tally m.stats (pre ++ s :: post))
    (step : Submits m s m' s' acc) : Tally m'.stats (pre ++ s' :: post) := by
  simp only [Tally, List.countP_append, List.countP_cons] at h ⊢
  cases step with
  | locked _ _ change => rw [change.stats]; exact h
  | taken _ _ change => rw [change.stats]; exact h
  | refused _ _ change => rw [change.stats]; exact h
  | unlocked change => rw [change.stats]; exact h
  | declined change => rw [change.stats]; exact h
  | submitted => simp [Mailer.count, Stats.count, SubmitterStage.isPending] at h ⊢; omega
  | attached => simp [Mailer.count, Stats.count, SubmitterStage.isPending] at h ⊢; omega
  | rejected => simp [Mailer.count, Stats.count, SubmitterStage.isPending] at h ⊢; omega
  | _ => exact h

theorem Tally.polls [Multiplexer M] {m m' : Mailer T M} {pool : Nat} {p p' : PollerStage}
    {subs : List SubmitterStage} {acc : List Placement} (h : Tally m.stats subs)
    (step : Polls m pool p m' p' acc) : Tally m'.stats subs := by
  cases step with
  | locked _ _ change => exact change.stats ▸ h
  | waited _ change => exact change.stats ▸ h
  | performed change => exact change.stats ▸ h
  | unlocked change => exact change.stats ▸ h
  | @reaped i x c mux m' _ _ change =>
    rw [← change.stats] at h
    cases hc : c.outcome <;> exact h
  | _ => exact h

theorem Tally.closes [Transport T M] {m m' : Mailer T M} {pool : Nat} {p : PollerStage}
    {c c' : ShutdownStage} {subs : List SubmitterStage} (h : Tally m.stats subs)
    (step : Closes m pool p c m' c') : Tally m'.stats subs := by
  cases step with
  | locked _ _ change => exact change.stats ▸ h
  | unlocked change => exact change.stats ▸ h
  | _ => exact h

/-- A submission has its transfer taken once, and none after that. -/
structure Once (subs : List SubmitterStage) (accepted : List (Nat × Placement)) : Prop where
  nodup : (accepted.map Prod.fst).Nodup
  through : ∀ a ∈ accepted, ∃ s, subs[a.1]? = some s ∧ s.isThrough = true

theorem Once.submits [Multiplexer M] {m m' : Mailer T M} {pre post : List SubmitterStage}
    {s s' : SubmitterStage} {acc : List Placement} {accepted : List (Nat × Placement)}
    (h : Once (pre ++ s :: post) accepted) (step : Submits m s m' s' acc) :
    Once (pre ++ s' :: post) (accepted ++ acc.map fun a => (pre.length, a)) := by
  have moved (j : Nat) : (pre ++ s' :: post)[j]? =
      if pre.length = j then some s' else (pre ++ s :: post)[j]? := by
    have set : (pre ++ s :: post).set pre.length s' = pre ++ s' :: post := by simp
    rw [← set, List.getElem?_set]
    simp
  have stays : s.isThrough = true → s'.isThrough = true := by
    intro hs
    cases step <;> simp_all [SubmitterStage.isThrough]
  have others : ∀ a ∈ accepted, ∃ r, (pre ++ s' :: post)[a.1]? = some r ∧ r.isThrough = true := by
    intro a ha
    obtain ⟨r, hr, through⟩ := h.through a ha
    rw [moved]
    split
    · next here =>
      obtain rfl : s = r := by simpa [← here] using hr
      exact ⟨s', rfl, stays through⟩
    · exact ⟨r, hr, through⟩
  have first : s.isThrough = false → pre.length ∉ accepted.map Prod.fst := by
    intro hs hm
    obtain ⟨a, ha, here⟩ := List.mem_map.mp hm
    obtain ⟨r, hr, through⟩ := h.through a ha
    obtain rfl : s = r := by simpa [here] using hr
    simp [hs] at through
  cases step with
  | taken =>
    constructor
    · rw [List.map_append, List.nodup_append]
      refine ⟨h.nodup, by simp, ?_⟩
      rintro j hj _ hi rfl
      obtain rfl : j = pre.length := by simpa using hi
      exact first rfl hj
    · intro a ha
      rcases List.mem_append.mp ha with ha | ha
      · exact others a ha
      · obtain rfl := List.mem_singleton.mp ha
        exact ⟨_, (moved _).trans (if_pos rfl), rfl⟩
  | _ => exact ⟨by simpa using h.nodup, by simpa using others⟩

/-! ## Transfers -/

/-- What the slots took and what was reaped from them, next to the counters. The slots of `origin`
are those that the pool started with. -/
structure Ledger (origin : Mailer T M) [Multiplexer M] (pool : Nat) (m : Mailer T M)
    (waiting accepted reaped : List Placement) : Prop where
  history : ∀ i x, m.slot? pool i = some x → ∃ y, origin.slot? pool i = some y ∧
    Multiplexer.History y.mux (Placement.idsAt pool i accepted) (Placement.idsAt pool i reaped)
      x.mux
  placed : ∀ a ∈ accepted, a.pool = pool ∧ (origin.slot? pool a.slot).isSome
  taken : m.stats.attached + waiting.length = accepted.length
  ended : m.stats.reaped = reaped.length
  covered : (reaped ++ waiting).Subperm accepted

namespace Ledger

variable [Multiplexer M] {origin m m' : Mailer T M} {pool i : Nat}
  {waiting waiting' accepted reaped : List Placement}

theorem of_change (h : Ledger origin pool m waiting accepted reaped) {f : Slot M → Slot M}
    (change : m.Changes m' pool i f)
    (next : ∀ {made : M} {taken reported : List TransferId} {x : Slot M},
      m.slot? pool i = some x → Multiplexer.History made taken reported x.mux →
        Multiplexer.History made taken reported (f x).mux) :
    Ledger origin pool m' waiting accepted reaped where
  history j z hz := by
    rw [change.slot?] at hz
    split at hz
    · next here =>
      subst here
      obtain ⟨x, hx, rfl⟩ := Option.map_eq_some_iff.mp hz
      obtain ⟨y, hy, history⟩ := h.history j x hx
      exact ⟨y, hy, next hx history⟩
    · exact h.history j z hz
  placed := h.placed
  taken := change.stats ▸ h.taken
  ended := change.stats ▸ h.ended
  covered := h.covered

/-- The slots that are left are as before, and so is what was attached and reaped. -/
theorem of_slots (h : Ledger origin pool m waiting accepted reaped)
    (slots : ∀ i x, m'.slot? pool i = some x → m.slot? pool i = some x)
    (attached : m'.stats.attached = m.stats.attached) (ended : m'.stats.reaped = m.stats.reaped) :
    Ledger origin pool m' waiting accepted reaped :=
  ⟨fun i x hx => h.history i x (slots i x hx), h.placed, attached ▸ h.taken, ended ▸ h.ended,
    h.covered⟩

theorem releaseUnused (h : Ledger origin pool m waiting accepted reaped) :
    Ledger origin pool m.releaseUnused waiting accepted reaped := by
  refine h.of_slots (fun i x hx => ?_) rfl rfl
  rw [Mailer.slot?_releaseUnused] at hx
  split at hx
  · exact hx
  · cases hx

/-- A slot took a transfer. -/
theorem accept (h : Ledger origin pool m waiting accepted reaped) {x : Slot M} {t : Transfer}
    {id : TransferId} {mux : M} (found : m.slot? pool i = some x)
    (took : Multiplexer.add x.mux t = (.ok id, mux)) (change : m.Changes m' pool i (Slot.put mux))
    (more : waiting'.Perm (⟨pool, i, id⟩ :: waiting)) :
    Ledger origin pool m' waiting' (accepted ++ [⟨pool, i, id⟩]) reaped where
  history j z hz := by
    rw [change.slot?] at hz
    split at hz
    · next here =>
      subst here
      obtain ⟨x', hx', rfl⟩ := Option.map_eq_some_iff.mp hz
      obtain rfl := Option.some.inj (found.symm.trans hx')
      obtain ⟨y, hy, history⟩ := h.history j x found
      rw [Placement.idsAt_append, Placement.idsAt_self ⟨pool, j, id⟩]
      exact ⟨y, hy, history.took took⟩
    · next other =>
      rw [Placement.idsAt_append, Placement.idsAt_other ⟨pool, i, id⟩ pool other, List.append_nil]
      exact h.history j z hz
  placed a ha := by
    rcases List.mem_append.mp ha with ha | ha
    · exact h.placed a ha
    · obtain rfl := List.mem_singleton.mp ha
      obtain ⟨y, hy, -⟩ := h.history i x found
      exact ⟨rfl, by simp [hy]⟩
  taken := by
    have := h.taken
    simp only [change.stats, more.length_eq, List.length_cons, List.length_append, List.length_nil]
    omega
  ended := change.stats ▸ h.ended
  covered := by
    have moved : (reaped ++ waiting').Perm ((reaped ++ waiting) ++ [⟨pool, i, id⟩]) := by
      rw [List.append_assoc]
      exact (more.trans (List.perm_append_singleton _ _).symm).append_left _
    exact moved.subperm.trans ((List.subperm_append_right _).mpr h.covered)

/-- A transfer that a slot took is counted. -/
theorem count_attached (h : Ledger origin pool m waiting accepted reaped) {a : Placement}
    (less : waiting.Perm (a :: waiting')) :
    Ledger origin pool (m.count .attached) waiting' accepted reaped where
  history := h.history
  placed := h.placed
  taken := by
    have := h.taken
    simp only [less.length_eq, List.length_cons] at this
    simp only [Mailer.count, Stats.count]
    omega
  ended := h.ended
  covered := by
    refine List.Subperm.trans ?_ h.covered
    refine (List.subperm_append_left _).mpr ?_
    exact (List.sublist_cons_self a waiting').subperm.trans less.symm.subperm

theorem submits {pre post : List SubmitterStage} {s s' : SubmitterStage} {acc : List Placement}
    (h : Ledger origin pool m (uncounted (pre ++ s :: post)) accepted reaped)
    (tickets : Tickets pool m (pre ++ s :: post)) (step : Submits m s m' s' acc) :
    Ledger origin pool m' (uncounted (pre ++ s' :: post)) (accepted ++ acc) reaped := by
  have here : ∀ k, s.ticket? = some k → k.pool = pool := fun k hk =>
    (tickets.known s (by simp) k hk).2
  rw [uncounted_submitter] at h ⊢
  cases step with
  | @locked k t i x m' _ _ change =>
    obtain rfl := here k rfl
    rw [List.append_nil]
    exact h.of_change change fun _ history => history
  | @taken k t i x id mux m' found took change =>
    obtain rfl := here k rfl
    exact h.accept found took change List.perm_middle
  | @refused k t i x e mux m' found refused change =>
    obtain rfl := here k rfl
    rw [List.append_nil]
    refine h.of_change change fun found' history => ?_
    obtain rfl := Option.some.inj (found.symm.trans found')
    exact history.refused refused
  | attached =>
    rw [List.append_nil]
    exact h.count_attached List.perm_middle
  | @unlocked k i m' change =>
    obtain rfl := here k rfl
    rw [List.append_nil]
    exact h.of_change change fun _ history => history
  | @declined k i m' change =>
    obtain rfl := here k rfl
    rw [List.append_nil]
    exact h.of_change change fun _ history => history
  | @left k =>
    rw [List.append_nil]
    have back : Ledger origin pool
        { m with tickets := m.tickets.filter fun t => t.number != k.number } _ accepted reaped :=
      h.of_slots (fun _ _ hx => hx) rfl rfl
    exact back.releaseUnused
  | _ =>
    rw [List.append_nil]
    exact h.of_slots (fun _ _ hx => hx) rfl rfl

/-- A completion was read, of a slot that no submitter holds, and counted. -/
theorem reap (h : Ledger origin pool m waiting accepted reaped)
    (faithful : ∀ i y, origin.slot? pool i = some y → Multiplexer.Faithful y.mux) {x : Slot M}
    {c : Completion} {mux : M} (found : m.slot? pool i = some x)
    (read : Multiplexer.next x.mux = some (c, mux))
    (change : m.Changes m' pool i (Slot.put (Multiplexer.remove mux c.id).2))
    (alone : ∀ a ∈ waiting, a.slot ≠ i) :
    Ledger origin pool (m'.count (Poller.counter c.outcome)) waiting accepted
      (reaped ++ [⟨pool, i, c.id⟩]) where
  history j z hz := by
    rw [Mailer.slot?_count, change.slot?] at hz
    split at hz
    · next here =>
      subst here
      obtain ⟨x', hx', rfl⟩ := Option.map_eq_some_iff.mp hz
      obtain rfl := Option.some.inj (found.symm.trans hx')
      obtain ⟨y, hy, history⟩ := h.history j x found
      rw [Placement.idsAt_append, Placement.idsAt_self ⟨pool, j, c.id⟩]
      exact ⟨y, hy, (history.told read).removed c.id⟩
    · next other =>
      rw [Placement.idsAt_append, Placement.idsAt_other ⟨pool, i, c.id⟩ pool other,
        List.append_nil]
      exact h.history j z hz
  placed := h.placed
  taken := by
    rw [← h.taken, ← change.stats]
    cases c.outcome <;> rfl
  ended := by
    have := h.ended
    rw [← change.stats] at this
    simp only [Stats.reaped] at this
    cases c.outcome <;>
      simp [Poller.counter, Mailer.count, Stats.count, Stats.reaped] <;> omega
  covered := by
    let a : Placement := ⟨pool, i, c.id⟩
    obtain ⟨y, hy, history⟩ := h.history i x found
    -- what the multiplexer reported, the new completion included, it took before
    have told : reaped.count a + 1 ≤ accepted.count a := by
      have := (faithful i y hy (history.told read)).count_le c.id
      rw [List.count_append, Placement.count_idsAt a, Placement.count_idsAt a] at this
      simpa using this
    have unheld : waiting.count a = 0 :=
      List.count_eq_zero.mpr fun ha => alone a ha rfl
    rw [List.subperm_ext_iff]
    intro b _
    show List.count b ((reaped ++ [a]) ++ waiting) ≤ _
    have before := h.covered.count_le b
    simp only [List.count_append, List.count_singleton] at before ⊢
    by_cases hb : a = b
    · subst hb
      simp
      omega
    · simpa [hb] using before

theorem polls {p p' : PollerStage} {c : ShutdownStage} {subs : List SubmitterStage}
    {acc : List Placement} (h : Ledger origin pool m (uncounted subs) accepted reaped)
    (faithful : ∀ i y, origin.slot? pool i = some y → Multiplexer.Faithful y.mux)
    (locks : Locks pool m subs p c) (step : Polls m pool p m' p' acc) :
    Ledger origin pool m' (uncounted subs) accepted (reaped ++ acc) := by
  cases step with
  | locked _ _ change =>
    rw [List.append_nil]
    exact h.of_change change fun _ history => history
  | waited limit change =>
    rw [List.append_nil]
    exact h.of_change change fun _ history => history.waited _
  | performed change =>
    rw [List.append_nil]
    exact h.of_change change fun _ history => history.performed
  | unlocked change =>
    rw [List.append_nil]
    exact h.of_change change fun _ history => history
  | @reaped i x c mux m' found read change =>
    refine h.reap faithful found read change fun a ha hi => ?_
    obtain ⟨s, hs, hu⟩ := List.mem_filterMap.mp ha
    exact (locks.alone hs (hi ▸ SubmitterStage.slot?_of_uncounted? hu)).1 rfl
  | _ =>
    rw [List.append_nil]
    exact h.of_slots (fun _ _ hx => hx) rfl rfl

theorem closes [Transport T M] {p : PollerStage} {c c' : ShutdownStage}
    (h : Ledger origin pool m waiting accepted reaped) (step : Closes m pool p c m' c') :
    Ledger origin pool m' waiting accepted reaped := by
  cases step with
  | locked _ _ change => exact h.of_change change fun _ history => history
  | unlocked change => exact h.of_change change fun _ history => history
  | released =>
    have letGo : Ledger origin pool { m with poller := none } waiting accepted reaped :=
      h.of_slots (fun _ _ hx => hx) rfl rfl
    exact letGo.releaseUnused
  | _ => exact h.of_slots (fun _ _ hx => hx) rfl rfl

end Ledger

/-! ## Dropped mails -/

/-- What a shutdown reported as dropped is still what is attached and not reaped. -/
def Dropped (stats : Stats) (c : ShutdownStage) : Prop :=
  ∀ n, c.dropped? = some n → n = stats.inFlight

namespace Dropped

variable {m m' : Mailer T M} {pool : Nat} {p p' : PollerStage} {c c' : ShutdownStage}

theorem submits [Multiplexer M] {pre post : List SubmitterStage} {s s' : SubmitterStage}
    {acc : List Placement} (h : Dropped m.stats c) (closing : Closing (pre ++ s :: post) c)
    (step : Submits m s m' s' acc) : Dropped m'.stats c := by
  cases step with
  | locked _ _ change => exact change.stats ▸ h
  | taken _ _ change => exact change.stats ▸ h
  | refused _ _ change => exact change.stats ▸ h
  | unlocked change => exact change.stats ▸ h
  | declined change => exact change.stats ▸ h
  | @attached k i id =>
    -- the shutdown waited for every slot before it reported, and this one has a transfer to count
    intro n hn
    have unsettled := closing (.taken k i id) (by simp) i rfl
    cases c <;> simp_all [ShutdownStage.dropped?, ShutdownStage.hasSettled]
  | _ => exact h

theorem polls [Multiplexer M] {acc : List Placement} (h : Dropped m.stats c)
    (flags : Flags pool m p c) (step : Polls m pool p m' p' acc) : Dropped m'.stats c := by
  intro n hn
  have stopped : p = .stopped := flags.stopped (by
    cases c <;> simp_all [ShutdownStage.dropped?, ShutdownStage.hasJoined])
  subst stopped
  cases step
  exact h n hn

theorem closes [Transport T M] (h : Dropped m.stats c) (step : Closes m pool p c m' c') :
    Dropped m'.stats c' := by
  intro n hn
  cases step with
  | reported => exact (Option.some.inj hn).symm
  | released => exact h n hn
  | tornDown => exact h n hn
  | finished => exact h n hn
  | _ => cases hn

end Dropped

/-! ## Whole runs -/

namespace Mailer

/-- A mailer just started has launched multiplexers that the transport made in a row. -/
theorem launched_of_started [Transport T M] {t : T} {d : DispatchSettings} {p : Preferences}
    {m : Mailer T M} {events : List Event}
    (started : (new t d).start p = (.ok (), m, events)) :
    ∃ (a : Account) (t₁ t₂ : T) (calls : List TransportCall) (ms : List M),
      Transport.Makes t₁ ms t₂ ∧ m = (((new t d).asked t₂ calls).launch a ms).1 := by
  rcases start_cases (new t d : Mailer T M) p none with
    ⟨e, he, _⟩ | ⟨a, t₁, t₂, ms, _, _, _, made, _, _, hm⟩
  · rw [started] at he
    cases he
  · exact ⟨a, t₁, t₂, _, ms, made, by rw [← hm, started]⟩

/-- A transport makes faithful multiplexers in a row if it makes no others. -/
theorem faithful_of_makes [Multiplexer M] [Transport T M] {t t' : T} {ms : List M}
    (source : ∀ {t t' : T} {x : M}, Transport.allocate t = (.ok x, t') → Multiplexer.Faithful x)
    (made : Transport.Makes t ms t') : ∀ x ∈ ms, Multiplexer.Faithful x := by
  induction made with
  | none => nofun
  | next h _ ih => exact List.forall_mem_cons.mpr ⟨source h, ih⟩

/-- The multiplexers of a mailer just started are faithful if the transport makes no others. -/
theorem faithful_of_started [Multiplexer M] [Transport T M] {t : T} {d : DispatchSettings}
    {p : Preferences} {m : Mailer T M} {events : List Event}
    (source : ∀ {t t' : T} {x : M}, Transport.allocate t = (.ok x, t') → Multiplexer.Faithful x)
    (started : (new t d).start p = (.ok (), m, events)) :
    ∀ x ∈ m.multiplexers, Multiplexer.Faithful x := by
  obtain ⟨a, t₁, t₂, calls, ms, made, rfl⟩ := launched_of_started started
  have all : ∀ x ∈ ms, Multiplexer.Faithful x := faithful_of_makes source made
  simpa [multiplexers, launch, asked, new, Pool.ofList] using all

theorem mem_multiplexers_of_slot? {m : Mailer T M} {pool i : Nat} {x : Slot M}
    (h : m.slot? pool i = some x) : x.mux ∈ m.multiplexers := by
  unfold slot? at h
  obtain ⟨p, hp, hx⟩ := Option.bind_eq_some_iff.mp h
  obtain ⟨before, after, split, _⟩ := List.lookup_eq_some_iff.mp hp
  refine List.mem_flatMap.mpr ⟨(pool, p), by simp [split], ?_⟩
  exact List.mem_map_of_mem (List.mem_of_getElem? hx)

end Mailer

namespace Traffic

section Steps

variable [Multiplexer M] [Transport T M] {w : Traffic T M}

theorem step_submitter {i : Nat} {s : SubmitterStage} (h : w.submitters[i]? = some s) :
    w.step (.submitter i) =
      { w with
        mailer := (submit w.mailer s).1
        submitters := w.submitters.set i (submit w.mailer s).2.1
        accepted := w.accepted ++ (submit w.mailer s).2.2.map fun a => (i, a) } := by
  simp only [step, h]

theorem step_poller {pool : Nat} (h : w.mailer.poller = some pool) :
    w.step .poller =
      { w with
        mailer := (poll w.mailer pool w.poller).1
        poller := (poll w.mailer pool w.poller).2.1
        reaped := w.reaped ++ (poll w.mailer pool w.poller).2.2 } := by
  simp only [step, h]

/-- What holds between any two steps. -/
structure Inv (origin : Mailer T M) (pool : Nat) (w : Traffic T M) : Prop where
  flags : Flags pool w.mailer w.poller w.shutdown
  tickets : Tickets pool w.mailer w.submitters
  locks : Locks pool w.mailer w.submitters w.poller w.shutdown
  closing : Closing w.submitters w.shutdown
  tally : Tally w.mailer.stats w.submitters
  ledger : Ledger origin pool w.mailer (uncounted w.submitters) w.places w.reaped
  once : Once w.submitters w.accepted
  dropped : Dropped w.mailer.stats w.shutdown

namespace Inv

variable {origin : Mailer T M} {pool : Nat}

theorem submitter (h : Inv origin pool w) (i : Nat) : Inv origin pool (w.step (.submitter i)) := by
  cases hs : w.submitters[i]? with
  | none =>
    have idle : w.step (.submitter i) = w := by simp only [step, hs]
    rwa [idle]
  | some s =>
    obtain ⟨hi, hget⟩ := List.getElem?_eq_some_iff.mp hs
    obtain ⟨pre, post, split, rfl⟩ : ∃ pre post, w.submitters = pre ++ s :: post ∧ pre.length = i :=
      ⟨w.submitters.take i, w.submitters.drop (i + 1), by simp [← hget], by simp; omega⟩
    obtain ⟨flags, tickets, locks, closing, tally, ledger, once, dropped⟩ := h
    rw [split] at tickets locks closing tally ledger once
    have taken := Outbox.submits tickets.numbered s
    rw [step_submitter hs]
    have places : (w.accepted ++ (submit w.mailer s).2.2.map fun a => (pre.length, a)).map Prod.snd =
        w.places ++ (submit w.mailer s).2.2 := by
      simp [Traffic.places, Function.comp_def]
    constructor
    case flags => exact flags.submits taken
    all_goals
      have set : w.submitters.set pre.length (submit w.mailer s).2.1 =
          pre ++ (submit w.mailer s).2.1 :: post := by simp [split]
      simp only [set]
    case tickets => exact tickets.submits flags taken
    case locks => exact locks.submits flags tickets taken
    case closing => exact closing.submits flags taken
    case tally => exact tally.submits taken
    case ledger =>
      simp only [Traffic.places, places]
      exact ledger.submits tickets taken
    case once => exact once.submits taken
    case dropped => exact dropped.submits closing taken

theorem poller (h : Inv origin pool w)
    (faithful : ∀ i y, origin.slot? pool i = some y → Multiplexer.Faithful y.mux) :
    Inv origin pool (w.step .poller) := by
  cases hp : w.mailer.poller with
  | none =>
    have idle : w.step .poller = w := by simp only [step, hp]
    rwa [idle]
  | some q =>
    obtain rfl : q = pool := by
      have := h.flags.poller
      rw [hp] at this
      split at this
      · cases this
      · exact Option.some.inj this
    have taken := Outbox.polls w.mailer q w.poller
    have stats : Tally (poll w.mailer q w.poller).1.stats w.submitters :=
      h.tally.polls taken
    rw [step_poller hp]
    exact ⟨h.flags.polls taken, h.tickets.polls taken, h.locks.polls taken, h.closing, stats,
      h.ledger.polls faithful h.locks taken, h.once, h.dropped.polls h.flags taken⟩

theorem shutdown (h : Inv origin pool w) : Inv origin pool (w.step .shutdown) := by
  have driven : w.shutdown.hasReleased = false → w.mailer.poller = some pool := by
    intro kept
    simpa [kept] using h.flags.poller
  have taken := Outbox.closes driven w.poller
  exact ⟨h.flags.closes taken, h.tickets.closes taken, h.locks.closes h.flags h.tickets taken,
    h.closing.closes h.locks taken, h.tally.closes taken, h.ledger.closes taken, h.once,
    h.dropped.closes taken⟩

theorem step (h : Inv origin pool w)
    (faithful : ∀ i y, origin.slot? pool i = some y → Multiplexer.Faithful y.mux)
    (party : Party) : Inv origin pool (w.step party) := by
  cases party with
  | submitter i => exact h.submitter i
  | poller => exact h.poller faithful
  | shutdown => exact h.shutdown

theorem run (h : Inv origin pool w)
    (faithful : ∀ i y, origin.slot? pool i = some y → Multiplexer.Faithful y.mux)
    (schedule : List Party) : Inv origin pool (w.run schedule) := by
  induction schedule generalizing w with
  | nil => exact h
  | cons party rest ih => exact ih (h.step faithful party)

/-! ### What it says about the counters -/

omit [Transport T M]

theorem covered (h : Inv origin pool w) : w.reaped.Subperm w.places :=
  (List.sublist_append_left _ _).subperm.trans h.ledger.covered

/-- What is taken is reaped, or outstanding. -/
theorem length_outstanding (h : Inv origin pool w) :
    w.mailer.stats.delivered + w.mailer.stats.failed + w.outstanding.length =
      w.mailer.stats.attached + (uncounted w.submitters).length := by
  have parts : (w.reaped ++ w.outstanding).Perm w.places :=
    List.subperm_append_diff_self_of_count_le fun a _ => h.covered.count_le a
  have lengths := parts.length_eq
  rw [List.length_append] at lengths
  have taken := h.ledger.taken
  have ended := h.ledger.ended
  simp only [Stats.reaped] at ended
  omega

theorem reaped_le (h : Inv origin pool w) :
    w.mailer.stats.delivered + w.mailer.stats.failed ≤ w.mailer.stats.attached := by
  have lengths := h.ledger.covered.length_le
  rw [List.length_append] at lengths
  have taken := h.ledger.taken
  have ended := h.ledger.ended
  simp only [Stats.reaped] at ended
  omega

theorem inFlight_eq (h : Inv origin pool w) (counted : uncounted w.submitters = []) :
    w.mailer.stats.inFlight = w.outstanding.length ∧ w.mailer.stats.attached =
      w.mailer.stats.delivered + w.mailer.stats.failed + w.outstanding.length := by
  have parts := h.length_outstanding
  rw [counted, List.length_nil] at parts
  simp only [Stats.inFlight]
  omega

theorem decided_le (h : Inv origin pool w) :
    w.mailer.stats.attached + w.mailer.stats.rejected ≤ w.mailer.stats.submitted :=
  Nat.le.intro h.tally.symm

theorem submitted_eq (h : Inv origin pool w) (quiet : w.isQuiet = true) :
    w.mailer.stats.submitted = w.mailer.stats.attached + w.mailer.stats.rejected := by
  have none : w.submitters.countP SubmitterStage.isPending = 0 := by
    rw [List.countP_eq_zero]
    intro s hs
    have := List.all_eq_true.mp quiet s hs
    cases s <;> simp_all [SubmitterStage.isPending]
  have := h.tally
  rw [Tally, none] at this
  exact this

/-- While nobody holds a slot, everything taken is counted. -/
theorem uncounted_of_isFree (h : Inv origin pool w) (free : w.isFree = true) :
    uncounted w.submitters = [] := by
  refine List.filterMap_eq_nil_iff.mpr fun s hs => ?_
  rw [Option.eq_none_iff_forall_ne_some]
  intro a ha
  have held := h.locks.isHeld (holders_pos hs (SubmitterStage.slot?_of_uncounted? ha))
  rw [Mailer.isHeld_of_settled free] at held
  cases held

/-- Once a shutdown has waited for every slot, everything taken is counted. -/
theorem uncounted_of_dropped (h : Inv origin pool w) {n : Nat}
    (reported : w.shutdown.dropped? = some n) : uncounted w.submitters = [] := by
  refine List.filterMap_eq_nil_iff.mpr fun s hs => ?_
  cases s with
  | taken k i id =>
    have unsettled := h.closing _ hs i rfl
    cases hc : w.shutdown <;> simp_all [ShutdownStage.dropped?, ShutdownStage.hasSettled]
  | _ => rfl

end Inv

end Steps

/-- A mailer just started, and everyone about to begin. -/
theorem inv_start [Multiplexer M] [Transport T M] {t : T} {d : DispatchSettings} {p : Preferences}
    {m : Mailer T M} {events : List Event}
    (started : (Mailer.new t d).start p = (.ok (), m, events))
    (letters : List (Letter × String)) : Inv m 0 (start m letters) := by
  obtain ⟨a, t₁, t₂, calls, ms, -, rfl⟩ := Mailer.launched_of_started started
  let subs : List SubmitterStage := letters.map fun l => .fresh l.1 l.2
  have begun : ∀ s ∈ subs, ∃ l now, s = .fresh l now := by
    intro s hs
    obtain ⟨l, _, rfl⟩ := List.mem_map.mp hs
    exact ⟨_, _, rfl⟩
  have none (q : SubmitterStage → Bool) (hq : ∀ l now, q (.fresh l now) = false) :
      subs.countP q = 0 := by
    rw [List.countP_eq_zero]
    intro s hs
    obtain ⟨l, now, rfl⟩ := begun s hs
    simp [hq]
  constructor
  case flags =>
    exact ⟨fun _ => rfl, fun id hid => (Option.some.inj hid).symm, rfl, fun hj => by cases hj⟩
  case tickets =>
    refine ⟨fun s hs k hk => ?_, fun k hk => (by cases hk), ?_⟩
    · obtain ⟨l, now, rfl⟩ := begun s hs
      cases hk
    · simp [start, SubmitterStage.ticket?, List.filterMap_map]
  case locks =>
    intro i
    have settled : [(0, Pool.ofList ms)].all fun q => q.2.isSettled := by
      simpa using Pool.isSettled_ofList ms
    show subs.countP (fun s => s.slot? == some i) + 0 + 0 = _
    rw [none _ fun _ _ => rfl, start, Mailer.isHeld_of_settled settled]
    rfl
  case closing =>
    intro s hs i hi
    obtain ⟨l, now, rfl⟩ := begun s hs
    cases hi
  case tally =>
    show Tally _ subs
    rw [Tally, none _ fun _ _ => rfl]
    rfl
  case ledger =>
    have none : uncounted subs = [] := List.filterMap_eq_nil_iff.mpr fun s hs => by
      obtain ⟨l, now, rfl⟩ := begun s hs
      rfl
    show Ledger _ _ _ (uncounted subs) _ _
    rw [none]
    exact ⟨fun i x hx => ⟨x, hx, .fresh⟩, fun a ha => (by cases ha), rfl, rfl,
      List.Subperm.refl _⟩
  case once => exact ⟨List.nodup_nil, fun a ha => by cases ha⟩
  case dropped => exact fun n hn => by cases hn

/-- **In every state the counters account for every mail**, whatever steps the submitters, the
poller and a shutdown of a mailer just started have taken in whatever order, as long as its
multiplexers are faithful.

* No more mails are reaped than attached, nor more attached and rejected than submitted, and just as
  many while no submission is under way.
* While nobody holds a slot, the mails in flight are those that slots took and that are not reaped.
* A submission has its transfer taken at most once, by one of the slots the mailer started with, and
  reaped at most once. Each slot has taken and reported just what is listed for it.
* What a shutdown reports as dropped is what was taken and never is reaped. -/
theorem conserved [Multiplexer M] [Transport T M] {t : T} {d : DispatchSettings} {p : Preferences}
    {m : Mailer T M} {events : List Event}
    (started : (Mailer.new t d).start p = (.ok (), m, events))
    (faithful : ∀ x ∈ m.multiplexers, Multiplexer.Faithful x) (letters : List (Letter × String))
    (schedule : List Party) :
    let w := (start m letters).run schedule
    let s := w.mailer.stats
    (s.delivered + s.failed ≤ s.attached ∧ s.attached + s.rejected ≤ s.submitted) ∧
      (w.isQuiet = true → s.submitted = s.attached + s.rejected) ∧
      (w.isFree = true → s.inFlight = w.outstanding.length ∧
        s.attached = s.delivered + s.failed + w.outstanding.length) ∧
      ((w.accepted.map Prod.fst).Nodup ∧ w.reaped.Subperm w.places ∧
        ∀ a ∈ w.places, m.current = some a.pool ∧ (m.slot? a.pool a.slot).isSome) ∧
      (∀ pool i x, m.current = some pool → w.mailer.slot? pool i = some x →
        ∃ y, m.slot? pool i = some y ∧ Multiplexer.History y.mux
          (Placement.idsAt pool i w.places) (Placement.idsAt pool i w.reaped) x.mux) ∧
      (∀ n, w.shutdown.dropped? = some n →
        n = w.outstanding.length ∧ s.attached = s.delivered + s.failed + n) := by
  intro w s
  have begun := inv_start started letters
  have current : m.current = some 0 := by
    obtain ⟨a, t₁, t₂, calls, ms, -, rfl⟩ := Mailer.launched_of_started started
    rfl
  have inv : Inv m 0 w :=
    begun.run (fun i y hy => faithful y.mux (Mailer.mem_multiplexers_of_slot? hy)) schedule
  refine ⟨⟨inv.reaped_le, inv.decided_le⟩, inv.submitted_eq, fun free => ?_,
    ⟨inv.once.nodup, inv.covered, ?_⟩, ?_, fun n hn => ?_⟩
  · exact inv.inFlight_eq (inv.uncounted_of_isFree free)
  · intro a ha
    obtain ⟨hp, found⟩ := inv.ledger.placed a ha
    exact ⟨hp ▸ current, hp ▸ found⟩
  · intro pool i x hp hx
    obtain rfl : 0 = pool := Option.some.inj (current.symm.trans hp)
    exact inv.ledger.history i x hx
  · obtain ⟨flying, parts⟩ := inv.inFlight_eq (inv.uncounted_of_dropped hn)
    obtain rfl := (inv.dropped n hn).trans flying
    exact ⟨rfl, parts⟩

/-- The first letter is delivered, and the second one taken by a slot just before a shutdown. -/
def late : List Party :=
  List.replicate 9 (.submitter 0) ++ List.replicate 5 .poller ++ List.replicate 10 (.submitter 1) ++
    [.shutdown, .shutdown, .poller] ++ List.replicate 9 .shutdown

theorem conserved_late : ∃ (m : Mailer SmtpTransport SmtpMultiplexer) (events : List Event),
    (Mailer.new Mailer.prompt .standard).start Mailer.preferred = (.ok (), m, events) ∧
      (∀ x ∈ m.multiplexers, Multiplexer.Faithful x) ∧
      let w := (start m (List.replicate 2 (Mailer.note, "now"))).run late
      w.mailer.stats = ⟨2, 0, 2, 1, 0⟩ ∧ w.shutdown.dropped? = some 1 ∧
        1 = w.outstanding.length := by
  have started : (Mailer.new Mailer.prompt .standard).start Mailer.preferred =
      (.ok (), _, _) := rfl
  have faithful := Mailer.faithful_of_started SmtpTransport.faithful_allocate started
  obtain ⟨-, -, -, -, -, reported⟩ :=
    conserved started faithful (List.replicate 2 (Mailer.note, "now")) late
  exact ⟨_, _, started, faithful, rfl, rfl, (reported 1 rfl).1⟩

end Traffic

end Outbox
