import Mathlib.Data.List.Basic
import Outbox.Poller

/-!
# The rounds of the poller

What a poller does over a pool, told from what the multiplexers do and from how often the running
flag is found set, for any slots that others hold.

* `Poller.Drained`: a multiplexer is read until it has nothing more to tell. Each completion is
  counted, and its transfer taken back, before the next one is read.
* `Poller.Visit`, `Poller.Tour`: the visits of slots, one after the other.
* `Poller.rounds`: which slots are visited: all free ones in order, again and again, and at last
  those of them that come before the flag is found cleared. `Poller.tour_passes` goes through the
  passes.
* `Poller.run_rounds`: **the poller visits these slots and no others**. In each visit it waits once,
  performs once and reads all completions, and the counters grow by what was read.
-/

set_option autoImplicit false

namespace Outbox

/-- The indices of the slots that nobody holds, the first slot being number `index`. -/
def freeFrom {M : Type} (index : Nat) : List (Slot M) → List Nat
  | [] => []
  | s :: rest => if s.held then freeFrom (index + 1) rest else index :: freeFrom (index + 1) rest

/-- The slots that nobody holds, in order. -/
def Pool.free {M : Type} (p : Pool M) : List Nat :=
  (List.range p.size).filter fun i => p.slots[i]?.any fun s => !s.held

theorem freeFrom_eq {M : Type} (index : Nat) (slots : List (Slot M)) :
    freeFrom index slots = ((List.range slots.length).filter fun i =>
      slots[i]?.any fun s => !s.held).map (index + ·) := by
  induction slots generalizing index with
  | nil => rfl
  | cons s rest ih =>
    rw [freeFrom, ih, List.length_cons, List.range_succ_eq_map, List.filter_cons, List.filter_map]
    cases held : s.held <;>
      simp [held, Function.comp_def, Nat.add_assoc, Nat.add_comm 1]

theorem Pool.free_eq {M : Type} (p : Pool M) : p.free = freeFrom 0 p.slots := by
  rw [freeFrom_eq]
  simp [Pool.free, Pool.size]

theorem le_of_mem_freeFrom {M : Type} {index i : Nat} {slots : List (Slot M)}
    (h : i ∈ freeFrom index slots) : index ≤ i := by
  rw [freeFrom_eq] at h
  obtain ⟨k, -, rfl⟩ := List.mem_map.mp h
  exact Nat.le_add_right index k

theorem freeFrom_of_held {M : Type} {index : Nat} {slots slots' : List (Slot M)}
    (h : slots'.map Slot.held = slots.map Slot.held) :
    freeFrom index slots' = freeFrom index slots := by
  induction slots generalizing index slots' with
  | nil => rw [List.map_eq_nil_iff.mp h]
  | cons s rest ih =>
    obtain ⟨s', rest', rfl, first, others⟩ := List.map_eq_cons_iff.mp h
    rw [freeFrom, freeFrom, first, ih others]

/-- The free ones of the first slots. -/
theorem freeFrom_take {M : Type} (index k : Nat) (slots : List (Slot M)) :
    freeFrom index (slots.take k) = (freeFrom index slots).filter (· < index + k) := by
  induction slots generalizing index k with
  | nil => rw [List.take_nil]; rfl
  | cons s rest ih =>
    cases k with
    | zero =>
      refine (List.filter_eq_nil_iff.mpr fun i hi => ?_).symm
      have := le_of_mem_freeFrom hi
      simpa using this
    | succ k =>
      have bound : index + (k + 1) = index + 1 + k := by omega
      rw [List.take_succ_cons, freeFrom, freeFrom, ih, bound]
      cases s.held with
      | true => rfl
      | false =>
        have first : index < index + 1 + k := by omega
        simp [first]

namespace Poller

variable {M : Type} [Multiplexer M]

/-! ## One slot -/

/-- A multiplexer tells of completions until it has nothing more to tell. Each is counted, and its
transfer taken back, before the next is read. -/
inductive Drained : M → Stats → List Completion → M → Stats → Prop
  | silent {m : M} {stats : Stats} : Multiplexer.next m = none → Drained m stats [] m stats
  | told {m m' left : M} {c : Completion} {cs : List Completion} {stats counted : Stats} :
      Multiplexer.next m = some (c, m') →
        Drained (Multiplexer.remove m' c.id).2 (stats.count (counter c.outcome)) cs left counted →
          Drained m stats (c :: cs) left counted

/-- What is asked of a slot while it is reaped of some completions. -/
def reapCalls (slot : Nat) (told : List Completion) : List (Nat × Call) :=
  told.flatMap (fun c => [(slot, .next (some c.id)), (slot, .remove c.id)]) ++ [(slot, .next none)]

theorem drained_reap (slot : Nat) (m : M) (stats : Stats) :
    ∃ told, Drained m stats told (reap slot m stats).1 (reap slot m stats).2.1 ∧
      (reap slot m stats).2.2.calls = reapCalls slot told := by
  fun_induction reap slot m stats with
  | case1 m stats hn => exact ⟨[], .silent hn, rfl⟩
  | case2 m stats c m' hn left counted work heq ih =>
    obtain ⟨told, drained, calls⟩ := ih
    rw [heq] at drained calls
    refine ⟨c :: told, .told hn drained, ?_⟩
    show [(slot, .next (some c.id)), (slot, .remove c.id)] ++ work.calls = _
    rw [calls]
    rfl

/-- The counters behind some completions: one more delivered for each success, one more failed for
each failure. -/
def tally (stats : Stats) (told : List Completion) : Stats :=
  { stats with
    delivered := stats.delivered + told.countP fun c => c.outcome.isOk
    failed := stats.failed + told.countP fun c => !c.outcome.isOk }

theorem tally_cons (stats : Stats) (c : Completion) (told : List Completion) :
    tally (stats.count (counter c.outcome)) told = tally stats (c :: told) := by
  unfold tally
  rw [List.countP_cons, List.countP_cons]
  cases c.outcome with
  | ok u => simp [counter, Stats.count, Except.isOk, Except.toBool, Nat.add_assoc, Nat.add_comm 1]
  | error e =>
    simp [counter, Stats.count, Except.isOk, Except.toBool, Nat.add_assoc, Nat.add_comm 1]

theorem tally_append (stats : Stats) (a b : List Completion) :
    tally (tally stats a) b = tally stats (a ++ b) := by
  simp only [tally, List.countP_append, Nat.add_assoc]

theorem reaped_tally (stats : Stats) (told : List Completion) :
    (tally stats told).reaped = stats.reaped + told.length := by
  have all := told.length_eq_countP_add_countP fun c => c.outcome.isOk
  simp only [Bool.not_eq_true, Bool.decide_eq_false] at all
  simp only [tally, Stats.reaped]
  omega

theorem Drained.counted_eq {m left : M} {stats counted : Stats} {told : List Completion}
    (h : Drained m stats told left counted) : counted = tally stats told := by
  induction h with
  | silent => rfl
  | told _ _ ih => rw [ih, tally_cons]

/-! ## One slot after the other -/

/-- A visit: the slot, the time that its multiplexer wishes for, and what it told. -/
structure Visit where
  slot : Nat
  wish : Option Duration
  told : List Completion

/-- What is asked of a slot in a visit. -/
def Visit.calls (standard : Duration) (v : Visit) : List (Nat × Call) :=
  [(v.slot, .timeout), (v.slot, .wait (v.wish.getD standard)), (v.slot, .perform)] ++
    reapCalls v.slot v.told

/-- The transfers that are taken back, in order. -/
def removals (calls : List (Nat × Call)) : List (Nat × TransferId) :=
  calls.filterMap fun
    | (i, .remove id) => some (i, id)
    | _ => none

theorem Visit.slot_of_mem_calls {standard : Duration} {v : Visit} {c : Nat × Call}
    (h : c ∈ v.calls standard) : c.1 = v.slot := by
  simp only [Visit.calls, reapCalls, List.mem_append, List.mem_cons, List.mem_flatMap,
    List.not_mem_nil, or_false] at h
  rcases h with (rfl | rfl | rfl) | ⟨_, _, rfl | rfl⟩ | rfl <;> rfl

theorem Visit.removals_calls (standard : Duration) (v : Visit) :
    removals (v.calls standard) = v.told.map fun c => (v.slot, c.id) := by
  have each (told : List Completion) :
      removals (reapCalls v.slot told) = told.map fun c => (v.slot, c.id) := by
    induction told with
    | nil => rfl
    | cons c told ih =>
      rw [List.map_cons, ← ih]
      rfl
  exact each v.told

/-- Visits one after the other, from some slots and counters to others. A multiplexer is given as
much time as it wishes, or else `standard`, then performs, and is then read until it is silent. -/
inductive Tour (standard : Duration) :
    List (Slot M) → Stats → List Visit → List (Slot M) → Stats → Prop
  | done {slots : List (Slot M)} {stats : Stats} : Tour standard slots stats [] slots stats
  | visit {slots slots' : List (Slot M)} {stats counted stats' : Stats} {i : Nat} {s : Slot M}
      {told : List Completion} {left : M} {vs : List Visit} :
      slots[i]? = some s → s.held = false →
        Drained (Multiplexer.perform
          (Multiplexer.wait s.mux ((Multiplexer.timeout s.mux).getD standard)).1).1
          stats told left counted →
        Tour standard (slots.set i { s with mux := left }) counted vs slots' stats' →
        Tour standard slots stats (⟨i, Multiplexer.timeout s.mux, told⟩ :: vs) slots' stats'

namespace Tour

variable {standard : Duration} {slots slots' slots'' : List (Slot M)}
  {stats stats' stats'' : Stats} {vs ws : List Visit}

theorem append (h : Tour standard slots stats vs slots' stats')
    (h' : Tour standard slots' stats' ws slots'' stats'') :
    Tour standard slots stats (vs ++ ws) slots'' stats'' := by
  induction h with
  | done => exact h'
  | visit there free drained _ ih => exact .visit there free drained (ih h')

theorem counted_eq (h : Tour standard slots stats vs slots' stats') :
    stats' = tally stats (vs.flatMap Visit.told) := by
  induction h with
  | done => rfl
  | visit _ _ drained _ ih => rw [ih, drained.counted_eq, tally_append, List.flatMap_cons]

theorem held (h : Tour standard slots stats vs slots' stats') :
    slots'.map Slot.held = slots.map Slot.held := by
  induction h with
  | done => rfl
  | @visit slots _ _ _ _ i s _ _ _ there _ _ _ ih =>
    obtain ⟨hi, rfl⟩ := List.getElem?_eq_some_iff.mp there
    have inside : i < (slots.map Slot.held).length := by rwa [List.length_map]
    have same : slots[i].held = (slots.map Slot.held)[i] := (List.getElem_map Slot.held).symm
    rw [ih, List.map_set, same, List.set_getElem_self]

/-- A slot that someone holds is left as it is. -/
theorem untouched (h : Tour standard slots stats vs slots' stats') {i : Nat} {s : Slot M}
    (there : slots[i]? = some s) (held : s.held = true) : slots'[i]? = some s := by
  induction h with
  | done => exact there
  | @visit _ _ _ _ _ j x _ _ _ here free _ _ ih =>
    refine ih ?_
    rw [List.getElem?_set_ne, there]
    rintro rfl
    rw [there] at here
    obtain rfl := Option.some.inj here
    rw [held] at free
    cases free

end Tour

/-! ## Passes -/

theorem pass_held (standard : Duration) (index : Nat) {s : Slot M} (held : s.held = true)
    (rest : List (Slot M)) (stats : Stats) (looks : Nat) :
    pass standard index (s :: rest) stats (looks + 1) =
      { pass standard (index + 1) rest stats looks with
        slots := s :: (pass standard (index + 1) rest stats looks).slots } := by
  rw [pass, if_pos held]

theorem pass_free (standard : Duration) (index : Nat) {s : Slot M} (held : s.held = false)
    (rest : List (Slot M)) (stats : Stats) (looks : Nat) :
    let v := visit standard index s.mux stats
    pass standard index (s :: rest) stats (looks + 1) =
      { pass standard (index + 1) rest v.2.1 looks with
        slots := { s with mux := v.1 } :: (pass standard (index + 1) rest v.2.1 looks).slots
        work := v.2.2 ++ (pass standard (index + 1) rest v.2.1 looks).work } := by
  rw [pass, if_neg (by rw [held]; exact Bool.false_ne_true)]

/-- A pass visits the free slots that it comes to before the flag is found cleared. -/
theorem tour_pass (standard : Duration) (before slots : List (Slot M)) (stats : Stats)
    (looks : Nat) :
    let p := pass standard before.length slots stats looks
    ∃ vs, Tour standard (before ++ slots) stats vs (before ++ p.slots) p.stats ∧
      vs.map Visit.slot = freeFrom before.length (slots.take looks) ∧
      p.work.calls = vs.flatMap (Visit.calls standard) ∧ p.looks = looks - slots.length := by
  induction slots generalizing before stats looks with
  | nil =>
    rw [pass]
    exact ⟨[], .done, by rw [List.take_nil]; rfl, rfl, rfl⟩
  | cons s rest ih =>
    cases looks with
    | zero =>
      rw [pass]
      · exact ⟨[], .done, rfl, rfl, (Nat.zero_sub _).symm⟩
      · exact List.cons_ne_nil s rest
    | succ looks =>
      have length (x : Slot M) : (before ++ [x]).length = before.length + 1 := List.length_append
      have looked : looks + 1 - (s :: rest).length = looks - rest.length :=
        Nat.add_sub_add_right looks 1 rest.length
      rw [List.take_succ_cons, freeFrom, looked]
      cases held : s.held with
      | true =>
        have later := ih (before ++ [s]) stats looks
        rw [length, ← List.append_cons] at later
        obtain ⟨vs, tour, visited, calls, left⟩ := later
        rw [← List.append_cons] at tour
        rw [pass_held standard before.length held]
        exact ⟨vs, tour, visited, calls, left⟩
      | false =>
        obtain ⟨told, drained, asked⟩ := drained_reap before.length
          (Multiplexer.perform
            (Multiplexer.wait s.mux ((Multiplexer.timeout s.mux).getD standard)).1).1 stats
        let v := visit standard before.length s.mux stats
        have later := ih (before ++ [{ s with mux := v.1 }]) v.2.1 looks
        rw [length, ← List.append_cons] at later
        obtain ⟨vs, tour, visited, calls, left⟩ := later
        rw [← List.append_cons] at tour
        have there : (before ++ s :: rest)[before.length]? = some s := by
          rw [List.getElem?_append_right (Nat.le_refl _), Nat.sub_self]
          rfl
        rw [pass_free standard before.length held]
        refine ⟨⟨before.length, Multiplexer.timeout s.mux, told⟩ :: vs, ?_, ?_, ?_, left⟩
        · refine .visit there held drained ?_
          rw [List.set_append_right _ _ (Nat.le_refl _), Nat.sub_self]
          exact tour
        · exact congrArg _ visited
        · rw [List.flatMap_cons, ← calls, Visit.calls, ← asked]
          rfl

/-! ## Whole runs -/

/-- The slots that are visited if the flag is found set `looks` times, once in front of each pass
and once in front of each of `size` slots: the free ones over and over, and in the last pass those
in front of which the flag is still set. -/
def rounds (free : List Nat) (size looks : Nat) : List Nat :=
  (List.replicate (looks / (size + 1)) free).flatten ++ free.filter (· + 1 < looks % (size + 1))

theorem rounds_succ (free : List Nat) (size looks : Nat) (bound : ∀ i ∈ free, i < size) :
    rounds free size (looks + 1) = free.filter (· < looks) ++ rounds free size (looks - size) := by
  by_cases whole : size ≤ looks
  · have step : looks + 1 = looks - size + (size + 1) := by omega
    have all : free.filter (· < looks) = free :=
      List.filter_eq_self.mpr fun i hi => decide_eq_true (Nat.lt_of_lt_of_le (bound i hi) whole)
    rw [rounds, rounds, step, Nat.add_div_right _ (Nat.succ_pos size), Nat.add_mod_right,
      List.replicate_succ, List.flatten_cons, List.append_assoc, all]
  · have less : looks + 1 < size + 1 := by omega
    have none : looks - size = 0 := by omega
    rw [rounds, rounds, none, Nat.div_eq_of_lt less, Nat.mod_eq_of_lt less, Nat.zero_div,
      Nat.zero_mod]
    simp

/-- Pass after pass, the slots of the rounds are visited. -/
theorem tour_passes (standard : Duration) (p : Pool M) (stats : Stats) (looks : Nat) :
    let q := passes standard p.slots stats looks
    ∃ vs, Tour standard p.slots stats vs q.slots q.stats ∧
      vs.map Visit.slot = rounds p.free p.size looks ∧
      q.work.calls = vs.flatMap (Visit.calls standard) := by
  induction looks using Nat.strongRecOn generalizing p stats with
  | ind looks ih =>
    cases looks with
    | zero =>
      rw [passes]
      refine ⟨[], .done, ?_, rfl⟩
      simp [rounds]
    | succ looks =>
      have first := tour_pass standard [] p.slots stats looks
      simp only [List.length_nil, List.nil_append] at first
      obtain ⟨vs, tour, visited, calls, left⟩ := first
      let r : Pool M := ⟨(pass standard 0 p.slots stats looks).slots⟩
      have held : r.slots.map Slot.held = p.slots.map Slot.held := tour.held
      have size : r.size = p.size := by
        have lengths := congrArg List.length held
        rwa [List.length_map, List.length_map] at lengths
      have free : r.free = p.free := by
        rw [Pool.free_eq, Pool.free_eq, freeFrom_of_held held]
      obtain ⟨ws, tour', visited', calls'⟩ := ih (looks - p.slots.length) (by omega) r
        (pass standard 0 p.slots stats looks).stats
      rw [← left] at tour' calls'
      rw [passes]
      refine ⟨vs ++ ws, tour.append tour', ?_, ?_⟩
      · have bound : ∀ i ∈ p.free, i < p.size := fun i hi =>
          List.mem_range.mp (List.mem_filter.mp hi).1
        rw [List.map_append, visited, visited', free, size, freeFrom_take, ← Pool.free_eq,
          Nat.zero_add]
        exact (rounds_succ p.free p.size looks bound).symm
      · rw [List.flatMap_append, ← calls, ← calls']
        rfl

theorem mem_of_mem_rounds {free : List Nat} {size looks i : Nat} (h : i ∈ rounds free size looks) :
    i ∈ free := by
  rcases List.mem_append.mp h with whole | part
  · obtain ⟨_, hl, hi⟩ := List.mem_flatten.mp whole
    exact List.eq_of_mem_replicate hl ▸ hi
  · exact (List.mem_filter.mp part).1

/-- **The rounds of the poller.** It visits the free slots in order, pass after pass, as long as the
flag is found set, and nothing else: a slot that someone holds is not asked anything and stays as it
is. A visit asks for the wish of the multiplexer, waits once, for as long as it wishes or else the
standard time, performs once, and reads until nothing more is told; each completion is counted as
delivered or as failed, and its transfer taken back, before the next is read. So what the counters
gained is what was told, and the transfers taken back are those told of, in the same order. -/
theorem run_rounds (standard : Duration) (p : Pool M) (stats : Stats) (looks : Nat) :
    ∃ vs, Tour standard p.slots stats vs (run standard p stats looks).1.slots
        (run standard p stats looks).2.1 ∧
      vs.map Visit.slot = rounds p.free p.size looks ∧
      (run standard p stats looks).2.2.calls = vs.flatMap (Visit.calls standard) ∧
      (∀ c ∈ (run standard p stats looks).2.2.calls, c.1 ∈ p.free) ∧
      (∀ (i : Nat) (s : Slot M), p.slots[i]? = some s → s.held = true →
        (run standard p stats looks).1.slots[i]? = some s) ∧
      (run standard p stats looks).2.1 = tally stats (vs.flatMap Visit.told) ∧
      (run standard p stats looks).2.1.reaped = stats.reaped + (vs.flatMap Visit.told).length ∧
      removals (run standard p stats looks).2.2.calls =
        vs.flatMap fun v => v.told.map fun c => (v.slot, c.id) := by
  obtain ⟨vs, tour, visited, calls⟩ := tour_passes standard p stats looks
  have asked : (run standard p stats looks).2.2.calls = vs.flatMap (Visit.calls standard) := by
    rw [← calls]
    exact List.append_nil _
  have counted : (run standard p stats looks).2.1 = tally stats (vs.flatMap Visit.told) :=
    tour.counted_eq
  refine ⟨vs, tour, visited, asked, ?_, fun _ _ => tour.untouched, counted,
    counted ▸ reaped_tally stats _, ?_⟩
  · rw [asked]
    intro c hc
    obtain ⟨v, hv, hc⟩ := List.mem_flatMap.mp hc
    have there : v.slot ∈ rounds p.free p.size looks := visited ▸ List.mem_map_of_mem hv
    rw [v.slot_of_mem_calls hc]
    exact mem_of_mem_rounds there
  · rw [asked, removals, List.filterMap_flatMap]
    exact congrArg (vs.flatMap ·) (funext fun v => v.removals_calls standard)

end Poller

end Outbox
