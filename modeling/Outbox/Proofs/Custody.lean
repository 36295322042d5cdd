import Mathlib.Data.List.Nodup
import Outbox.Proofs.Faithful

/-!
# Where a transfer is

An SMTP multiplexer under any requests and any course, next to a ledger of what came in and went
out.

* `SmtpMultiplexer.Request`, `SmtpMultiplexer.Ledger`: what can be asked of a multiplexer, and what
  is written down along the way: transfers taken, ends of deliveries, completions recorded and read,
  transfers handed back and transfers given up. `SmtpMultiplexer.serve` keeps it.
* `SmtpMultiplexer.Balanced`: the ledger agrees with the multiplexer. Each name is in progress,
  recorded or given up; each recorded one is held or handed back. `Balanced.obey` is one request.
* `SmtpMultiplexer.nothing_lost`: **no transfer is lost or doubled**, whatever is asked and whenever
  deliveries end.
-/

set_option autoImplicit false

namespace Outbox

/-- What a reader of completions learns of an end. -/
def End.completion (e : End) : Completion := ⟨e.id, e.outcome⟩

namespace SmtpMultiplexer

/-! ## The ledger -/

/-- What can be asked of a multiplexer. -/
inductive Request where
  | add (t : Transfer)
  | wait (limit : Duration)
  | perform
  | next
  | remove (id : TransferId)

/-- Transfers taken, under their names; ends of running transfers; completions recorded and
completions read; transfers handed back; names given up. Each in order. -/
structure Ledger where
  taken : List (TransferId × Transfer)
  ends : List End
  recorded : List Completion
  told : List Completion
  returned : List (TransferId × Transfer)
  cancelled : List TransferId

namespace Ledger

def blank : Ledger := ⟨[], [], [], [], [], []⟩

/-- The names that were given out. -/
def names (b : Ledger) : List TransferId := b.taken.map Prod.fst

/-- A transfer is one that was taken, under its name, after what its delivery read of it. -/
def Over (b : Ledger) (r : TransferId × Transfer) : Prop :=
  ∃ t e, (r.1, t) ∈ b.taken ∧ e ∈ b.ends ∧ e.id = r.1 ∧ r.2 = t.served e.served

end Ledger

/-- The names of transfers whose results are not collected yet. -/
def inProgress (m : SmtpMultiplexer) : List TransferId :=
  m.running.map Prod.fst ++ endedIds m.ended

/-- The ends that mean something: each is the first of a running transfer. -/
def effective (running : List (TransferId × Transfer)) : List End → List End
  | [] => []
  | e :: rest =>
    if running.any fun r => r.1 == e.id then
      e :: effective (running.filter fun r => r.1 != e.id) rest
    else effective running rest

/-- The running transfers that end when the multiplexer is driven, if it is not idle. -/
def happening (m : SmtpMultiplexer) : List End :=
  if m.isIdle then [] else effective m.running (m.course.ends m.drives m.running)

/-- What a request makes of a multiplexer. -/
def obey (m : SmtpMultiplexer) : Request → SmtpMultiplexer
  | .add t => (m.add t).2
  | .wait limit => (m.wait limit).1
  | .perform => m.perform.1
  | .next => match m.next with
    | some (_, m') => m'
    | none => m
  | .remove id => (m.remove id).2

/-- Driving a multiplexer lets transfers end, and records completions behind those not read. -/
def Ledger.driven (b : Ledger) (m m' : SmtpMultiplexer) : Ledger :=
  { b with
    ends := b.ends ++ m.happening
    recorded := b.recorded ++ m'.completions.drop m.completions.length }

/-- What a request adds to the ledger. -/
def booked (m : SmtpMultiplexer) (b : Ledger) : Request → Ledger
  | .add t => match (m.add t).1 with
    | .ok id => { b with taken := b.taken ++ [(id, t)] }
    | .error _ => b
  | .wait limit => b.driven m (m.wait limit).1
  | .perform => b.driven m m.perform.1
  | .next => match m.next with
    | some (c, _) => { b with told := b.told ++ [c] }
    | none => b
  | .remove id => match (m.remove id).1 with
    | some t => { b with returned := b.returned ++ [(id, t)] }
    | none => if id ∈ m.inProgress then { b with cancelled := b.cancelled ++ [id] } else b

/-- Some requests, one after the other. -/
def serve (m : SmtpMultiplexer) (b : Ledger) : List Request → SmtpMultiplexer × Ledger
  | [] => (m, b)
  | q :: qs => (m.obey q).serve (m.booked b q) qs

/-! ## Ended tasks -/

/-- What collecting ended tasks records. -/
def reports (ended : List (Option EndedTransfer)) : List Completion :=
  ended.filterMap fun e => e.map fun e => ⟨e.id, e.outcome⟩

theorem reports_append (xs ys : List (Option EndedTransfer)) :
    reports (xs ++ ys) = reports xs ++ reports ys := List.filterMap_append

theorem reports_replicate_none (n : Nat) : reports (List.replicate n none) = [] := by
  induction n with
  | zero => rfl
  | succ n ih => exact ih

theorem map_id_reports (ended : List (Option EndedTransfer)) :
    (reports ended).map Completion.id = endedIds ended := by
  rw [reports, endedIds, List.map_filterMap]
  refine List.filterMap_congr fun e _ => ?_
  cases e <;> rfl

theorem endedIds_given_up (id : TransferId) (ended : List (Option EndedTransfer)) :
    endedIds (ended.map fun e => if isEndOf id e then none else e) =
      (endedIds ended).filter (· != id) := by
  rw [endedIds, endedIds, List.filterMap_map, List.filter_filterMap]
  refine List.filterMap_congr fun e _ => ?_
  cases e with
  | none => rfl
  | some e => by_cases h : e.id = id <;> simp [isEndOf, Option.filter, h]

theorem reports_given_up (id : TransferId) (ended : List (Option EndedTransfer)) :
    (reports (ended.map fun e => if isEndOf id e then none else e)).Sublist (reports ended) := by
  induction ended with
  | nil => exact List.Sublist.refl _
  | cons e rest ih =>
    have split (f : Option EndedTransfer → Option EndedTransfer) :
        reports ((e :: rest).map f) = reports [f e] ++ reports (rest.map f) :=
      reports_append [f e] _
    rw [split, show reports (e :: rest) = reports [e] ++ reports rest from reports_append [e] rest]
    refine List.Sublist.append ?_ ih
    split
    · exact List.nil_sublist _
    · exact List.Sublist.refl _

theorem given_up_absent {id : TransferId} {ended : List (Option EndedTransfer)}
    (absent : id ∉ endedIds ended) :
    (ended.map fun e => if isEndOf id e then none else e) = ended := by
  refine List.map_congr_left (fun e he => ?_) |>.trans (List.map_id _)
  refine if_neg fun named => absent ?_
  cases e with
  | none => cases named
  | some e => exact List.mem_filterMap.mpr ⟨_, he, congrArg some (beq_iff_eq.mp named)⟩

/-- One of several names is taken out. -/
theorem perm_take_out {ids : List TransferId} (nodup : ids.Nodup) {id : TransferId}
    (mem : id ∈ ids) : (ids.filter (· != id) ++ [id]).Perm ids := by
  rw [← nodup.erase_eq_filter id]
  exact (List.perm_append_singleton id _).trans (List.perm_cons_erase mem).symm

theorem filter_ne_self {ids : List TransferId} {id : TransferId} (absent : id ∉ ids) :
    ids.filter (· != id) = ids :=
  List.filter_eq_self.mpr fun _ mem => bne_iff_ne.mpr fun same => absent (same ▸ mem)

theorem map_fst_filter (id : TransferId) (rs : List (TransferId × Transfer)) :
    (rs.filter fun r => r.1 != id).map Prod.fst = (rs.map Prod.fst).filter (· != id) := by
  rw [List.filter_map]
  rfl

/-! ## The balance -/

/-- The ledger agrees with the multiplexer. -/
structure Balanced (b : Ledger) (m : SmtpMultiplexer) : Prop where
  /-- Names count up from zero. -/
  names : b.names = (List.range m.nextId).map TransferId.mk
  /-- Each name is in progress, recorded or given up. -/
  places : (m.inProgress ++ b.recorded.map Completion.id ++ b.cancelled).Perm b.names
  /-- Each recorded one is held or handed back. -/
  kept : (m.held.map Prod.fst ++ b.returned.map Prod.fst).Perm (b.recorded.map Completion.id)
  /-- Completions are read in the order in which they were recorded. -/
  told : b.told ++ m.completions = b.recorded
  /-- A delivery ends once. -/
  once : (m.running.map Prod.fst ++ b.ends.map End.id).Subperm b.names
  /-- Completions tell how deliveries ended, in the order in which they did. -/
  reported : (b.recorded ++ reports m.ended).Sublist (b.ends.map End.completion)
  running : ∀ r ∈ m.running, r ∈ b.taken
  ended : ∀ x, some x ∈ m.ended → b.Over (x.id, x.transfer)
  back : ∀ r ∈ m.held ++ b.returned, b.Over r

namespace Balanced

variable {b : Ledger} {m : SmtpMultiplexer}

theorem start (c : Course) : Balanced .blank (start c) where
  names := rfl
  places := List.Perm.refl _
  kept := List.Perm.refl _
  told := rfl
  once := List.Subperm.refl _
  reported := List.Sublist.refl _
  running _ hr := absurd hr List.not_mem_nil
  ended _ hx := absurd hx List.not_mem_nil
  back _ hr := absurd hr List.not_mem_nil

theorem nodup_names (h : Balanced b m) : b.names.Nodup := by
  rw [h.names]
  exact List.Nodup.map (fun _ _ => TransferId.mk.inj) List.nodup_range

theorem nodup_places (h : Balanced b m) :
    (m.inProgress ++ b.recorded.map Completion.id ++ b.cancelled).Nodup :=
  h.places.nodup_iff.mpr h.nodup_names

theorem nodup_inProgress (h : Balanced b m) : m.inProgress.Nodup :=
  (List.nodup_append.mp (List.nodup_append.mp h.nodup_places).1).1

theorem nodup_recorded (h : Balanced b m) : (b.recorded.map Completion.id).Nodup :=
  (List.nodup_append.mp (List.nodup_append.mp h.nodup_places).1).2.1

theorem nodup_kept (h : Balanced b m) :
    (m.held.map Prod.fst ++ b.returned.map Prod.fst).Nodup :=
  h.kept.nodup_iff.mpr h.nodup_recorded

/-! ### Ends -/

/-- Nothing but ended tasks without a transfer, and the number of those to come, has changed. -/
theorem of_ended {m' : SmtpMultiplexer} {n : Nat} (h : Balanced b m) (nextId : m'.nextId = m.nextId)
    (running : m'.running = m.running) (ended : m'.ended = m.ended ++ List.replicate n none)
    (held : m'.held = m.held) (completions : m'.completions = m.completions) : Balanced b m' where
  names := nextId ▸ h.names
  places := by
    rw [inProgress, running, ended, endedIds_append, endedIds_replicate_none, List.append_nil]
    exact h.places
  kept := held ▸ h.kept
  told := completions ▸ h.told
  once := running ▸ h.once
  reported := by
    rw [ended, reports_append, reports_replicate_none, List.append_nil]
    exact h.reported
  running := running ▸ h.running
  ended x hx := by
    rw [ended, List.mem_append, List.mem_replicate] at hx
    exact h.ended x (hx.resolve_right fun hx => nomatch hx.2)
  back := held ▸ h.back

theorem finishCancelled (h : Balanced b m) : Balanced b m.finishCancelled := by
  unfold SmtpMultiplexer.finishCancelled
  split
  · exact h
  · have one : m.ended ++ [none] = m.ended ++ List.replicate 1 none := rfl
    exact h.of_ended rfl rfl one rfl rfl

/-- A running transfer ends. -/
theorem finish_running (h : Balanced b m) {e : End} {t : Transfer} (mem : (e.id, t) ∈ m.running) :
    Balanced { b with ends := b.ends ++ [e] } { m with
      running := m.running.filter fun r => r.1 != e.id
      ended := m.ended ++ [some ⟨e.id, t.served e.served, e.outcome⟩] } := by
  have moved : ((m.running.map Prod.fst).filter (· != e.id) ++ [e.id]).Perm
      (m.running.map Prod.fst) :=
    perm_take_out (List.nodup_append.mp h.nodup_inProgress).1
      (List.mem_map.mpr ⟨_, mem, rfl⟩)
  have still {r : TransferId × Transfer} (hr : b.Over r) :
      Ledger.Over { b with ends := b.ends ++ [e] } r := by
    obtain ⟨t, e', ht, he, rest⟩ := hr
    exact ⟨t, e', ht, List.mem_append_left _ he, rest⟩
  constructor
  case names => exact h.names
  case places =>
    show List.Perm _ b.names
    refine List.perm_iff_count.mpr fun id => ?_
    have before := h.places.count_eq id
    have moved := moved.count_eq id
    simp only [inProgress, map_fst_filter, endedIds_append, List.count_append] at before moved ⊢
    rw [show endedIds [some ⟨e.id, t.served e.served, e.outcome⟩] = [e.id] from rfl]
    omega
  case kept => exact h.kept
  case told => exact h.told
  case once =>
    refine List.Perm.subperm (List.perm_iff_count.mpr fun id => ?_) |>.trans h.once
    have moved := moved.count_eq id
    simp only [map_fst_filter, List.map_append, List.map_cons, List.map_nil,
      List.count_append] at moved ⊢
    omega
  case reported =>
    rw [reports_append, ← List.append_assoc, List.map_append]
    exact h.reported.append (List.Sublist.refl _)
  case running => exact fun r hr => h.running r (List.mem_filter.mp hr).1
  case ended =>
    intro x hx
    rcases List.mem_append.mp hx with before | now
    · exact still (h.ended x before)
    · obtain rfl := Option.some.inj (List.mem_singleton.mp now)
      exact ⟨t, e, h.running _ mem, by simp, rfl, rfl⟩
  case back => exact fun r hr => still (h.back r hr)

theorem effective_cons (running : List (TransferId × Transfer)) (e : End) (rest : List End) :
    effective running (e :: rest) = if running.any fun r => r.1 == e.id then
      e :: effective (running.filter fun r => r.1 != e.id) rest
    else effective running rest := rfl

theorem finishAll (h : Balanced b m) (ends : List End) :
    Balanced { b with ends := b.ends ++ effective m.running ends } (m.finishAll ends).1 := by
  induction ends generalizing b m with
  | nil =>
    rw [effective, List.append_nil]
    exact h
  | cons e rest ih =>
    show Balanced _ ((m.finish e).1.finishAll rest).1
    rw [effective_cons, SmtpMultiplexer.finish]
    cases found : m.running.find? fun r => r.1 == e.id with
    | none =>
      have absent : (m.running.any fun r => r.1 == e.id) = false := by
        simpa using found
      have same : m.finishCancelled.running = m.running := by
        unfold SmtpMultiplexer.finishCancelled
        split <;> rfl
      rw [absent, if_neg Bool.false_ne_true, ← same]
      exact ih h.finishCancelled
    | some r =>
      obtain ⟨id, t⟩ := r
      obtain rfl : id = e.id := by simpa using List.find?_some found
      have mem := List.mem_of_find?_eq_some found
      have present : (m.running.any fun r => r.1 == e.id) = true :=
        List.any_eq_true.mpr ⟨_, mem, beq_self_eq_true e.id⟩
      rw [if_pos present]
      have later := ih (h.finish_running mem)
      rw [List.append_assoc] at later
      exact later

theorem drive (h : Balanced b m) :
    Balanced { b with ends := b.ends ++ effective m.running (m.course.ends m.drives m.running) }
      m.drive.1 := by
  have begun : Balanced b { m with drives := m.drives + 1 } := { h with }
  have ends := begun.finishAll (m.course.ends m.drives m.running)
  exact ends.of_ended rfl rfl rfl rfl rfl

/-! ### Collecting -/

/-- The first ended task is collected. -/
theorem collect (h : Balanced b m) {e : Option EndedTransfer} {rest : List (Option EndedTransfer)}
    (first : m.ended = e :: rest) :
    Balanced { b with recorded := b.recorded ++ reports [e] }
      ({ m with ended := rest }.collect e) := by
  have whole : m.ended = [e] ++ rest := first
  cases e with
  | none =>
    rw [show reports [none] = [] from rfl, List.append_nil]
    have split : endedIds m.ended = endedIds rest := by rw [whole, endedIds_append]; rfl
    have told : reports m.ended = reports rest := by rw [whole, reports_append]; rfl
    have places := h.places
    rw [inProgress, split] at places
    exact { h with
      places := places
      reported := told ▸ h.reported
      ended := fun x hx => h.ended x (first ▸ List.mem_cons_of_mem _ hx) }
  | some e =>
    have split : endedIds m.ended = [e.id] ++ endedIds rest := by rw [whole, endedIds_append]; rfl
    have told : reports m.ended = [⟨e.id, e.outcome⟩] ++ reports rest := by
      rw [whole, reports_append]
      rfl
    constructor
    case names => exact h.names
    case places =>
      show (m.running.map Prod.fst ++ endedIds rest ++ (b.recorded ++
        [(⟨e.id, e.outcome⟩ : Completion)]).map Completion.id ++ b.cancelled).Perm b.names
      refine List.perm_iff_count.mpr fun id => ?_
      have before := h.places.count_eq id
      simp only [inProgress, split, List.map_append, List.map_cons, List.map_nil,
        List.count_append] at before ⊢
      omega
    case kept =>
      show ((m.held ++ [(e.id, e.transfer)]).map Prod.fst ++ b.returned.map Prod.fst).Perm
        ((b.recorded ++ [(⟨e.id, e.outcome⟩ : Completion)]).map Completion.id)
      refine List.perm_iff_count.mpr fun id => ?_
      have before := h.kept.count_eq id
      simp only [List.map_append, List.map_cons, List.map_nil, List.count_append] at before ⊢
      omega
    case told =>
      show b.told ++ (m.completions ++ _) = b.recorded ++ _
      rw [← List.append_assoc, h.told]
      rfl
    case once => exact h.once
    case reported =>
      have all := h.reported
      rw [told, ← List.append_assoc] at all
      exact all
    case running => exact h.running
    case ended => exact fun x hx => h.ended x (first ▸ List.mem_cons_of_mem _ hx)
    case back =>
      intro r hr
      rcases List.mem_append.mp hr with held | returned
      · rcases List.mem_append.mp held with before | now
        · exact h.back r (List.mem_append_left _ before)
        · obtain rfl := List.mem_singleton.mp now
          exact h.ended e (first ▸ List.mem_cons_self)
      · exact h.back r (List.mem_append_right _ returned)

/-- Some of the ended tasks are collected. -/
theorem collected (h : Balanced b m) {es rest : List (Option EndedTransfer)}
    (first : m.ended = es ++ rest) :
    Balanced { b with recorded := b.recorded ++ reports es }
      (es.foldl SmtpMultiplexer.collect { m with ended := rest }) := by
  induction es generalizing b m with
  | nil =>
    obtain rfl : m.ended = rest := first
    rw [show reports [] = [] from rfl, List.append_nil]
    exact h
  | cons e es ih =>
    have one := h.collect first
    have ended : ({ m with ended := es ++ rest }.collect e).ended = es ++ rest := by
      cases e <;> rfl
    have later : Balanced { b with recorded := b.recorded ++ reports [e] ++ reports es }
        (es.foldl SmtpMultiplexer.collect ({ m with ended := rest }.collect e)) := by
      have all := ih one ended
      cases e <;> exact all
    rw [List.append_assoc, ← reports_append] at later
    exact later

end Balanced

theorem completions_foldl_collect (es : List (Option EndedTransfer)) (m : SmtpMultiplexer) :
    (es.foldl collect m).completions = m.completions ++ reports es := by
  induction es generalizing m with
  | nil => exact (List.append_nil _).symm
  | cons e es ih =>
    have one : (m.collect e).completions = m.completions ++ reports [e] := by
      cases e with
      | none => exact (List.append_nil _).symm
      | some e => rfl
    rw [List.foldl_cons, ih, one, List.append_assoc, ← reports_append]
    rfl

theorem completions_finishAll (m : SmtpMultiplexer) (ends : List End) :
    (m.finishAll ends).1.completions = m.completions := by
  induction ends generalizing m with
  | nil => rfl
  | cons e rest ih =>
    have one : (m.finish e).1.completions = m.completions := by
      unfold finish finishCancelled
      split
      · split <;> rfl
      · rfl
    exact (ih _).trans one

theorem completions_drive (m : SmtpMultiplexer) : m.drive.1.completions = m.completions :=
  completions_finishAll { m with drives := m.drives + 1 } _

namespace Balanced

variable {b : Ledger} {m : SmtpMultiplexer}

/-- A multiplexer that is not idle is driven, and some ended tasks are collected. -/
theorem drive_collect (h : Balanced b m) (busy : m.isIdle = false)
    {es rest : List (Option EndedTransfer)} (first : m.drive.1.ended = es ++ rest) :
    Balanced (b.driven m (es.foldl SmtpMultiplexer.collect { m.drive.1 with ended := rest }))
      (es.foldl SmtpMultiplexer.collect { m.drive.1 with ended := rest }) := by
  have recorded : (es.foldl SmtpMultiplexer.collect { m.drive.1 with ended := rest }).completions =
      m.completions ++ reports es := by
    rw [completions_foldl_collect]
    exact congrArg (· ++ reports es) m.completions_drive
  rw [Ledger.driven, recorded, List.drop_left, happening, busy, if_neg Bool.false_ne_true]
  exact h.drive.collected first

theorem driven_idle (h : Balanced b m) (idle : m.isIdle = true) : Balanced (b.driven m m) m := by
  rw [Ledger.driven, happening, if_pos idle, List.drop_length, List.append_nil, List.append_nil]
  exact h

theorem wait (h : Balanced b m) (limit : Duration) :
    Balanced (b.driven m (m.wait limit).1) (m.wait limit).1 := by
  unfold SmtpMultiplexer.wait
  split
  · next idle => exact h.driven_idle idle
  · next busy =>
    rw [Bool.not_eq_true] at busy
    show Balanced (b.driven m m.drive.1.collectOne) m.drive.1.collectOne
    unfold SmtpMultiplexer.collectOne
    split
    · next none => exact h.drive_collect busy (List.nil_append m.drive.1.ended).symm
    · next e rest first => exact h.drive_collect busy (first.trans List.singleton_append.symm)

theorem perform (h : Balanced b m) : Balanced (b.driven m m.perform.1) m.perform.1 := by
  unfold SmtpMultiplexer.perform
  split
  · next idle => exact h.driven_idle idle
  · next busy =>
    rw [Bool.not_eq_true] at busy
    exact h.drive_collect busy (List.append_nil _).symm

/-! ### Other requests -/

/-- A transfer is taken on. -/
theorem take (h : Balanced b m) (t : Transfer) :
    Balanced { b with taken := b.taken ++ [(⟨m.nextId⟩, t)] }
      { m with running := m.running ++ [(⟨m.nextId⟩, t)], nextId := m.nextId + 1 } := by
  let taken : Ledger := { b with taken := b.taken ++ [(⟨m.nextId⟩, t)] }
  have names : taken.names = b.names ++ [⟨m.nextId⟩] := List.map_append
  have still {r : TransferId × Transfer} (hr : b.Over r) : taken.Over r := by
    obtain ⟨t, e, ht, rest⟩ := hr
    exact ⟨t, e, List.mem_append_left _ ht, rest⟩
  constructor
  case names =>
    rw [names, h.names, List.range_succ, List.map_append]
    rfl
  case places =>
    rw [names]
    refine List.perm_iff_count.mpr fun id => ?_
    have before := h.places.count_eq id
    simp only [inProgress, List.map_append, List.map_cons, List.map_nil,
      List.count_append] at before ⊢
    omega
  case kept => exact h.kept
  case told => exact h.told
  case once =>
    rw [names]
    refine List.Perm.subperm (List.perm_iff_count.mpr fun id => ?_) |>.trans
      ((List.subperm_append_right [⟨m.nextId⟩]).mpr h.once)
    simp only [List.map_append, List.map_cons, List.map_nil, List.count_append]
    omega
  case reported => exact h.reported
  case running =>
    intro r hr
    rcases List.mem_append.mp hr with before | now
    · exact List.mem_append_left _ (h.running r before)
    · exact List.mem_append_right _ now
  case ended => exact fun x hx => still (h.ended x hx)
  case back => exact fun r hr => still (h.back r hr)

theorem add (h : Balanced b m) (t : Transfer) : Balanced (m.booked b (.add t)) (m.add t).2 := by
  simp only [booked, SmtpMultiplexer.add]
  cases t.missing with
  | some p => exact h
  | none => exact h.take t

theorem next (h : Balanced b m) : Balanced (m.booked b .next) (m.obey .next) := by
  simp only [booked, obey, SmtpMultiplexer.next]
  cases unread : m.completions with
  | nil => exact h
  | cons c rest =>
    have told := h.told
    rw [unread, ← List.singleton_append, ← List.append_assoc] at told
    exact { h with told := told }

/-- A held transfer is handed back. -/
theorem hand_back (h : Balanced b m) {id : TransferId} {t : Transfer} (mem : (id, t) ∈ m.held) :
    Balanced { b with returned := b.returned ++ [(id, t)] }
      { m with held := m.held.filter fun r => r.1 != id } := by
  have moved := perm_take_out (List.nodup_append.mp h.nodup_kept).1
    (List.mem_map.mpr ⟨_, mem, rfl⟩)
  constructor
  case names => exact h.names
  case places => exact h.places
  case kept =>
    refine List.Perm.trans (List.perm_iff_count.mpr fun id => ?_) h.kept
    have moved := moved.count_eq id
    simp only [map_fst_filter, List.map_append, List.map_cons, List.map_nil,
      List.count_append] at moved ⊢
    omega
  case told => exact h.told
  case once => exact h.once
  case reported => exact h.reported
  case running => exact h.running
  case ended => exact h.ended
  case back =>
    intro r hr
    refine h.back r (List.mem_append.mpr ?_)
    rcases List.mem_append.mp hr with held | returned
    · exact .inl (List.mem_filter.mp held).1
    · rcases List.mem_append.mp returned with before | now
      · exact .inr before
      · exact .inl (List.mem_singleton.mp now ▸ mem)

/-- A transfer in progress is given up. -/
theorem give_up (h : Balanced b m) {m' : SmtpMultiplexer} {id : TransferId}
    (mem : id ∈ m.inProgress) (nextId : m'.nextId = m.nextId)
    (inProgress : m'.inProgress = m.inProgress.filter (· != id))
    (running : m'.running.Sublist m.running) (ended : ∀ x, some x ∈ m'.ended → some x ∈ m.ended)
    (reports : (reports m'.ended).Sublist (reports m.ended)) (held : m'.held = m.held)
    (completions : m'.completions = m.completions) :
    Balanced { b with cancelled := b.cancelled ++ [id] } m' where
  names := nextId ▸ h.names
  places := by
    refine List.Perm.trans (List.perm_iff_count.mpr fun id => ?_) h.places
    have moved := (perm_take_out h.nodup_inProgress mem).count_eq id
    simp only [inProgress, List.count_append] at moved ⊢
    omega
  kept := held ▸ h.kept
  told := completions ▸ h.told
  once := ((running.map Prod.fst).append (List.Sublist.refl _)).subperm.trans h.once
  reported := ((List.Sublist.refl _).append reports).trans h.reported
  running r hr := h.running r (running.subset hr)
  ended x hx := h.ended x (ended x hx)
  back := held ▸ h.back

theorem remove (h : Balanced b m) (id : TransferId) :
    Balanced (m.booked b (.remove id)) (m.remove id).2 := by
  simp only [booked, SmtpMultiplexer.remove]
  cases found : m.held.find? fun r => r.1 == id with
  | some r =>
    obtain ⟨id', t⟩ := r
    obtain rfl : id' = id := by simpa using List.find?_some found
    exact h.hand_back (List.mem_of_find?_eq_some found)
  | none =>
    have ended {x : EndedTransfer}
        (hx : some x ∈ m.ended.map fun e => if isEndOf id e then none else e) :
        some x ∈ m.ended := by
      obtain ⟨e, he, kept⟩ := List.mem_map.mp hx
      split at kept
      · cases kept
      · exact kept ▸ he
    have named : id ∈ m.running.map Prod.fst ↔ (m.running.any fun r => r.1 == id) = true := by
      simp [List.any_eq_true]
    cases running : m.running.any fun r => r.1 == id with
    | true =>
      have mem := named.mpr running
      have other : id ∉ endedIds m.ended :=
        fun hid => (List.nodup_append.mp h.nodup_inProgress).2.2 id mem id hid rfl
      have progress : id ∈ m.inProgress := List.mem_append_left _ mem
      rw [if_pos progress]
      refine h.give_up progress rfl ?_ List.filter_sublist (fun _ hx => hx) (List.Sublist.refl _)
        rfl rfl
      show (m.running.filter fun r => r.1 != id).map Prod.fst ++ endedIds m.ended = _
      rw [map_fst_filter, inProgress, List.filter_append, filter_ne_self other]
    | false =>
      have other : id ∉ m.running.map Prod.fst := by rw [named, running]; exact Bool.false_ne_true
      have progress : id ∈ m.inProgress ↔ id ∈ endedIds m.ended := by
        rw [inProgress, List.mem_append, or_iff_right other]
      by_cases mem : id ∈ endedIds m.ended
      · rw [if_pos (progress.mpr mem)]
        refine h.give_up (progress.mpr mem) rfl ?_ (List.Sublist.refl _) (fun _ => ended)
          (reports_given_up id m.ended) rfl rfl
        show m.running.map Prod.fst ++ endedIds (m.ended.map _) = _
        rw [endedIds_given_up, inProgress, List.filter_append, filter_ne_self other]
      · rw [if_neg fun hid => mem (progress.mp hid), given_up_absent mem]
        exact h

/-- **One request.** -/
theorem obey (h : Balanced b m) (q : Request) : Balanced (m.booked b q) (m.obey q) := by
  cases q with
  | add t => exact h.add t
  | wait limit => exact h.wait limit
  | perform => exact h.perform
  | next => exact h.next
  | remove id => exact h.remove id

theorem serve (h : Balanced b m) (qs : List Request) :
    Balanced (m.serve b qs).2 (m.serve b qs).1 := by
  induction qs generalizing b m with
  | nil => exact h
  | cons q qs ih => exact ih (h.obey q)

/-- Driving moves transfers on, but keeps them in progress. -/
theorem inProgress_drive (h : Balanced b m) : m.drive.1.inProgress.Perm m.inProgress := by
  have before := h.places
  have after := h.drive.places
  rw [List.append_assoc] at before after
  exact (List.perm_append_right_iff _).mp (after.trans before.symm)

/-- What was handed out is the next number. -/
theorem nextId_eq (h : Balanced b m) : m.nextId = b.taken.length := by
  have lengths := congrArg List.length h.names
  rw [List.length_map, List.length_range, Ledger.names, List.length_map] at lengths
  exact lengths.symm

end Balanced

/-! ## Reading and handing back -/

theorem fst_next (m : SmtpMultiplexer) : m.next.map Prod.fst = m.completions.head? := by
  unfold next
  cases m.completions <;> rfl

theorem mem_held_of_remove {m : SmtpMultiplexer} {id : TransferId} {t : Transfer}
    (h : (m.remove id).1 = some t) : (id, t) ∈ m.held := by
  unfold remove at h
  cases found : m.held.find? fun r => r.1 == id with
  | some r =>
    obtain ⟨id', t'⟩ := r
    obtain rfl : id' = id := by simpa using List.find?_some found
    rw [found] at h
    obtain rfl := Option.some.inj h
    exact List.mem_of_find?_eq_some found
  | none =>
    rw [found] at h
    dsimp only at h
    split at h <;> cases h

theorem isSome_remove (m : SmtpMultiplexer) (id : TransferId) :
    (m.remove id).1.isSome = true ↔ id ∈ m.held.map Prod.fst := by
  constructor
  · intro h
    obtain ⟨t, ht⟩ := Option.isSome_iff_exists.mp h
    exact List.mem_map.mpr ⟨_, mem_held_of_remove ht, rfl⟩
  · intro h
    obtain ⟨r, hr, named⟩ := List.mem_map.mp h
    unfold remove
    cases found : m.held.find? fun r => r.1 == id with
    | some _ => rfl
    | none => exact absurd (beq_iff_eq.mpr named) (List.find?_eq_none.mp found r hr)

/-! ## Idle multiplexers -/

theorem timeout_eq_none_iff (m : SmtpMultiplexer) :
    m.timeout = none ↔ m.running = [] ∧ m.cancelled = 0 ∧ m.ended = [] := by
  have idle : m.isIdle = true ↔ m.running = [] ∧ m.cancelled = 0 ∧ m.ended = [] := by
    rw [isIdle, tasks, beq_iff_eq, Nat.add_eq_zero_iff, Nat.add_eq_zero_iff,
      List.length_eq_zero_iff, List.length_eq_zero_iff, and_assoc]
  rw [← idle, timeout]
  cases m.isIdle <;> simp

/-- Collecting touches no task. -/
theorem foldl_collect_tasks (es : List (Option EndedTransfer)) (m : SmtpMultiplexer) :
    (es.foldl collect m).running = m.running ∧ (es.foldl collect m).cancelled = m.cancelled ∧
      (es.foldl collect m).ended = m.ended := by
  induction es generalizing m with
  | nil => exact ⟨rfl, rfl, rfl⟩
  | cons e es ih =>
    have rest := ih (m.collect e)
    cases e <;> exact rest

/-- **Nothing is left behind** by `perform` once every delivery has ended, unless a task that was
given up lingers. -/
theorem perform_of_ended {b : Ledger} {m : SmtpMultiplexer} (h : Balanced b m)
    (all : m.drive.1.running = []) :
    (m.drive.1.cancelled = 0 → m.perform.1.timeout = none) ∧ m.perform.1.inProgress = [] ∧
      (m.perform.1.completions.map Completion.id).Perm
        (m.completions.map Completion.id ++ m.inProgress) := by
  rw [timeout_eq_none_iff]
  unfold perform
  split
  · next idle =>
    have none : m.timeout = none := if_pos idle
    obtain ⟨running, cancelled, ended⟩ := m.timeout_eq_none_iff.mp none
    have progress : m.inProgress = [] := by rw [inProgress, running, ended]; rfl
    rw [progress, List.append_nil]
    exact ⟨fun _ => ⟨running, cancelled, ended⟩, rfl, List.Perm.refl _⟩
  · show (_ → (m.drive.1.collectAll).running = [] ∧ _ ∧ _) ∧
      (m.drive.1.collectAll).inProgress = [] ∧
      ((m.drive.1.collectAll).completions.map Completion.id).Perm _
    obtain ⟨running, cancelled, ended⟩ :=
      foldl_collect_tasks m.drive.1.ended { m.drive.1 with ended := [] }
    have running : m.drive.1.collectAll.running = [] := running.trans all
    refine ⟨fun none_left => ⟨running, cancelled.trans none_left, ended⟩, ?_, ?_⟩
    · rw [inProgress, running, show m.drive.1.collectAll.ended = [] from ended]
      rfl
    · rw [collectAll, completions_foldl_collect, List.map_append, map_id_reports]
      have moved := h.inProgress_drive
      rw [inProgress, all] at moved
      show (m.drive.1.completions.map Completion.id ++ _).Perm _
      rw [completions_drive]
      exact moved.append_left _

/-- **No transfer is lost or doubled.** Whatever was asked of a fresh multiplexer, and whenever
deliveries ended and how:

* Names are given out from zero up. A transfer that lacks a part is refused, which changes nothing
  and takes no name.
* Each name is in progress, held, handed back or given up, and only one of them.
* Completions are read in the order in which they were recorded, the first unread one at any time.
  There is one for each name that is held or handed back, none for a name that was given up, and it
  tells how that delivery ended.
* Exactly a held transfer is handed back. It is the one that was taken under its name, after what
  its delivery read of it, and it is handed back once.
* There is no wish for time exactly if no task is left. As soon as every delivery has ended,
  performing records what is missing, and leaves no task once those that were given up are over as
  well. -/
theorem nothing_lost (c : Course) (qs : List Request) :
    ∃ m b, (start c).serve .blank qs = (m, b) ∧
      (b.names = (List.range b.taken.length).map TransferId.mk ∧ ∀ t,
        (∃ p e, t.missing = some p ∧ m.add t = (.error e, m)) ∨
          t.missing = none ∧ (m.add t).1 = .ok ⟨b.taken.length⟩) ∧
      (b.names.Nodup ∧ (m.inProgress ++ m.held.map Prod.fst ++
        (b.returned.map Prod.fst ++ b.cancelled)).Perm b.names) ∧
      (b.told ++ m.completions = b.recorded ∧ m.next.map Prod.fst = m.completions.head? ∧
        (b.recorded.map Completion.id).Perm (m.held.map Prod.fst ++ b.returned.map Prod.fst) ∧
        (b.recorded.map Completion.id ++ b.cancelled).Nodup ∧
        b.recorded.Sublist (b.ends.map End.completion) ∧ (b.ends.map End.id).Nodup) ∧
      ((∀ id, (m.remove id).1.isSome = true ↔ id ∈ m.held.map Prod.fst) ∧
        (∀ id t, (m.remove id).1 = some t → b.Over (id, t)) ∧
        (∀ r ∈ b.returned, b.Over r) ∧
        (m.held.map Prod.fst ++ b.returned.map Prod.fst).Nodup) ∧
      (m.timeout = none ↔ m.running = [] ∧ m.cancelled = 0 ∧ m.ended = []) ∧
      (m.drive.1.running = [] →
        (m.drive.1.cancelled = 0 → m.perform.1.timeout = none) ∧ m.perform.1.inProgress = [] ∧
          (m.perform.1.completions.map Completion.id).Perm
            (m.completions.map Completion.id ++ m.inProgress)) := by
  refine ⟨_, _, rfl, ?_⟩
  have h := (Balanced.start c).serve qs
  generalize ((start c).serve .blank qs).1 = m at h
  generalize ((start c).serve .blank qs).2 = b at h
  refine ⟨⟨h.nextId_eq ▸ h.names, fun t => ?_⟩, ⟨h.nodup_names, ?_⟩,
    ⟨h.told, m.fst_next, h.kept.symm, ?_, ?_, ?_⟩,
    ⟨m.isSome_remove, fun id t ht => ?_, fun r hr => ?_, h.nodup_kept⟩,
    m.timeout_eq_none_iff, perform_of_ended h⟩
  · rw [← h.nextId_eq]
    unfold add
    cases t.missing with
    | some p => exact .inl ⟨p, _, rfl, rfl⟩
    | none => exact .inr ⟨rfl, rfl⟩
  · refine List.Perm.trans (List.perm_iff_count.mpr fun id => ?_) h.places
    have kept := h.kept.count_eq id
    simp only [List.count_append] at kept ⊢
    omega
  · have places := h.nodup_places
    rw [List.append_assoc] at places
    exact (List.nodup_append.mp places).2.1
  · exact (List.sublist_append_left _ _).trans h.reported
  · obtain ⟨names, perm, sub⟩ := h.once
    exact (List.nodup_append.mp (perm.nodup_iff.mp (h.nodup_names.sublist sub))).2.1
  · exact h.back _ (List.mem_append_left _ (mem_held_of_remove ht))
  · exact h.back r (List.mem_append_right _ hr)

/-- Of two transfers the first is given up while it runs, so only the second is told of and handed
back. -/
example (o : TransferOptions) (p : Payload) :
    let t : Transfer := ⟨o, some "<ann@a.example>", some ⟨["<bob@b.example>"]⟩, some p, true⟩
    let c : Course :=
      ⟨fun drive _ => if drive = 1 then [⟨⟨0⟩, 0, .ok (), []⟩, ⟨⟨1⟩, 0, .ok (), []⟩] else [],
        fun _ => 0⟩
    let b := ((start c).serve .blank [.add t, .add t, .perform, .remove ⟨0⟩, .perform, .next,
      .remove ⟨1⟩, .remove ⟨1⟩]).2
    b.told = [⟨⟨1⟩, .ok ()⟩] ∧ b.returned.map Prod.fst = [⟨1⟩] ∧ b.cancelled = [⟨0⟩] := by
  cbv

end SmtpMultiplexer

end Outbox
