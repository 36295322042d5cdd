import Mathlib.Data.List.Count
import Mathlib.Data.List.Perm.Subperm
import Outbox.Multiplexer.Smtp
import Outbox.Rehearsal

/-!
# Multiplexers that report what they took

What a multiplexer took on and what it reported, over everything that can be done to it.

* `Multiplexer.History`: from a multiplexer as it was made, by some operations, to what it is now,
  with the names it gave out and the names it reported on the way.
* `Multiplexer.Faithful`: **no name is reported more often than it was given out**.
* `SmtpMultiplexer.faithful_start`, `Rehearsal.faithful_start`: the multiplexers of both transports
  are faithful. A name that was given out is in one place at most, on its way from the running tasks
  over the ended ones and the unread completions to the reported names.
-/

set_option autoImplicit false

namespace Outbox

namespace Multiplexer

variable {M : Type} [Multiplexer M]

/-- `m` came from `made` while the names `taken` were given out and the names `reported` were
reported, in this order. -/
inductive History (made : M) : List TransferId → List TransferId → M → Prop where
  | fresh : History made [] [] made
  | took {taken reported : List TransferId} {m m' : M} {t : Transfer} {id : TransferId} :
      History made taken reported m → Multiplexer.add m t = (.ok id, m') →
        History made (taken ++ [id]) reported m'
  | refused {taken reported : List TransferId} {m m' : M} {t : Transfer} {e : TransportError} :
      History made taken reported m → Multiplexer.add m t = (.error e, m') →
        History made taken reported m'
  | waited {taken reported : List TransferId} {m : M} (limit : Duration) :
      History made taken reported m → History made taken reported (Multiplexer.wait m limit).1
  | performed {taken reported : List TransferId} {m : M} :
      History made taken reported m → History made taken reported (Multiplexer.perform m).1
  | told {taken reported : List TransferId} {m m' : M} {c : Completion} :
      History made taken reported m → Multiplexer.next m = some (c, m') →
        History made taken (reported ++ [c.id]) m'
  | removed {taken reported : List TransferId} {m : M} (id : TransferId) :
      History made taken reported m → History made taken reported (Multiplexer.remove m id).2

/-- Whatever is done to it, a name is reported at most as often as it was given out. -/
def Faithful (made : M) : Prop :=
  ∀ {taken reported : List TransferId} {m : M}, History made taken reported m →
    reported.Subperm taken

/-- A multiplexer is faithful if it holds a list of unreported names that starts empty, grows by a
name given out, from which a reported name is gone, and that nothing else adds to. -/
theorem faithful_of_unreported {made : M} (unreported : M → List TransferId)
    (fresh : unreported made = [])
    (took : ∀ {m m' : M} {t : Transfer} {id : TransferId}, Multiplexer.add m t = (.ok id, m') →
      (unreported m').Subperm (unreported m ++ [id]))
    (refused : ∀ {m m' : M} {t : Transfer} {e : TransportError},
      Multiplexer.add m t = (.error e, m') → (unreported m').Subperm (unreported m))
    (waited : ∀ (m : M) (limit : Duration),
      (unreported (Multiplexer.wait m limit).1).Subperm (unreported m))
    (performed : ∀ m : M, (unreported (Multiplexer.perform m).1).Subperm (unreported m))
    (told : ∀ {m m' : M} {c : Completion}, Multiplexer.next m = some (c, m') →
      ([c.id] ++ unreported m').Subperm (unreported m))
    (removed : ∀ (m : M) (id : TransferId),
      (unreported (Multiplexer.remove m id).2).Subperm (unreported m)) : Faithful made := by
  intro taken reported m history
  suffices all : (reported ++ unreported m).Subperm taken from
    (List.sublist_append_left reported (unreported m)).subperm.trans all
  induction history with
  | fresh => simp [fresh]
  | @took taken reported m m' t id _ h ih =>
    have grown := (List.subperm_append_left reported).mpr (took h)
    rw [← List.append_assoc] at grown
    exact grown.trans ((List.subperm_append_right [id]).mpr ih)
  | refused _ h ih => exact ((List.subperm_append_left _).mpr (refused h)).trans ih
  | waited limit _ ih => exact ((List.subperm_append_left _).mpr (waited _ limit)).trans ih
  | performed _ ih => exact ((List.subperm_append_left _).mpr (performed _)).trans ih
  | told _ h ih =>
    rw [List.append_assoc]
    exact ((List.subperm_append_left _).mpr (told h)).trans ih
  | removed id _ ih => exact ((List.subperm_append_left _).mpr (removed _ id)).trans ih

end Multiplexer

/-! ## The SMTP multiplexer -/

namespace SmtpMultiplexer

/-- The names of ended tasks that were not given up. -/
def endedIds (ended : List (Option EndedTransfer)) : List TransferId :=
  ended.filterMap fun e => e.map EndedTransfer.id

/-- The names given out and not yet reported, by how far their transfers have come. -/
def unreported (m : SmtpMultiplexer) : List TransferId :=
  m.completions.map Completion.id ++ (endedIds m.ended ++ m.running.map Prod.fst)

theorem endedIds_append (xs ys : List (Option EndedTransfer)) :
    endedIds (xs ++ ys) = endedIds xs ++ endedIds ys := List.filterMap_append

theorem endedIds_replicate_none (n : Nat) : endedIds (List.replicate n none) = [] := by
  induction n with
  | zero => rfl
  | succ n ih => exact ih

theorem unreported_finishCancelled (m : SmtpMultiplexer) :
    m.finishCancelled.unreported = m.unreported := by
  unfold finishCancelled
  split
  · rfl
  · simp [unreported, endedIds]

theorem unreported_finish (m : SmtpMultiplexer) (e : End) :
    (m.finish e).1.unreported.Subperm m.unreported := by
  unfold finish
  split
  · rw [unreported_finishCancelled]
  · next id t found =>
    -- the task is found by its name, which moves from the running tasks to the ended ones
    have named : id = e.id := by simpa using List.find?_some found
    have mem : e.id ∈ m.running.map Prod.fst :=
      List.mem_map.mpr ⟨_, List.mem_of_find?_eq_some found, named⟩
    have others : ((m.running.filter fun r => r.1 != e.id).map Prod.fst).Subperm
        (m.running.map Prod.fst) := (List.filter_sublist.map _).subperm
    have moved := List.cons_subperm_of_not_mem_of_mem (by simp) mem others
    simp only [unreported, endedIds_append, List.append_assoc]
    refine (List.subperm_append_left _).mpr ((List.subperm_append_left _).mpr ?_)
    simpa [endedIds] using moved

theorem unreported_finishAll (m : SmtpMultiplexer) (ends : List End) :
    (m.finishAll ends).1.unreported.Subperm m.unreported := by
  induction ends generalizing m with
  | nil => exact List.Subperm.refl _
  | cons e rest ih => exact (ih (m.finish e).1).trans (m.unreported_finish e)

theorem unreported_sweep (m : SmtpMultiplexer) (lingering : Nat) :
    (m.sweep lingering).unreported = m.unreported := by
  simp only [sweep, unreported, endedIds_append, endedIds_replicate_none, List.append_nil]

theorem unreported_drive (m : SmtpMultiplexer) :
    m.drive.1.unreported.Subperm m.unreported := by
  unfold drive
  rw [unreported_sweep]
  exact unreported_finishAll { m with drives := m.drives + 1 } _

theorem unreported_collect (m : SmtpMultiplexer) (e : Option EndedTransfer) :
    (m.collect e).unreported.Perm (endedIds [e] ++ m.unreported) := by
  cases e with
  | none => rfl
  | some e =>
    simp only [collect, unreported, endedIds, List.map_append, List.append_assoc]
    exact List.perm_append_comm_assoc ..

theorem unreported_collectOne (m : SmtpMultiplexer) : m.collectOne.unreported.Perm m.unreported := by
  unfold collectOne
  split
  · rfl
  · next e rest ended =>
    refine (unreported_collect _ e).trans ?_
    have split : endedIds m.ended = endedIds [e] ++ endedIds rest := by
      rw [ended, ← endedIds_append]
      rfl
    simp only [unreported, split, List.append_assoc]
    exact List.perm_append_comm_assoc ..

theorem unreported_foldl_collect (ended : List (Option EndedTransfer)) (m : SmtpMultiplexer) :
    (ended.foldl collect m).unreported.Perm (endedIds ended ++ m.unreported) := by
  induction ended generalizing m with
  | nil => rfl
  | cons e rest ih =>
    have split : endedIds (e :: rest) = endedIds [e] ++ endedIds rest := endedIds_append [e] rest
    refine (ih (m.collect e)).trans (((unreported_collect m e).append_left _).trans ?_)
    rw [split, List.append_assoc]
    exact List.perm_append_comm_assoc ..

theorem unreported_collectAll (m : SmtpMultiplexer) : m.collectAll.unreported.Perm m.unreported := by
  refine (unreported_foldl_collect m.ended { m with ended := [] }).trans ?_
  simp only [unreported, endedIds]
  exact List.perm_append_comm_assoc ..

theorem unreported_wait (m : SmtpMultiplexer) (limit : Duration) :
    (m.wait limit).1.unreported.Subperm m.unreported := by
  unfold wait
  split
  · exact List.Subperm.refl _
  · exact (unreported_collectOne _).subperm.trans m.unreported_drive

theorem unreported_perform (m : SmtpMultiplexer) :
    m.perform.1.unreported.Subperm m.unreported := by
  unfold perform
  split
  · exact List.Subperm.refl _
  · exact (unreported_collectAll _).subperm.trans m.unreported_drive

theorem endedIds_give_up (id : TransferId) (ended : List (Option EndedTransfer)) :
    (endedIds (ended.map fun e => if isEndOf id e then none else e)).Sublist (endedIds ended) := by
  induction ended with
  | nil => exact List.Sublist.refl _
  | cons e rest ih =>
    have others : endedIds (e :: rest) = endedIds [e] ++ endedIds rest := endedIds_append [e] rest
    have split (f : Option EndedTransfer → Option EndedTransfer) :
        endedIds ((e :: rest).map f) = endedIds [f e] ++ endedIds (rest.map f) :=
      endedIds_append [f e] _
    rw [split, others]
    refine List.Sublist.append ?_ ih
    split
    · exact List.nil_sublist _
    · exact List.Sublist.refl _

theorem unreported_remove (m : SmtpMultiplexer) (id : TransferId) :
    (m.remove id).2.unreported.Subperm m.unreported := by
  unfold remove
  split
  · exact List.Subperm.refl _
  · split
    · have others : ((m.running.filter fun r => r.1 != id).map Prod.fst).Subperm
          (m.running.map Prod.fst) := (List.filter_sublist.map _).subperm
      exact (List.subperm_append_left _).mpr ((List.subperm_append_left _).mpr others)
    · exact (List.subperm_append_left _).mpr
        ((List.subperm_append_right _).mpr (endedIds_give_up id m.ended).subperm)

/-- **An SMTP multiplexer reports what it took**, under any course. -/
theorem faithful_start (c : Course) : Multiplexer.Faithful (start c) := by
  apply Multiplexer.faithful_of_unreported unreported
  case fresh => rfl
  case took =>
    intro m m' t id h
    change add m t = _ at h
    unfold add at h
    split at h <;> simp only [Prod.mk.injEq, Except.ok.injEq, reduceCtorEq, false_and] at h
    rw [← h.1, ← h.2]
    simp only [unreported, List.map_append, List.append_assoc]
    exact List.Subperm.refl _
  case refused =>
    intro m m' t e h
    change add m t = _ at h
    unfold add at h
    split at h <;> simp only [Prod.mk.injEq, reduceCtorEq, false_and] at h
    rw [h.2]
  case waited => exact unreported_wait
  case performed => exact unreported_perform
  case told =>
    intro m m' c h
    change next m = _ at h
    unfold next at h
    split at h
    · cases h
    · next rest completions =>
      obtain ⟨rfl, rfl⟩ := Prod.mk.inj (Option.some.inj h)
      simp only [unreported, completions]
      exact List.Subperm.refl _
  case removed => exact unreported_remove

end SmtpMultiplexer

theorem SmtpTransport.faithful_allocate {t t' : SmtpTransport} {m : SmtpMultiplexer}
    (h : Transport.allocate t = (.ok m, t')) : Multiplexer.Faithful m := by
  obtain rfl := Except.ok.inj (congrArg Prod.fst h)
  exact SmtpMultiplexer.faithful_start t.course

/-! ## Rehearsals -/

namespace Rehearsal

/-- The names given out and not yet reported. -/
def unreported (m : Rehearsal) : List TransferId :=
  m.completions.map Completion.id ++ m.attached.map Prod.fst

theorem unreported_perform (m : Rehearsal) : m.perform.unreported = m.unreported := by
  simp only [unreported, perform, List.map_append, List.map_map, List.map_nil, List.append_nil]
  rfl

/-- **A rehearsal reports what it took**, under any script. -/
theorem faithful_start (s : Script) : Multiplexer.Faithful (start s) := by
  apply Multiplexer.faithful_of_unreported unreported
  case fresh => rfl
  case took =>
    intro m m' t id h
    change add m t = _ at h
    unfold add at h
    split at h <;> simp only [Prod.mk.injEq, Except.ok.injEq, reduceCtorEq, false_and] at h
    rw [← h.1, ← h.2]
    simp only [unreported, List.map_append, List.append_assoc]
    exact List.Subperm.refl _
  case refused =>
    intro m m' t e h
    change add m t = _ at h
    unfold add at h
    split at h <;> simp only [Prod.mk.injEq, reduceCtorEq, false_and] at h
    · rw [h.2]
    · rw [h.2]
  case waited => exact fun m _ => List.Subperm.refl m.unreported
  case performed =>
    intro m
    show m.perform.unreported.Subperm m.unreported
    rw [unreported_perform]
  case told =>
    intro m m' c h
    simp only [Multiplexer.next] at h
    split at h
    · cases h
    · next rest completions =>
      obtain ⟨rfl, rfl⟩ := Prod.mk.inj (Option.some.inj h)
      simp only [unreported, completions]
      exact List.Subperm.refl _
  case removed => exact fun m _ => List.Subperm.refl m.unreported

end Rehearsal

theorem Script.faithful_allocate {t t' : Script} {m : Rehearsal}
    (h : Transport.allocate t = (.ok m, t')) : Multiplexer.Faithful m := by
  simp only [Transport.allocate] at h
  split at h
  · cases congrArg Prod.fst h
  · obtain rfl := Except.ok.inj (congrArg Prod.fst h)
    exact Rehearsal.faithful_start t

end Outbox
