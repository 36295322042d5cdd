import Mathlib.Data.List.Forall2
import Outbox.Multiplexer.Smtp
import Outbox.Proofs.Letters
import Outbox.Proofs.Lifecycle

/-!
# The account in force

Settings that were taken stay in force until others are, and a mail goes out under the account that
was in force when it was submitted.

* `Account.Of`: the account that settings ask for, field by field.
  `Preferences.validate_eq_ok_iff`: that one is made of them, if any.
* `Multiplexer.Given`: a multiplexer as it was made, offered some transfers, whatever else was asked
  of it. `Pool.Shares`: some mails, shared out between the slots of a pool.
* `Standing`: what a row of operations and their results say of settings and mails, without a look
  at the mailer. `Mailer.Reflects`: a mailer that stands so. `Reflects.operate` is one operation and
  `Reflects.after` a row of them.
* `SmtpMultiplexer.keeps_of_offered`: an SMTP multiplexer holds what it was given, under the name by
  which it took it, and only reads on in the payload.
* `Mailer.sent_under`: **each mail carries the configuration in force when it was sent**.
-/

set_option autoImplicit false

namespace Outbox

variable {T M : Type}

/-! ## Settings and their account -/

/-- The account that settings ask for, field by field. Port 0 asks for the one of the mode. -/
structure Account.Of (p : Preferences) (a : Account) : Prop where
  caStore : p.caStore = some a.caStore
  host : p.server = some a.host
  username : p.username = some a.username
  password : p.password = some a.password
  tls : a.tls = p.tls
  url : a.url = (if p.tls = .implicit then "smtps://" else "smtp://") ++ a.host
  port : a.port.toNat =
    if p.port.toNat = 0 then (if p.tls = .implicit then 465 else 25) else p.port.toNat

/-- A row of two checks succeeds if both do. -/
theorem checked_eq_ok_iff {ε α β : Type} {x : Except ε α} {f : α → Except ε β} {b : β} :
    (x >>= f) = .ok b ↔ ∃ a, x = .ok a ∧ f a = .ok b := by
  cases x with
  | error e =>
    constructor
    · intro h
      cases h
    · rintro ⟨_, h, -⟩
      cases h
  | ok a => simp [Bind.bind, Except.bind]

namespace Preferences

theorem need_eq_ok_iff {name s : String} {value : Option String} :
    need name value = .ok s ↔ value = some s := by
  cases value <;> simp [need]

theorem choosePort_eq_ok_iff {port : UInt32} {tls : TlsMode} {q : UInt16} :
    choosePort port tls = .ok q ↔ q.toNat =
      if port.toNat = 0 then (if tls = .implicit then 465 else 25) else port.toNat := by
  have bound := q.toNat_lt
  have zero : port = 0 ↔ port.toNat = 0 := UInt32.toNat_inj.symm
  rw [choosePort]
  by_cases unset : port.toNat = 0
  · rw [if_pos (by omega), if_pos (zero.mpr unset), if_pos unset, Except.ok.injEq,
      ← UInt16.toNat_inj, eq_comm]
    cases tls <;> rfl
  · rw [if_neg unset]
    by_cases fits : port.toNat < 65536
    · rw [if_pos fits, if_neg (mt zero.mp unset), Except.ok.injEq, ← UInt16.toNat_inj, eq_comm,
        UInt16.toNat_ofNat', Nat.mod_eq_of_lt fits]
    · rw [if_neg fits]
      constructor
      · intro h
        cases h
      · omega

theorem url_eq (tls : TlsMode) (host : String) :
    (if tls = .implicit then "smtps://" else "smtp://") ++ host = tls.scheme ++ "://" ++ host := by
  cases tls <;> rfl

/-- **What settings are made into**, if anything. -/
theorem validate_eq_ok_iff {p : Preferences} {a : Account} : p.validate = .ok a ↔ a.Of p := by
  simp only [validate, checked_eq_ok_iff, need_eq_ok_iff, choosePort_eq_ok_iff]
  constructor
  · rintro ⟨caStore, hc, host, hh, port, hp, username, hu, password, hw, made⟩
    obtain rfl := Except.ok.inj made
    exact ⟨hc, hh, hu, hw, rfl, (url_eq _ _).symm, hp⟩
  · rintro ⟨hc, hh, hu, hw, tls, url, port⟩
    refine ⟨_, hc, _, hh, _, port, _, hu, _, hw, ?_⟩
    rw [← url_eq, ← url, ← tls]
    rfl

end Preferences

/-! ## What a multiplexer was given -/

namespace Multiplexer

variable [Multiplexer M]

/-- `m` came from `made` while the transfers were offered to it, in this order. -/
inductive Given (made : M) : List Transfer → M → Prop where
  | fresh : Given made [] made
  | offered {ts : List Transfer} {m : M} (h : Given made ts m) (t : Transfer) :
      Given made (ts ++ [t]) (Multiplexer.add m t).2
  | waited {ts : List Transfer} {m : M} (h : Given made ts m) (limit : Duration) :
      Given made ts (Multiplexer.wait m limit).1
  | performed {ts : List Transfer} {m : M} (h : Given made ts m) :
      Given made ts (Multiplexer.perform m).1
  | told {ts : List Transfer} {m m' : M} {c : Completion} (h : Given made ts m)
      (hn : Multiplexer.next m = some (c, m')) : Given made ts m'
  | removed {ts : List Transfer} {m : M} (h : Given made ts m) (id : TransferId) :
      Given made ts (Multiplexer.remove m id).2

namespace Given

variable {made m : M} {ts : List Transfer}

theorem reap (h : Given made ts m) (slot : Nat) (stats : Stats) :
    Given made ts (Poller.reap slot m stats).1 := by
  fun_induction Poller.reap slot m stats with
  | case1 m stats hn => exact h
  | case2 m stats c m' hn left counted work heq ih =>
    rw [heq] at ih
    exact ih ((h.told hn).removed c.id)

theorem visit (h : Given made ts m) (standard : Duration) (slot : Nat) (stats : Stats) :
    Given made ts (Poller.visit standard slot m stats).1 :=
  ((h.waited _).performed).reap slot stats

end Given

/-- A transport made the multiplexer, and it was offered the transfers of these mails. -/
def Offered (T : Type) [Transport T M] (mails : List (Account × Transfer)) (m : M) : Prop :=
  ∃ (t t' : T) (made : M), Transport.allocate t = (.ok made, t') ∧
    Given made (mails.map Prod.snd) m

end Multiplexer

/-- A pass changes a slot by a visit at most. -/
theorem Poller.forall₂_pass [Multiplexer M] {α : Type} {R : α → M → Prop}
    (visited : ∀ {a : α} {m : M} (standard : Duration) (index : Nat) (stats : Stats),
      R a m → R a (visit standard index m stats).1)
    {xs : List α} {slots : List (Slot M)} (h : List.Forall₂ (fun a s => R a s.mux) xs slots)
    (standard : Duration) (index : Nat) (stats : Stats) (looks : Nat) :
    List.Forall₂ (fun a s => R a s.mux) xs (pass standard index slots stats looks).slots := by
  induction h generalizing index stats looks with
  | nil => simp [pass]
  | @cons a s xs rest first others ih =>
    cases looks with
    | zero => exact .cons first others
    | succ looks =>
      simp only [pass]
      split
      · exact .cons first (ih ..)
      · exact .cons (visited standard index stats first) (ih ..)

namespace Pool

/-- The mails are shared out between the slots, and of each slot and its share `R` holds. -/
def Shares (p : Pool M) (R : List (Account × Transfer) → M → Prop)
    (mails : List (Account × Transfer)) : Prop :=
  ∃ shares : List (List (Account × Transfer)),
    List.Forall₂ (fun share s => R share s.mux) shares p.slots ∧ shares.flatten.Perm mails

variable {R R' : List (Account × Transfer) → M → Prop} {mails : List (Account × Transfer)}

theorem Shares.imp {p : Pool M} (h : p.Shares R mails)
    (weaker : ∀ share m, share ⊆ mails → R share m → R' share m) : p.Shares R' mails := by
  obtain ⟨slots⟩ := p
  obtain ⟨shares, each, all⟩ := h
  replace each : List.Forall₂ (fun share s => R share s.mux) shares slots := each
  refine ⟨shares, ?_, all⟩
  have part : ∀ share ∈ shares, share ⊆ mails := fun share hs mail hm =>
    all.subset (List.mem_flatten.mpr ⟨share, hs, hm⟩)
  clear all
  induction each with
  | nil => exact .nil
  | cons first _ ih =>
    rw [List.forall_mem_cons] at part
    exact .cons (weaker _ _ part.1 first) (ih part.2)

/-- One more mail for the first slot. -/
theorem Shares.first {s : Slot M} {rest : List (Slot M)} (h : Shares ⟨s :: rest⟩ R mails)
    {mail : Account × Transfer} {mux : M}
    (offered : ∀ share, R share s.mux → R (share ++ [mail]) mux) :
    Shares ⟨⟨mux, false⟩ :: rest⟩ R (mails ++ [mail]) := by
  obtain ⟨shares, each, all⟩ := h
  obtain ⟨share, others, hfirst, hrest, rfl⟩ := List.forall₂_cons_right_iff.mp each
  refine ⟨(share ++ [mail]) :: others, .cons (offered share hfirst) hrest, ?_⟩
  rw [List.flatten_cons] at all ⊢
  have moved : (share ++ [mail] ++ others.flatten).Perm (share ++ others.flatten ++ [mail]) := by
    rw [List.append_assoc, List.append_assoc]
    exact List.perm_append_comm.append_left share
  exact moved.trans (all.append_right [mail])

end Pool

/-! ## What operations and results say -/

/-- The settings that were taken last, whether mails are taken, and those taken since the last start,
each with the account in force then. -/
structure Standing where
  settings : Option Preferences
  taking : Bool
  mails : List (Account × Transfer)

namespace Standing

def initial : Standing := ⟨none, false, []⟩

/-- The account that is made of the settings. -/
def account (s : Standing) : Option Account := s.settings.bind fun p => p.validate.toOption

/-- The mail of a letter, if mails are taken and the letter is fit for one. -/
def mail (s : Standing) (limits : Timeouts) (l : Letter) (now : String) :
    Option (Account × Transfer) :=
  match s.taking, s.account, l.fault? with
  | true, some a, none => some (a, l.transfer a limits now)
  | _, _, _ => none

theorem mail_eq_some {s : Standing} {limits : Timeouts} {l : Letter} {now : String}
    {mail : Account × Transfer} (h : s.mail limits l now = some mail) :
    mail.2 = l.transfer mail.1 limits now := by
  unfold Standing.mail at h
  split at h
  · obtain rfl := Option.some.inj h
    rfl
  · cases h

/-- An operation and its result. -/
def step (limits : Timeouts) (s : Standing) :
    Operation × Except LifecycleError Unit → Standing
  | (.start p _, .ok ()) => ⟨some p, true, []⟩
  | (.reconfigure p, .ok ()) => { s with settings := some p }
  | (.send l now, _) => { s with mails := s.mails ++ (s.mail limits l now).toList }
  | (.shutdown, _) => { s with taking := false, mails := [] }
  | (_, _) => s

theorem step_send {limits : Timeouts} {s : Standing} {l : Letter} {now : String}
    {mail : Option (Account × Transfer)} (h : s.mail limits l now = mail) :
    s.step limits (.send l now, .ok ()) = { s with mails := s.mails ++ mail.toList } :=
  h ▸ rfl

/-- What a row of operations and their results comes to. -/
def of (limits : Timeouts) (done : List (Operation × Except LifecycleError Unit)) : Standing :=
  done.foldl (step limits) initial

end Standing

namespace Mailer

variable [Multiplexer M] [Transport T M]

/-- Some operations and their results. -/
def record (m : Mailer T M) (operations : List Operation) :
    List (Operation × Except LifecycleError Unit) :=
  operations.zip ((m.run (operations.map .whole)).1.map Shown.result)

/-- A mailer stands as it is said. -/
structure Reflects (d : DispatchSettings) (s : Standing) (m : Mailer T M) : Prop where
  account : m.account.map Except.ok = s.settings.map Preferences.validate
  running : m.running = s.taking
  idle : s.taking = false → Idle d m ∧ s.mails = []
  serving : s.taking = true → ∃ id p, Serving d m id p ∧
    p.Shares (Multiplexer.Offered T) s.mails

omit [Multiplexer M] [Transport T M] in
theorem Stands.idle {d : DispatchSettings} {m : Mailer T M} (h : Stands d m)
    (off : m.running = false) : Idle d m := by
  rcases h with h | ⟨id, p, h⟩
  · exact h
  · rw [h.running] at off
    cases off

namespace Reflects

variable {d : DispatchSettings} {s : Standing} {m : Mailer T M}

/-- While mails are taken there is one pool, and the mails are shared out in it. -/
theorem of_serving (account : m.account.map Except.ok = s.settings.map Preferences.validate)
    (taking : s.taking = true) {id : Nat} {p : Pool M} (serves : Serving d m id p)
    (shares : p.Shares (Multiplexer.Offered T) s.mails) : Reflects d s m := by
  refine ⟨account, serves.running.trans taking.symm, fun off => ?_, fun _ =>
    ⟨id, p, serves, shares⟩⟩
  rw [taking] at off
  cases off

theorem new (transport : T) (d : DispatchSettings) :
    Reflects d .initial (Mailer.new transport d : Mailer T M) :=
  ⟨rfl, rfl, fun _ => ⟨(stands_new transport d).idle rfl, rfl⟩, nofun⟩

/-- The multiplexers of a new pool were offered nothing. -/
theorem shares_made {t t' : T} {ms : List M} (h : Transport.Makes t ms t') :
    (Pool.ofList ms).Shares (Multiplexer.Offered T) [] := by
  refine ⟨ms.map fun _ => [], ?_, by simp⟩
  induction h with
  | none => exact .nil
  | next h _ ih => exact .cons ⟨_, _, _, h, .fresh⟩ ih

theorem start (h : Reflects d s m) (p : Preferences) (fault : Option SystemFault) :
    Reflects d (s.step d.timeouts (.start p fault, (m.start p fault).1)) (m.start p fault).2.1 := by
  cases taking : s.taking with
  | true =>
    obtain ⟨id, q, serving, -⟩ := h.serving taking
    have fails : StartFails m p fault .alreadyRunning m := .running (by simp [serving.poller])
    obtain ⟨result, left⟩ := start_of_fails fails
    rw [result, left]
    exact h
  | false =>
    obtain ⟨idle, none⟩ := h.idle taking
    rcases start_cases m p fault with
      ⟨e, result, fails⟩ | ⟨a, t, t', ms, hq, hv, _, made, hn, result, hm⟩
    · -- what fails leaves an idle mailer idle, and its account as it was
      have stands := fails.stands (.inl idle)
      obtain ⟨asked, left⟩ := fails.left (.inr (Stands.rests (.inl idle)))
      have off : (m.start p fault).2.1.running = false := by rw [left]; exact idle.running
      rw [result]
      refine ⟨?_, off.trans taking.symm, fun _ => ⟨stands.idle off, none⟩, ?_⟩
      · rw [left]
        exact h.account
      · intro on
        rw [show s.step d.timeouts (.start p fault, .error e) = s from rfl, taking] at on
        cases on
    · have stands : Stands d (m.start p fault).2.1 := Stands.start (.inl idle) p fault
      rw [result]
      rw [hm] at stands ⊢
      rcases stands with off | ⟨id, q, serving⟩
      · cases off.running
      · have pools := serving.pools
        simp only [launch, asked, idle.pools, List.nil_append, List.cons.injEq, Prod.mk.injEq,
          and_true] at pools
        have account : some (Except.ok a) = some p.validate := by rw [hv]
        exact of_serving account rfl serving (pools.2 ▸ shares_made made)

theorem reconfigure (h : Reflects d s m) (p : Preferences) :
    Reflects d (s.step d.timeouts (.reconfigure p, (m.reconfigure p).1)) (m.reconfigure p).2.1 := by
  cases hv : p.validate with
  | error f =>
    obtain ⟨result, left⟩ := reconfigure_fails_iff.mpr ⟨f, hv, rfl, rfl⟩
    rw [result, left]
    exact h
  | ok a =>
    have changed :
        m.reconfigure p = (.ok (), { m with account := some a }, (m.reconfigure p).2.2) := by
      simp only [Mailer.reconfigure, hv]
    have stands (hs : Stands d m) : Stands d { m with account := some a } := by
      have := hs.reconfigure p
      rwa [changed] at this
    rw [changed]
    refine ⟨by simp [Standing.step, hv], h.running, fun off => ?_, fun on => ?_⟩
    · obtain ⟨idle, none⟩ := h.idle off
      exact ⟨(stands (.inl idle)).idle idle.running, none⟩
    · obtain ⟨id, q, serving, shares⟩ := h.serving on
      exact ⟨id, q, { serving with account := rfl }, shares⟩

theorem account_eq (h : Reflects d s m) : s.account = m.account := by
  have same := h.account
  cases hs : s.settings with
  | none =>
    rw [hs] at same
    rw [Standing.account, hs, Option.map_eq_none_iff.mp same]
    rfl
  | some p =>
    rw [hs] at same
    obtain ⟨a, ha, hv⟩ := Option.map_eq_some_iff.mp same
    rw [Standing.account, hs, ha, Option.bind_some, ← hv]
    rfl

theorem send (h : Reflects d s m) (l : Letter) (now : String) :
    Reflects d (s.step d.timeouts (.send l now, .ok ())) (m.send l now).1 := by
  cases taking : s.taking with
  | false =>
    obtain ⟨idle, none⟩ := h.idle taking
    have nothing : s.mail d.timeouts l now = .none := by simp [Standing.mail, taking]
    rwa [Standing.step_send nothing, Option.toList_none, List.append_nil, idle.send]
  | true =>
    obtain ⟨id, p, serving, shares⟩ := h.serving taking
    obtain ⟨a, ha⟩ := Option.isSome_iff_exists.mp serving.account
    obtain ⟨unfit, fit⟩ := serving.send_left ha l now
    obtain ⟨q, serves⟩ := serving.send l now
    have account : s.account = some a := h.account_eq.trans ha
    cases fault : l.fault? with
    | some e =>
      have nothing : s.mail d.timeouts l now = none := by
        simp [Standing.mail, taking, account, fault]
      rw [unfit _ (Letter.prepare_of_fault fault)] at serves ⊢
      rw [Standing.step_send nothing, Option.toList_none, List.append_nil]
      obtain rfl : p = q := by simpa [serving.pools] using serves.pools
      exact of_serving h.account taking serves shares
    | none =>
      have pos : 0 < p.size := serving.size ▸ d.poolSize.pos
      obtain ⟨x, rest, hx⟩ := List.exists_cons_of_length_pos pos
      let t := l.transfer a d.timeouts now
      have mail : s.mail d.timeouts l now = some (a, t) := by
        simp [Standing.mail, taking, account, fault, t]
      rw [fit t x rest (Letter.prepare_of_fit fault) hx] at serves ⊢
      rw [Standing.step_send mail, Option.toList_some]
      obtain rfl : (⟨⟨(Multiplexer.add x.mux t).2, false⟩ :: rest⟩ : Pool M) = q := by
        simpa using serves.pools
      have shares : Pool.Shares ⟨x :: rest⟩ (Multiplexer.Offered T) s.mails := hx ▸ shares
      refine of_serving h.account taking serves (shares.first fun share offered => ?_)
      -- taken or not, the transfer was offered
      obtain ⟨u, u', made, hu, given⟩ := offered
      exact ⟨u, u', made, hu, by rw [List.map_append]; exact given.offered t⟩

theorem pass (h : Reflects d s m) : Reflects d s m.pass.1 := by
  cases taking : s.taking with
  | false =>
    obtain ⟨idle, -⟩ := h.idle taking
    rwa [idle.pass]
  | true =>
    obtain ⟨id, p, serving, shares⟩ := h.serving taking
    obtain ⟨q, serves⟩ := serving.pass
    let r := Poller.pass m.dispatch.pollTimeout 0 p.slots m.stats p.size
    rw [serving.pass_eq] at serves ⊢
    obtain rfl : (⟨r.slots⟩ : Pool M) = q := by simpa using serves.pools
    refine of_serving h.account taking serves ?_
    obtain ⟨parts, each, all⟩ := shares
    refine ⟨parts, Poller.forall₂_pass ?_ each _ _ _ _, all⟩
    rintro share mux standard index stats ⟨u, u', made, hu, given⟩
    exact ⟨u, u', made, hu, given.visit standard index stats⟩

theorem shutdown (h : Reflects d s m) :
    Reflects d (s.step d.timeouts (.shutdown, .ok ())) m.shutdown.1 := by
  have account : m.shutdown.1.account = m.account := by
    unfold Mailer.shutdown
    split
    · rfl
    · rfl
  have idle : Idle d m.shutdown.1 := by
    cases taking : s.taking with
    | false =>
      obtain ⟨idle, -⟩ := h.idle taking
      rwa [idle.shutdown]
    | true =>
      obtain ⟨id, p, serving, -⟩ := h.serving taking
      exact serving.shutdown.1
  exact ⟨account ▸ h.account, idle.running, fun _ => ⟨idle, rfl⟩, nofun⟩

theorem operate (h : Reflects d s m) (o : Operation) :
    Reflects d (s.step d.timeouts (o, (m.operate o).1.result)) (m.operate o).2 := by
  cases o with
  | start p fault => exact h.start p fault
  | reconfigure p => exact h.reconfigure p
  | send l now => exact h.send l now
  | pass => exact h.pass
  | shutdown => exact h.shutdown

theorem after (h : Reflects d s m) (operations : List Operation) :
    Reflects d ((m.record operations).foldl (Standing.step d.timeouts) s) (m.after operations) := by
  induction operations generalizing s m with
  | nil => exact h
  | cons o operations ih => exact ih (h.operate o)

end Reflects

end Mailer

/-! ## What an SMTP multiplexer holds -/

namespace Transfer

theorem served_zero (t : Transfer) : t.served 0 = t := by
  obtain ⟨o, f, r, _ | p, u⟩ := t
  · rfl
  · simp [served, readPayload]

theorem served_served (t : Transfer) (a b : Nat) : (t.served a).served b = t.served (a + b) := by
  obtain ⟨o, f, r, _ | p, u⟩ := t
  · rfl
  · simp only [served, readPayload, Transfer.mk.injEq, Option.some.injEq, Payload.take,
      Payload.mk.injEq, true_and, and_true]
    omega

end Transfer

namespace SmtpMultiplexer

/-- The transfers of running and of ended tasks and those that are held, with their names. -/
def transfers (m : SmtpMultiplexer) : List (TransferId × Transfer) :=
  m.running ++ (m.ended.filterMap fun e => e.map fun e => (e.id, e.transfer)) ++ m.held

theorem mem_transfers {m : SmtpMultiplexer} {r : TransferId × Transfer} : r ∈ m.transfers ↔
    r ∈ m.running ∨ (∃ e, some e ∈ m.ended ∧ r = (e.id, e.transfer)) ∨ r ∈ m.held := by
  simp only [transfers, List.mem_append, List.mem_filterMap, Option.map_eq_some_iff, or_assoc]
  refine or_congr_right (or_congr_left ⟨?_, ?_⟩)
  · rintro ⟨_, he, e, rfl, rfl⟩
    exact ⟨e, he, rfl⟩
  · rintro ⟨e, he, rfl⟩
    exact ⟨_, he, e, rfl, rfl⟩

/-- No name is given out, and each transfer was there before, under its name. -/
structure Continues (m m' : SmtpMultiplexer) : Prop where
  nextId : m'.nextId = m.nextId
  transfers : ∀ r ∈ m'.transfers, ∃ t n, (r.1, t) ∈ m.transfers ∧ r.2 = t.served n

namespace Continues

variable {m m' m'' : SmtpMultiplexer}

theorem of_subset (nextId : m'.nextId = m.nextId) (h : m'.transfers ⊆ m.transfers) :
    Continues m m' :=
  ⟨nextId, fun r hr => ⟨r.2, 0, h hr, r.2.served_zero.symm⟩⟩

theorem trans (h : Continues m m') (h' : Continues m' m'') : Continues m m'' := by
  refine ⟨h'.nextId.trans h.nextId, fun r hr => ?_⟩
  obtain ⟨t, n, ht, same⟩ := h'.transfers r hr
  obtain ⟨u, k, hu, same'⟩ := h.transfers _ ht
  refine ⟨u, k + n, hu, ?_⟩
  rw [same, ← Transfer.served_served]
  exact congrArg (Transfer.served · n) same'

/-- Ended tasks that were given up have no transfers. -/
theorem of_ended {n : Nat} (nextId : m'.nextId = m.nextId) (running : m'.running = m.running)
    (ended : m'.ended = m.ended ++ List.replicate n none) (held : m'.held = m.held) :
    Continues m m' := by
  have same : m'.transfers = m.transfers := by
    simp [SmtpMultiplexer.transfers, running, ended, held]
  exact of_subset nextId (same ▸ List.Subset.refl _)

theorem finishCancelled (m : SmtpMultiplexer) : Continues m m.finishCancelled := by
  unfold SmtpMultiplexer.finishCancelled
  split
  · exact of_subset rfl fun _ hr => hr
  · have one : m.ended ++ [none] = m.ended ++ List.replicate 1 none := rfl
    exact of_ended rfl rfl one rfl

theorem finish (m : SmtpMultiplexer) (e : End) : Continues m (m.finish e).1 := by
  unfold SmtpMultiplexer.finish
  split
  · exact finishCancelled m
  · next id t found =>
    have named : id = e.id := by simpa using List.find?_some found
    have there : (e.id, t) ∈ m.transfers :=
      mem_transfers.mpr (.inl (named ▸ List.mem_of_find?_eq_some found))
    refine ⟨rfl, fun r hr => ?_⟩
    have kept (hr : r ∈ m.transfers) : ∃ t n, (r.1, t) ∈ m.transfers ∧ r.2 = t.served n :=
      ⟨r.2, 0, hr, r.2.served_zero.symm⟩
    rcases mem_transfers.mp hr with running | ⟨x, ended, rfl⟩ | held
    · exact kept (mem_transfers.mpr (.inl (List.mem_filter.mp running).1))
    · rcases List.mem_append.mp ended with before | now
      · exact kept (mem_transfers.mpr (.inr (.inl ⟨x, before, rfl⟩)))
      · obtain rfl := Option.some.inj (List.mem_singleton.mp now)
        exact ⟨t, e.served, there, rfl⟩
    · exact kept (mem_transfers.mpr (.inr (.inr held)))

theorem finishAll (m : SmtpMultiplexer) (ends : List End) : Continues m (m.finishAll ends).1 := by
  induction ends generalizing m with
  | nil => exact of_subset rfl fun _ hr => hr
  | cons e rest ih => exact (finish m e).trans (ih (m.finish e).1)

theorem drive (m : SmtpMultiplexer) : Continues m m.drive.1 := by
  have ends := finishAll { m with drives := m.drives + 1 } (m.course.ends m.drives m.running)
  exact trans ⟨ends.nextId, ends.transfers⟩ (of_ended rfl rfl rfl rfl)

theorem nextId_collect (m : SmtpMultiplexer) (e : Option EndedTransfer) :
    (m.collect e).nextId = m.nextId := by
  cases e with
  | none => rfl
  | some e => rfl

theorem mem_collect {m : SmtpMultiplexer} {e : Option EndedTransfer} {r : TransferId × Transfer}
    (h : r ∈ (m.collect e).transfers) :
    r ∈ m.transfers ∨ ∃ x, e = some x ∧ r = (x.id, x.transfer) := by
  cases e with
  | none => exact .inl h
  | some x =>
    rcases mem_transfers.mp h with running | ended | held
    · exact .inl (mem_transfers.mpr (.inl running))
    · exact .inl (mem_transfers.mpr (.inr (.inl ended)))
    · rcases List.mem_append.mp held with before | now
      · exact .inl (mem_transfers.mpr (.inr (.inr before)))
      · exact .inr ⟨x, rfl, List.mem_singleton.mp now⟩

theorem collectEach (m : SmtpMultiplexer) (es : List (Option EndedTransfer)) :
    (es.foldl collect m).nextId = m.nextId ∧ ∀ r ∈ (es.foldl collect m).transfers,
      r ∈ m.transfers ∨ ∃ x, some x ∈ es ∧ r = (x.id, x.transfer) := by
  induction es generalizing m with
  | nil => exact ⟨rfl, fun r hr => .inl hr⟩
  | cons e rest ih =>
    obtain ⟨nextId, mem⟩ := ih (m.collect e)
    refine ⟨nextId.trans (nextId_collect m e), fun r hr => ?_⟩
    rcases mem r hr with before | ⟨x, hx, same⟩
    · rcases mem_collect before with before | ⟨x, rfl, same⟩
      · exact .inl before
      · exact .inr ⟨x, List.mem_cons_self, same⟩
    · exact .inr ⟨x, List.mem_cons_of_mem _ hx, same⟩

/-- Some of the ended tasks are collected. -/
theorem collected {m : SmtpMultiplexer} {es rest : List (Option EndedTransfer)}
    (h : m.ended = es ++ rest) : Continues m (es.foldl collect { m with ended := rest }) := by
  obtain ⟨nextId, mem⟩ := collectEach { m with ended := rest } es
  refine of_subset nextId fun r hr => mem_transfers.mpr ?_
  rcases mem r hr with before | ⟨x, hx, same⟩
  · rcases mem_transfers.mp before with running | ⟨x, hx, same⟩ | held
    · exact .inl running
    · exact .inr (.inl ⟨x, h ▸ List.mem_append_right es hx, same⟩)
    · exact .inr (.inr held)
  · exact .inr (.inl ⟨x, h ▸ List.mem_append_left rest hx, same⟩)

theorem wait (m : SmtpMultiplexer) (limit : Duration) : Continues m (m.wait limit).1 := by
  unfold SmtpMultiplexer.wait
  split
  · exact of_subset rfl fun _ hr => hr
  · refine (drive m).trans ?_
    show Continues m.drive.1 m.drive.1.collectOne
    unfold collectOne
    split
    · exact of_subset rfl fun _ hr => hr
    · next e rest ended =>
      have first : m.drive.1.ended = [e] ++ rest := ended
      exact collected first

theorem perform (m : SmtpMultiplexer) : Continues m m.perform.1 := by
  unfold SmtpMultiplexer.perform
  split
  · exact of_subset rfl fun _ hr => hr
  · exact (drive m).trans (collected (List.append_nil _).symm)

theorem next {m m' : SmtpMultiplexer} {c : Completion} (h : m.next = some (c, m')) :
    Continues m m' := by
  unfold SmtpMultiplexer.next at h
  split at h
  · cases h
  · obtain ⟨rfl, rfl⟩ := Prod.mk.inj (Option.some.inj h)
    exact of_subset rfl fun _ hr => hr

theorem remove (m : SmtpMultiplexer) (id : TransferId) : Continues m (m.remove id).2 := by
  unfold SmtpMultiplexer.remove
  split
  · refine of_subset rfl fun r hr => mem_transfers.mpr ?_
    rcases mem_transfers.mp hr with running | ended | held
    · exact .inl running
    · exact .inr (.inl ended)
    · exact .inr (.inr (List.mem_filter.mp held).1)
  · split
    · refine of_subset rfl fun r hr => mem_transfers.mpr ?_
      rcases mem_transfers.mp hr with running | ended | held
      · exact .inl (List.mem_filter.mp running).1
      · exact .inr (.inl ended)
      · exact .inr (.inr held)
    · refine of_subset rfl fun r hr => mem_transfers.mpr ?_
      rcases mem_transfers.mp hr with running | ⟨x, ended, same⟩ | held
      · exact .inl running
      · obtain ⟨e, he, given_up⟩ := List.mem_map.mp ended
        split at given_up
        · cases given_up
        · exact .inr (.inl ⟨x, given_up ▸ he, same⟩)
      · exact .inr (.inr held)

end Continues

/-- Names were given out in order, and each transfer is the one that its name stands for, of which
octets may have been read. -/
structure Numbers (ts : List Transfer) (m : SmtpMultiplexer) : Prop where
  nextId : m.nextId = ts.length
  transfers : ∀ r ∈ m.transfers, ∃ t n, ts[r.1.number]? = some t ∧ r.2 = t.served n

namespace Numbers

variable {ts : List Transfer} {m m' : SmtpMultiplexer}

theorem continues (h : Numbers ts m) (later : Continues m m') : Numbers ts m' := by
  refine ⟨later.nextId.trans h.nextId, fun r hr => ?_⟩
  obtain ⟨u, k, hu, same⟩ := later.transfers r hr
  obtain ⟨t, n, ht, same'⟩ := h.transfers _ hu
  refine ⟨t, n + k, ht, ?_⟩
  rw [same, ← Transfer.served_served]
  exact congrArg (Transfer.served · k) same'

/-- Only a complete transfer is given a name. -/
theorem offered (h : Numbers ts m) {t : Transfer} (complete : t.missing = none) :
    Numbers (ts ++ [t]) (m.add t).2 := by
  have before {r : TransferId × Transfer} (hr : r ∈ m.transfers) :
      ∃ u n, (ts ++ [t])[r.1.number]? = some u ∧ r.2 = u.served n := by
    obtain ⟨u, n, hu, same⟩ := h.transfers r hr
    have within := (List.getElem?_eq_some_iff.mp hu).1
    exact ⟨u, n, by rw [List.getElem?_append_left within, hu], same⟩
  rw [add, complete]
  refine ⟨by rw [List.length_append, ← h.nextId]; rfl, fun r hr => ?_⟩
  rcases mem_transfers.mp hr with running | ended | held
  · rcases List.mem_append.mp running with old | new
    · exact before (mem_transfers.mpr (.inl old))
    · obtain rfl := List.mem_singleton.mp new
      refine ⟨t, 0, ?_, t.served_zero.symm⟩
      rw [h.nextId, List.getElem?_concat_length]
  · exact before (mem_transfers.mpr (.inr (.inl ended)))
  · exact before (mem_transfers.mpr (.inr (.inr held)))

theorem of_given {c : Course} (h : Multiplexer.Given (start c) ts m)
    (complete : ∀ t ∈ ts, t.missing = none) : Numbers ts m := by
  induction h with
  | fresh => exact ⟨rfl, nofun⟩
  | offered _ t ih =>
    rw [List.forall_mem_append, List.forall_mem_singleton] at complete
    exact (ih complete.1).offered complete.2
  | waited _ limit ih => exact (ih complete).continues (.wait _ limit)
  | performed _ ih => exact (ih complete).continues (.perform _)
  | told _ hn ih => exact (ih complete).continues (.next hn)
  | removed _ id ih => exact (ih complete).continues (.remove _ id)

end Numbers

/-- Each transfer is the one of the mail by whose number it is named, of which octets may have been
read. -/
def Keeps (mails : List (Account × Transfer)) (m : SmtpMultiplexer) : Prop :=
  ∀ r ∈ m.transfers, ∃ mail n, mails[r.1.number]? = some mail ∧ r.2 = mail.2.served n

theorem keeps_of_offered {mails : List (Account × Transfer)} {m : SmtpMultiplexer}
    (complete : ∀ mail ∈ mails, mail.2.missing = none)
    (h : Multiplexer.Offered SmtpTransport mails m) : Keeps mails m := by
  obtain ⟨t, t', made, allocated, given⟩ := h
  obtain rfl : SmtpMultiplexer.start t.course = made :=
    Except.ok.inj (congrArg Prod.fst allocated)
  intro r hr
  obtain ⟨u, n, hu, same⟩ :=
    (Numbers.of_given given (List.forall_mem_map.mpr complete)).transfers r hr
  rw [List.getElem?_map] at hu
  obtain ⟨mail, hm, rfl⟩ := Option.map_eq_some_iff.mp hu
  exact ⟨mail, n, hm, same⟩

end SmtpMultiplexer

/-! ## Mails and their accounts -/

namespace Standing

/-- Each mail is the whole transfer of a letter, made for the account that it is noted with. -/
def Made (limits : Timeouts) (s : Standing) : Prop :=
  ∀ mail ∈ s.mails, ∃ l now, mail.2 = Letter.transfer l mail.1 limits now

theorem Made.step {limits : Timeouts} {s : Standing} (h : Made limits s)
    (o : Operation × Except LifecycleError Unit) : Made limits (s.step limits o) := by
  obtain ⟨o, r⟩ := o
  cases o with
  | start p =>
    cases r with
    | error e => exact h
    | ok _ => exact nofun
  | reconfigure p =>
    cases r with
    | error e => exact h
    | ok _ => exact h
  | pass => exact h
  | shutdown => exact nofun
  | send l now =>
    intro mail hm
    rcases List.mem_append.mp hm with old | new
    · exact h mail old
    · exact ⟨l, now, mail_eq_some (Option.mem_toList.mp new)⟩

theorem Made.steps {limits : Timeouts} {s : Standing} (h : Made limits s)
    (done : List (Operation × Except LifecycleError Unit)) :
    Made limits (done.foldl (Standing.step limits) s) := by
  induction done generalizing s with
  | nil => exact h
  | cons o rest ih => exact ih (h.step o)

theorem made_of (limits : Timeouts) (done : List (Operation × Except LifecycleError Unit)) :
    Made limits (of limits done) := by
  have start : Made limits initial := nofun
  exact start.steps done

end Standing

namespace Mailer

variable [Multiplexer M] [Transport T M]

/-- **Each mail carries the configuration in force when it was sent.** Whatever is done to a mailer
over any transport, in whatever order and however it goes:

* its account is the validated form of the settings that a start or a change of settings last
  succeeded with, field by field, and there is none before;
* while it runs, the mails since its start are shared out between the slots of its one pool, and of
  all transfers each slot was offered those of its mails, in order;
* each of these has the options of the account that was in force when its letter was submitted.

And no matter which course deliveries take, an SMTP multiplexer holds the transfer of a mail under
its number as it was offered, whatever came later; only octets of its payload may have been read. -/
theorem sent_under (t : T) (d : DispatchSettings) (operations : List Operation) :
    (∀ (p : Preferences) (a : Account), p.validate = .ok a ↔ a.Of p) ∧
    (let m : Mailer T M := (new t d).after operations
    let s := Standing.of d.timeouts ((new t d : Mailer T M).record operations)
    m.account.map Except.ok = s.settings.map Preferences.validate ∧
      m.isRunning = s.taking ∧
      (s.taking = false → m.pools = []) ∧
      (s.taking = true → ∃ id p, m.pools = [(id, p)] ∧
        p.Shares (Multiplexer.Offered T) s.mails) ∧
      ∀ mail ∈ s.mails, mail.2.options = {
        url := mail.1.url
        host := mail.1.host
        port := mail.1.port
        caStore := mail.1.caStore
        username := mail.1.username
        password := mail.1.password
        tls := mail.1.tls
        helo := "localhost"
        timeouts := d.timeouts }) ∧
    ∀ course : Course,
      let m : Mailer SmtpTransport SmtpMultiplexer := (new ⟨course⟩ d).after operations
      let s := Standing.of d.timeouts
        ((new ⟨course⟩ d : Mailer SmtpTransport SmtpMultiplexer).record operations)
      ∀ q ∈ m.pools, q.2.Shares SmtpMultiplexer.Keeps s.mails := by
  refine ⟨fun p a => Preferences.validate_eq_ok_iff, ?_, ?_⟩
  · intro m s
    have h : Reflects d s m := (Reflects.new t d).after operations
    refine ⟨h.account, h.running, fun off => (h.idle off).1.pools, fun on => ?_, fun mail hm => ?_⟩
    · obtain ⟨id, p, serving, shares⟩ := h.serving on
      exact ⟨id, p, serving.pools, shares⟩
    · obtain ⟨l, now, made⟩ := Standing.made_of _ _ mail hm
      rw [made]
      rfl
  · intro course m s q hq
    have fresh : Reflects d .initial (new ⟨course⟩ d : Mailer SmtpTransport SmtpMultiplexer) :=
      Reflects.new (SmtpTransport.mk course) d
    have h : Reflects d s m := fresh.after operations
    cases taking : s.taking with
    | false =>
      rw [(h.idle taking).1.pools] at hq
      cases hq
    | true =>
      obtain ⟨id, p, serving, shares⟩ := h.serving taking
      rw [serving.pools] at hq
      obtain rfl := List.mem_singleton.mp hq
      -- a share has complete transfers only, so every one of them was given a name
      refine shares.imp fun share mux part offered => ?_
      refine SmtpMultiplexer.keeps_of_offered (fun mail hm => ?_) offered
      obtain ⟨l, now, made⟩ := Standing.made_of _ _ mail (part hm)
      rw [made]
      exact l.missing_transfer mail.1 d.timeouts now

end Mailer

end Outbox
