import Outbox.Proofs.Gating

/-!
# How long a delivery may take

Each phase of a delivery has a limit. Together they bound the delivery, but the greeting and EHLO
have the limit for EHLO each, and DATA and the message the limit for DATA each, while
`Timeouts.total` has every limit once.

* `Delivery.Enters`: the phases that a part of a delivery goes through, up to where it stops.
* `Transfer.Ready.deliver_enters`: a delivery goes through its phases in order, each at most once,
  and a delivery that succeeds through all of them.
* `Timeouts.deliveries_within`: **what a delivery to one recipient may take is at most the total and
  the limits for EHLO and DATA once more**. So the total bounds every delivery exactly if these two
  limits are zero.
* `Timeouts.total_exceeded`: a delivery that may take longer than the total.
-/

set_option autoImplicit false

namespace Outbox

/-! ## Sums of limits -/

/-- A duration in nanoseconds. -/
def Duration.toNanos (d : Duration) : Nat := d.secs * 1000000000 + d.nanos

/-- Several durations together, in nanoseconds. -/
def Duration.sum (ds : List Duration) : Nat := ds.foldr (fun d n => d.toNanos + n) 0

theorem Duration.sum_nil : sum [] = 0 := by rw [sum, List.foldr_nil]

theorem Duration.sum_cons (d : Duration) (ds : List Duration) :
    sum (d :: ds) = d.toNanos + sum ds := by rw [sum, List.foldr_cons, sum]

theorem Duration.sum_le_of_sublist {ds es : List Duration} (h : List.Sublist ds es) :
    sum ds ≤ sum es := by
  induction h with
  | slnil => exact Nat.le_refl _
  | cons e _ ih =>
    rw [sum_cons]
    omega
  | cons_cons d _ ih =>
    rw [sum_cons, sum_cons]
    omega

/-- What some phases may take, in nanoseconds. -/
def Phase.granted (limits : Timeouts) (ps : List Phase) : Nat :=
  Duration.sum (ps.map fun p => p.limit limits)

/-- What the phases that were entered may take, in nanoseconds. -/
def Delivered.granted (d : Delivered) : Nat := Duration.sum (d.spans.map fun s => s.limit)

theorem Phase.granted_le_of_sublist {limits : Timeouts} {ps qs : List Phase}
    (h : List.Sublist ps qs) : granted limits ps ≤ granted limits qs :=
  Duration.sum_le_of_sublist (h.map _)

/-! ## Phases of a part -/

namespace Delivery

variable {α β : Type}

/-- A part that started at `d` and came to `r` went through some phases, each under its limit: the
front of `ps`, and all of them if nothing failed. -/
def Enters (ps : List Phase) (d : Delivery) (r : Except SessionError α × Delivery) : Prop :=
  ∃ entered : List Span, r.2.spans = d.spans ++ entered ∧ r.2.limits = d.limits ∧
    (∀ s ∈ entered, s.limit = s.phase.limit d.limits) ∧
    entered.map Span.phase <+: ps ∧ (r.1.isOk = true → entered.map Span.phase = ps)

/-- A part that only looks and reports. -/
theorem enters_nothing {d : Delivery} {r : Except SessionError α × Delivery}
    (spans : r.2.spans = d.spans) (limits : r.2.limits = d.limits) : Enters [] d r :=
  ⟨[], by simp [spans], limits, nofun, List.nil_prefix, fun _ => rfl⟩

/-- A part that is one phase. -/
theorem enters_phase {p : Phase} {γ : Type} (result : Except Stop γ) {d : Delivery}
    {r : Except SessionError α × Delivery} (spans : r.2.spans = d.spans ++ [span d.limits p result])
    (limits : r.2.limits = d.limits) : Enters [p] d r := by
  refine ⟨_, spans, limits, fun s hs => ?_, List.prefix_refl _, fun _ => rfl⟩
  obtain rfl := List.mem_singleton.mp hs
  rfl

theorem enters_asking (p : Phase) (talk : Talk Reply) (d : Delivery) :
    Enters [p] d ((asking p talk).run d) := by
  rw [run_asking]
  exact enters_phase _ rfl rfl

/-- **Parts one after the other** go through their phases one after the other. -/
theorem Enters.bind {q : Part α} {k : α → Part β} {ps qs : List Phase} {d : Delivery}
    (first : Enters ps d (q.run d))
    (next : ∀ a d', q.run d = (.ok a, d') → Enters qs d' ((k a).run d')) :
    Enters (ps ++ qs) d ((q >>= k).run d) := by
  obtain ⟨entered, spans, limits, each, front, all⟩ := first
  rw [run_bind]
  rcases hq : q.run d with ⟨e | a, d'⟩
  · rw [hq] at spans limits
    exact ⟨entered, spans, limits, each, front.trans (List.prefix_append _ _), nofun⟩
  · rw [hq] at spans limits all
    obtain ⟨more, spans', limits', each', front', all'⟩ := next a d' hq
    have done : entered.map Span.phase = ps := all rfl
    refine ⟨entered ++ more, ?_, limits'.trans limits, ?_, ?_, fun ok => ?_⟩
    · rw [spans', spans, List.append_assoc]
    · intro s hs
      rcases List.mem_append.mp hs with hs | hs
      · exact each s hs
      · exact (each' s hs).trans (by rw [limits])
    · rw [List.map_append, done]
      exact (List.prefix_append_right_inj ps).mpr front'
    · rw [List.map_append, done, all' ok]

theorem enters_greet (helo : String) (d : Delivery) :
    Enters [.greeting, .ehlo] d ((greet helo).run d) :=
  (enters_asking .greeting Talk.readReply d).bind fun _ d' _ => enters_asking .ehlo _ d'

/-- The phases that credentials take: one, if there is a user name and a mechanism. -/
def credentialPhases (username : String) (ehlo : Reply) : List Phase :=
  if !username.isEmpty && offersCredentials ehlo then [.auth] else []

theorem enters_authenticate (ehlo : Reply) (username password : String) (d : Delivery) :
    Enters (credentialPhases username ehlo) d ((authenticate ehlo username password).run d) := by
  unfold authenticate credentialPhases
  cases username.isEmpty with
  | true => exact enters_nothing rfl rfl
  | false =>
    cases offersCredentials ehlo with
    | false => exact enters_nothing rfl rfl
    | true => exact (enters_asking .auth _ d).bind fun _ _ _ => enters_nothing rfl rfl

theorem enters_recipients (paths : List String) (d : Delivery) :
    Enters (paths.map fun _ => .rcptTo) d ((recipients paths).run d) := by
  induction paths generalizing d with
  | nil => exact enters_nothing rfl rfl
  | cons path rest ih => exact (enters_asking .rcptTo _ d).bind fun _ d' _ => ih d'

theorem enters_envelope (sender : String) (receivers : Recipients) (d : Delivery) :
    Enters (.mailFrom :: receivers.paths.map fun _ => .rcptTo) d
      ((envelope sender receivers).run d) :=
  (enters_asking .mailFrom _ d).bind fun _ d' _ => enters_recipients receivers.paths d'

theorem enters_message (d : Delivery) : Enters [.data, .message] d (message.run d) := by
  show Enters ([.data] ++ [.message]) d (message.run d)
  refine (enters_asking .data _ d).bind fun _ d' _ => ?_
  have sent : Enters [.message] d' (sending.run d') := by
    rw [sending_eq]
    exact enters_phase _ rfl rfl
  show Enters ([.message] ++ []) d' _
  refine sent.bind fun r d'' _ => ?_
  have judged : Enters [] d'' ((expect .message r).run d'') := by
    rw [run_expect]
    exact enters_nothing rfl rfl
  exact judged.bind fun _ _ _ => enters_nothing rfl rfl

theorem enters_leave (d : Delivery) : Enters [.quit] d (leave.run d) := by
  unfold leave
  rw [run_tryCatch, run_bind, run_during]
  cases (Talk.quit.run d.session).1 with
  | ok r => exact enters_phase (.ok r) rfl rfl
  | error stop => exact enters_phase (Except.error stop : Except Stop Reply) rfl rfl

end Delivery

/-! ## Phases of a delivery -/

namespace Transfer.Ready

open Delivery

/-- Whether credentials go out to a peer, if the delivery gets so far. -/
def sendsCredentials (t : Ready) (f : Inflow) : Bool :=
  !t.options.username.isEmpty && f.answers[1]?.any offersCredentials

/-- The phases of a dialogue that nothing stops, with or without AUTH. -/
def dialoguePhases (t : Ready) (auth : Bool) : List Phase :=
  [.greeting, .ehlo] ++ ((if auth then [.auth] else []) ++
    ((.mailFrom :: t.recipients.paths.map fun _ => .rcptTo) ++ ([.data, .message] ++ [.quit])))

/-- The phases of a delivery that nothing stops. -/
def phases (t : Ready) (auth : Bool) : List Phase := .connect :: t.dialoguePhases auth

theorem dialogue_enters (t : Ready) {d : Delivery} (f : Inflow)
    (stream : d.view.stream = f.octets) :
    Enters (t.dialoguePhases (t.sendsCredentials f)) d ((dialogue t).run d) := by
  refine (enters_greet t.options.helo d).bind fun ehlo d' greeted => ?_
  -- which phases follow depends on the reply to EHLO, the second one
  have second : f.answers[1]? = some ehlo := by
    rw [Inflow.answers, ← stream]
    exact greet_reply (congrArg Prod.fst greeted)
  have auth : (if t.sendsCredentials f then [Phase.auth] else []) =
      credentialPhases t.options.username ehlo := by
    rw [sendsCredentials, second]
    rfl
  rw [auth]
  exact (enters_authenticate ehlo _ _ d').bind fun _ d₁ _ =>
    (enters_envelope t.mailFrom t.recipients d₁).bind fun _ d₂ _ =>
      (enters_message d₂).bind fun _ d₃ _ => enters_leave d₃

/-- Connecting is one phase. Without trust anchors it is not even entered. -/
theorem connect_spans (n : Environment) (o : TransferOptions) :
    ((connect n o).2.1.map Span.phase <+: [.connect]) ∧
      (∀ s ∈ (connect n o).2.1, s.limit = s.phase.limit o.timeouts) ∧
      ((connect n o).1.isOk = true → (connect n o).2.1.map Span.phase = [.connect]) := by
  have once {r : Except Stop Inflow} : ∀ s ∈ [span o.timeouts .connect r],
      s.limit = s.phase.limit o.timeouts := by
    intro s hs
    obtain rfl := List.mem_singleton.mp hs
    rfl
  unfold connect
  split
  · split
    · exact ⟨List.nil_prefix, nofun, nofun⟩
    · exact ⟨List.prefix_refl _, once, fun _ => rfl⟩
  · exact ⟨List.prefix_refl _, once, fun _ => rfl⟩

variable {n : Environment} {t : Ready} {f : Inflow} {spans : List Span} {events : List Event}

/-- **A delivery over a connection goes through its phases**, up to where it stops. -/
theorem deliver_enters (hc : connect n t.options = (.ok f, spans, events)) :
    let ps := t.phases (t.sendsCredentials f)
    (t.deliver n).spans.map Span.phase <+: ps ∧
      (∀ s ∈ (t.deliver n).spans, s.limit = s.phase.limit t.options.timeouts) ∧
      ((t.deliver n).outcome = .ok () → (t.deliver n).spans.map Span.phase = ps) := by
  obtain ⟨-, granted, connected⟩ := connect_spans n t.options
  rw [hc] at granted connected
  have first : spans.map Span.phase = [.connect] := connected rfl
  let d := t.opened f (n.blockage t.options.address) spans events
  obtain ⟨entered, left, -, each, front, all⟩ :=
    t.dialogue_enters (d := d) f (t.stream_opened f _ spans events)
  have made : (t.deliver n).spans = spans ++ entered := by
    rw [deliver_eq hc]
    exact left
  have outcome : (t.deliver n).outcome = ((dialogue t).run d).1.mapError .session := by
    rw [deliver_eq hc]
  refine ⟨?_, ?_, fun ok => ?_⟩
  · rw [made, List.map_append, first]
    exact (List.prefix_append_right_inj [Phase.connect]).mpr front
  · intro s hs
    rw [made] at hs
    rcases List.mem_append.mp hs with hs | hs
    · exact granted s hs
    · exact each s hs
  · have through : ((dialogue t).run d).1.isOk = true := by
      rw [outcome] at ok
      cases hd : ((dialogue t).run d).1 with
      | error e => rw [hd] at ok; cases ok
      | ok u => rfl
    rw [made, List.map_append, first, all through]
    rfl

theorem phases_sublist (t : Ready) (auth : Bool) :
    List.Sublist (t.phases auth) (t.phases true) := by
  cases auth with
  | true => exact List.Sublist.refl _
  | false =>
    exact ((List.sublist_append_right [Phase.auth] _).append_left [.greeting, .ehlo]).cons_cons _

/-- Each phase that was entered has its limit. -/
theorem granted_eq (n : Environment) (t : Ready) : (t.deliver n).granted =
    Phase.granted t.options.timeouts ((t.deliver n).spans.map Span.phase) := by
  have each : ∀ s ∈ (t.deliver n).spans, s.limit = s.phase.limit t.options.timeouts := by
    rcases hc : connect n t.options with ⟨e | f, spans, events⟩
    · have made : (t.deliver n).spans = (connect n t.options).2.1 := by rw [deliver, execute, hc]
      rw [made]
      exact (connect_spans n t.options).2.1
    · exact (deliver_enters hc).2.1
  rw [Delivered.granted, Phase.granted, List.map_map]
  exact congrArg Duration.sum (List.map_congr_left fun s hs => by rw [each s hs]; rfl)

/-- A delivery goes through no more than all phases, with AUTH. -/
theorem deliver_sublist (n : Environment) (t : Ready) :
    List.Sublist ((t.deliver n).spans.map Span.phase) (t.phases true) := by
  rcases hc : connect n t.options with ⟨e | f, spans, events⟩
  · have made : (t.deliver n).spans = (connect n t.options).2.1 := by rw [deliver, execute, hc]
    rw [made]
    exact ((connect_spans n t.options).1.trans (List.prefix_append [Phase.connect] _)).sublist
  · exact (deliver_enters hc).1.sublist.trans (t.phases_sublist _)

/-! ## A delivery that takes all of its phases -/

/-- A mail with credentials to one recipient, over a connection in the clear. -/
def hurried (limits : Timeouts) : Ready where
  options := ⟨"smtp://mx", "mx", 25, "", "ann", "secret", .disabled, "localhost", limits⟩
  mailFrom := "<ann@a.example>"
  recipients := ⟨["<bob@b.example>"]⟩
  payload := .ofString "hi\n"

/-- A peer that asks for credentials and takes the mail. -/
def obliging : Inflow :=
  ⟨[Wire.text "220 mx\r\n250-mx\r\n250 AUTH PLAIN\r\n235 in\r\n250 ok\r\n250 ok\r\n",
    Wire.text "354 go\r\n250 ok\r\n"], .closed⟩

/-- Behind every address is such a peer. -/
def obligingNetwork : Network := ⟨fun _ => .ok ⟨obliging, none⟩, fun _ => .error .notFound, []⟩

theorem outcome_hurried (limits : Timeouts) :
    ((hurried limits).deliver obligingNetwork).outcome = .ok () := by
  have hc : connect obligingNetwork (hurried limits).options = (.ok obliging, _, _) := rfl
  refine (deliver_ends hc rfl).outcome_eq_ok_iff_all.mpr ?_
  -- no command depends on the limits
  show (hurried .standard).reach obliging = ((hurried .standard).script obliging).length
  decide +kernel

/-- Such a delivery goes through all phases there are. -/
theorem spans_hurried (limits : Timeouts) :
    ((hurried limits).deliver obligingNetwork).spans.map Span.phase =
      (hurried limits).phases true := by
  have hc : connect obligingNetwork (hurried limits).options = (.ok obliging, _, _) := rfl
  have auth : (hurried limits).sendsCredentials obliging = true := by
    show (hurried .standard).sendsCredentials obliging = true
    decide +kernel
  rw [← auth]
  exact (deliver_enters hc).2.2 (outcome_hurried limits)

theorem granted_hurried (limits : Timeouts) :
    ((hurried limits).deliver obligingNetwork).granted =
      Phase.granted limits ((hurried limits).phases true) := by
  rw [granted_eq, spans_hurried]
  rfl

end Transfer.Ready

/-! ## The total -/

namespace Timeouts

open Transfer.Ready (hurried obligingNetwork)

theorem toNanos_seconds (n : UInt64) : (seconds n).toNanos = n.toNat * 1000000000 := by
  rw [seconds, Duration.toNanos, Duration.ofSecs, Nat.add_zero]

theorem toNanos_seconds_eq_zero {n : UInt64} : (seconds n).toNanos = 0 ↔ n = 0 := by
  rw [toNanos_seconds, ← UInt64.toNat_inj, UInt64.toNat_zero]
  omega

theorem toNanos_total (limits : Timeouts) : limits.total.toNanos =
    (limits.connectSecs.toNat + limits.ehloSecs.toNat + limits.authSecs.toNat +
      limits.mailFromSecs.toNat + limits.rcptToSecs.toNat + limits.dataSecs.toNat +
      limits.quitSecs.toNat) * 1000000000 := by
  rw [total, Duration.toNanos, Duration.ofSecs, Nat.add_zero]

/-- All phases of a mail to one recipient have the limits of the total and those for EHLO and DATA
once more. -/
theorem granted_phases (limits : Timeouts) {t : Transfer.Ready} (one : t.recipients.size = 1) :
    Phase.granted limits (t.phases true) =
      limits.total.toNanos + limits.ehlo.toNanos + limits.data.toNanos := by
  obtain ⟨path, only⟩ := List.length_eq_one_iff.mp one
  have phases : (t.phases true).map (Phase.limit limits) = [limits.connect, limits.ehlo,
      limits.ehlo, limits.auth, limits.mailFrom, limits.rcptTo, limits.data, limits.data,
      limits.quit] := by
    rw [Transfer.Ready.phases, Transfer.Ready.dialoguePhases, only]
    rfl
  have regroup (a b c d e f g : Nat) :
      a + (b + (b + (c + (d + (e + (f + (f + (g + 0)))))))) =
        a + b + c + d + e + f + g + b + f := by
    omega
  rw [Phase.granted, phases]
  simp only [Duration.sum_cons, Duration.sum_nil, regroup]
  simp only [connect, ehlo, auth, mailFrom, rcptTo, data, quit, toNanos_seconds, toNanos_total,
    Nat.add_mul]

/-- As long as the words' sum does not overflow, it is the total. -/
theorem total_eq_seconds {limits : Timeouts} (small : limits.total.secs < UInt64.size) :
    limits.total = seconds (limits.connectSecs + limits.ehloSecs + limits.authSecs +
      limits.mailFromSecs + limits.rcptToSecs + limits.dataSecs + limits.quitSecs) := by
  have size : UInt64.size = 2 ^ 64 := rfl
  rw [size] at small
  simp only [total, Duration.ofSecs] at small
  simp only [total, seconds, UInt64.toNat_add, Duration.ofSecs, Duration.mk.injEq, and_true]
  omega

/-- **What a delivery may take.** The limits of the phases that a delivery to one recipient goes
through add up to at most the total and the limits for EHLO and DATA once more, since the greeting
has the limit of EHLO and the message that of DATA. With a peer that asks for credentials and
accepts everything they add up to just that. So the total bounds what every delivery may take
exactly if the limits for EHLO and DATA are zero. -/
theorem deliveries_within {limits : Timeouts} (small : limits.total.secs < UInt64.size) :
    limits.total = seconds (limits.connectSecs + limits.ehloSecs + limits.authSecs +
      limits.mailFromSecs + limits.rcptToSecs + limits.dataSecs + limits.quitSecs) ∧
    (∀ (n : Environment) (t : Transfer.Ready), t.options.timeouts = limits → t.recipients.size = 1 →
      (t.deliver n).granted ≤
        limits.total.toNanos + limits.ehlo.toNanos + limits.data.toNanos) ∧
    ((hurried limits).deliver obligingNetwork).granted =
      limits.total.toNanos + limits.ehlo.toNanos + limits.data.toNanos ∧
    ((∀ (n : Environment) (t : Transfer.Ready), t.options.timeouts = limits → t.recipients.size = 1 →
        (t.deliver n).granted ≤ limits.total.toNanos) ↔
      limits.ehloSecs = 0 ∧ limits.dataSecs = 0) := by
  have within (n : Environment) (t : Transfer.Ready) (under : t.options.timeouts = limits)
      (one : t.recipients.size = 1) : (t.deliver n).granted ≤
        limits.total.toNanos + limits.ehlo.toNanos + limits.data.toNanos := by
    rw [Transfer.Ready.granted_eq, under, ← granted_phases limits one]
    exact Phase.granted_le_of_sublist (Transfer.Ready.deliver_sublist n t)
  have reached : ((hurried limits).deliver obligingNetwork).granted =
      limits.total.toNanos + limits.ehlo.toNanos + limits.data.toNanos := by
    rw [Transfer.Ready.granted_hurried, granted_phases limits (t := hurried limits) rfl]
  have ehlo : limits.ehlo.toNanos = 0 ↔ limits.ehloSecs = 0 := toNanos_seconds_eq_zero
  have data : limits.data.toNanos = 0 ↔ limits.dataSecs = 0 := toNanos_seconds_eq_zero
  refine ⟨total_eq_seconds small, within, reached, fun bounded => ?_, fun zero n t under one => ?_⟩
  · have most := bounded obligingNetwork (hurried limits) rfl rfl
    rw [reached] at most
    rw [← ehlo, ← data]
    omega
  · have most := within n t under one
    rw [← ehlo, ← data] at zero
    omega

/-- Under the standard limits that delivery may take more than the total. -/
theorem deliveries_within_standard : standard.total.secs < UInt64.size ∧
    ((hurried standard).deliver obligingNetwork).granted =
      standard.total.toNanos + standard.ehlo.toNanos + standard.data.toNanos ∧
    standard.ehlo.secs = 30 ∧ standard.data.secs = 120 := by
  have small : standard.total.secs < UInt64.size := by decide
  obtain ⟨-, -, reached, -⟩ := deliveries_within small
  exact ⟨small, reached, by decide, by decide⟩

/-- **The total is exceeded** by the limits of one delivery to one recipient. -/
theorem total_exceeded : ∃ (n : Network) (t : Transfer.Ready),
    t.options.timeouts.total.secs < UInt64.size ∧ t.recipients.size = 1 ∧
      t.options.timeouts.total.toNanos < (t.deliver n).granted := by
  refine ⟨obligingNetwork, hurried standard, by decide, rfl, ?_⟩
  rw [Transfer.Ready.granted_eq, Transfer.Ready.spans_hurried]
  decide

end Timeouts

end Outbox
