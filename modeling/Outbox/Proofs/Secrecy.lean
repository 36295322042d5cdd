import Outbox.Multiplexer.Smtp
import Outbox.Proofs.Gating

/-!
# Credentials stay on their lines

User name and password are written to the server on lines of their own. Nothing else depends on
them: not what else is written, not what is reported, not how a delivery ends.

* `Fragment`: what is written, with a place for each line of credentials, or the front of one that a
  blocked connection still took. `Fragment.render` fills the places in.
* `Discreet`: a computation that credentials do not sway, and that leaves a row of fragments behind.
  `Discreet.bind` puts two of them together; each step of a delivery is shown to be one.
* `Transfer.Ready.deliver_discreet`: a delivery is fixed but for the places of its fragments.
* `Transfer.Ready.deliver_within`: what a delivery reports is reported within a span of its own.
* `credentials_hidden`: **two deliveries that differ in credentials alone** end alike, report alike
  and write alike but for the lines of credentials; and a password does not show in diagnostics.
-/

set_option autoImplicit false

namespace Outbox

/-- A user name, which is not empty, and a password. -/
structure Credentials where
  username : String
  password : String
  named : username.isEmpty = false

/-- A line that holds credentials. -/
inductive CredentialLine where
  | plain
  | username
  | password
  deriving DecidableEq, Repr

def CredentialLine.text (c : Credentials) : CredentialLine → String
  | plain => "AUTH PLAIN " ++ Wire.plain c.username c.password
  | username => Wire.base64 (Wire.text c.username)
  | password => Wire.base64 (Wire.text c.password)

/-- Something that is written: octets, or a line of credentials whatever these are, or the first
octets of one. -/
inductive Fragment where
  | fixed (data : Bytes)
  | secret (l : CredentialLine)
  | cut (l : CredentialLine) (size : Nat)

namespace Fragment

def octets (c : Credentials) : Fragment → Bytes
  | fixed data => data
  | secret l => Wire.line (l.text c)
  | cut l size => (Wire.line (l.text c)).take size

def line? : Fragment → Option CredentialLine
  | fixed _ => none
  | secret l => some l
  | cut l _ => some l

/-- The first octets of something. -/
def front (size : Nat) : Fragment → Fragment
  | fixed data => fixed (data.take size)
  | secret l => cut l size
  | cut l size' => cut l (min size size')

theorem octets_front (c : Credentials) (size : Nat) (f : Fragment) :
    (f.front size).octets c = (f.octets c).take size := by
  cases f with
  | fixed data | secret l => rfl
  | cut l size' => exact (List.take_take).symm

theorem line?_front (size : Nat) (f : Fragment) : (f.front size).line? = f.line? := by
  cases f <;> rfl

/-- What is written for some credentials. -/
def render (c : Credentials) (fs : List Fragment) : Bytes := fs.flatMap (octets c)

/-- The lines of credentials, in order. -/
def lines (fs : List Fragment) : List CredentialLine := fs.filterMap line?

@[simp] theorem render_nil (c : Credentials) : render c [] = [] := rfl

theorem render_singleton (c : Credentials) (f : Fragment) : render c [f] = f.octets c :=
  List.append_nil _

@[simp] theorem render_append (c : Credentials) (fs gs : List Fragment) :
    render c (fs ++ gs) = render c fs ++ render c gs :=
  List.flatMap_append

theorem lines_singleton (f : Fragment) : lines [f] = f.line?.toList := by cases f <;> rfl

@[simp] theorem lines_append (fs gs : List Fragment) : lines (fs ++ gs) = lines fs ++ lines gs :=
  List.filterMap_append

end Fragment

/-! ## Computations that credentials do not sway -/

section Discreet

variable {ε σ α β : Type}

/-- From each state a computation goes the same way for all credentials, whatever was written
before, and leaves the same fragments behind it. Their lines are `ls`, or some first of them if it
fails. `put w` is a state with `w` for what was written. -/
def Discreet (put : Bytes → σ → σ) (ls : List CredentialLine)
    (q : Credentials → ExceptT ε (StateM σ) α) : Prop :=
  ∀ s, ∃ (r : Except ε α) (s' : σ) (fs : List Fragment),
    Fragment.lines fs <+: ls ∧ (∀ a, r = .ok a → Fragment.lines fs = ls) ∧
      ∀ c w, (q c).run (put w s) = (r, put (w ++ Fragment.render c fs) s')

namespace Discreet

variable {put : Bytes → σ → σ} {ls ks : List CredentialLine}

/-- A computation that writes nothing. -/
theorem silent {x : ExceptT ε (StateM σ) α}
    (h : ∀ s, ∃ r s', ∀ w, x.run (put w s) = (r, put w s')) :
    Discreet put [] fun _ => x := by
  intro s
  obtain ⟨r, s', hrun⟩ := h s
  refine ⟨r, s', [], List.nil_prefix, fun _ _ => rfl, fun c w => ?_⟩
  rw [hrun w, Fragment.render_nil, List.append_nil]

theorem pure (a : α) :
    Discreet put [] fun _ => (Pure.pure a : ExceptT ε (StateM σ) α) :=
  silent fun s => ⟨.ok a, s, fun _ => rfl⟩

theorem throw (e : ε) :
    Discreet put [] fun _ => (MonadExcept.throw e : ExceptT ε (StateM σ) α) :=
  silent fun s => ⟨.error e, s, fun _ => rfl⟩

theorem bind {q : Credentials → ExceptT ε (StateM σ) α}
    {f : α → Credentials → ExceptT ε (StateM σ) β} (hq : Discreet put ls q)
    (hf : ∀ a, Discreet put ks (f a)) : Discreet put (ls ++ ks) fun c => q c >>= (f · c) := by
  intro s
  obtain ⟨r, s', fs, some, all, hrun⟩ := hq s
  cases r with
  | error e =>
    refine ⟨.error e, s', fs, some.trans (List.prefix_append ls ks), nofun, fun c w => ?_⟩
    rw [run_bind, hrun c w]
  | ok a =>
    obtain ⟨r, s'', gs, more, rest, hrun'⟩ := hf a s'
    have first := all a rfl
    refine ⟨r, s'', fs ++ gs, ?_, fun b hb => ?_, fun c w => ?_⟩
    · rw [Fragment.lines_append, first]
      exact (List.prefix_append_right_inj ls).mpr more
    · rw [Fragment.lines_append, first, rest b hb]
    · rw [run_bind, hrun c w, Fragment.render_append, ← List.append_assoc]
      exact hrun' c (w ++ Fragment.render c fs)

theorem tryCatch {x : ExceptT ε (StateM σ) α} {f : ε → ExceptT ε (StateM σ) α}
    (hx : Discreet put [] fun _ => x) (hf : ∀ e, Discreet put [] fun _ => f e) :
    Discreet put [] fun _ => MonadExcept.tryCatch x f := by
  intro s
  obtain ⟨r, s', fs, some, all, hrun⟩ := hx s
  cases r with
  | ok a =>
    refine ⟨.ok a, s', fs, some, all, fun c w => ?_⟩
    exact (run_tryCatch x f _).trans (by rw [hrun c w])
  | error e =>
    obtain ⟨r, s'', gs, more, -, hrun'⟩ := hf e s'
    have none : Fragment.lines (fs ++ gs) = [] := by
      rw [Fragment.lines_append, List.prefix_nil.mp some, List.prefix_nil.mp more]
      rfl
    refine ⟨r, s'', fs ++ gs, none ▸ List.nil_prefix, fun _ _ => none, fun c w => ?_⟩
    refine (run_tryCatch x f _).trans ?_
    rw [hrun c w, Fragment.render_append, ← List.append_assoc]
    exact hrun' c (w ++ Fragment.render c fs)

end Discreet

end Discreet

/-! ## Steps of a session -/

/-- The same session, with other octets written. -/
def Session.withWritten (w : Bytes) (s : Session) : Session := { s with written := w }

theorem Session.readReply_withWritten (w : Bytes) (s : Session) :
    (s.withWritten w).readReply = (s.readReply.1, s.readReply.2.withWritten w) := by
  unfold readReply
  simp only [withWritten]
  split
  · rfl
  · rfl

/-- A write either succeeds or is stopped behind so many octets, whatever is written. -/
theorem Session.write_withWritten (s : Session) :
    (∃ s' : Session, ∀ w data, (s.withWritten w).write data =
      (.ok (), s'.withWritten (w ++ data))) ∨
    ∃ (stop : Stop) (size : Nat) (s' : Session), ∀ w data, (s.withWritten w).write data =
      (.error stop, s'.withWritten (w ++ data.take size)) := by
  rcases s with ⟨inbox, pieces, ending, blockage, written, _ | _, events⟩
  · rcases blockage with _ | b
    · refine .inl ⟨⟨inbox, pieces, ending, none, written, false, events⟩, fun w data => ?_⟩
      simp [write, withWritten]
    · by_cases free : 0 < b.writes
      · refine .inl ⟨⟨inbox, pieces, ending, some { b with writes := b.writes - 1 }, written, false,
          events⟩, fun w data => ?_⟩
        simp [write, withWritten, free]
      · refine .inr ⟨b.stop, b.through, ⟨inbox, pieces, ending, some { b with through := 0 }, written,
          false, events⟩, fun w data => ?_⟩
        simp [write, withWritten, free]
  · refine .inr ⟨.failed (.io .brokenPipe), 0,
      ⟨inbox, pieces, ending, blockage, written, true, events⟩, fun w data => ?_⟩
    simp [write, withWritten]

/-- What an upload writes, and how it ends, does not depend on what was written before. -/
theorem Session.upload_withWritten (size : Nat) (e : Encoder) (sent : Nat) (p : Payload)
    (s : Session) :
    ∃ (r : Except Stop Nat) (p' : Payload) (s' : Session) (out : Bytes), ∀ w,
      upload size e sent p (s.withWritten w) = (r, p', s'.withWritten (w ++ out)) := by
  induction hn : p.remaining using Nat.strongRecOn generalizing e sent p s with
  | _ n ih =>
    by_cases more : 0 < min p.remaining size
    · rcases s.write_withWritten with ⟨s', taken⟩ | ⟨stop, through, s', blocked⟩
      · have fewer : (p.take size).2.remaining < n := by
          rw [Payload.remaining_take]
          omega
        obtain ⟨r, p', s'', out, went⟩ := ih _ fewer (e.encode (p.take size).1).2
          (sent + min p.remaining size) (p.take size).2 s' rfl
        refine ⟨r, p', s'', (e.encode (p.take size).1).1 ++ out, fun w => ?_⟩
        rw [upload, dif_pos more, taken]
        dsimp only
        rw [went, List.append_assoc]
      · refine ⟨.error stop, (p.take size).2, s', (e.encode (p.take size).1).1.take through,
          fun w => ?_⟩
        rw [upload, dif_pos more, blocked]
    · rcases s.write_withWritten with ⟨s', taken⟩ | ⟨stop, through, s', blocked⟩
      · refine ⟨.ok sent, p, s', e.finish.1, fun w => ?_⟩
        rw [upload, dif_neg more, taken]
      · refine ⟨.error stop, p, s', e.finish.1.take through, fun w => ?_⟩
        rw [upload, dif_neg more, blocked]

/-- The same for a payload and the reply to it. -/
theorem Session.sendPayload_withWritten (p : Payload) (s : Session) :
    ∃ (r : Except Stop Reply) (p' : Payload) (s' : Session) (out : Bytes), ∀ w,
      (s.withWritten w).sendPayload p = (r, p', s'.withWritten (w ++ out)) := by
  obtain ⟨r, p', s', out, went⟩ := s.upload_withWritten chunkSize Encoder.start 0 p
  cases r with
  | error stop =>
    refine ⟨.error stop, p', s', out, fun w => ?_⟩
    rw [sendPayload, sendInChunks, went]
  | ok sent =>
    let told := s'.report (Event.outgoing ("<" ++ toString sent ++ " bytes of message data>"))
    refine ⟨told.readReply.1, p', told.readReply.2, out, fun w => ?_⟩
    rw [sendPayload, sendInChunks, went]
    have same : (s'.withWritten (w ++ out)).report
        (Event.outgoing ("<" ++ toString sent ++ " bytes of message data>")) =
          told.withWritten (w ++ out) := rfl
    dsimp only
    rw [same, readReply_withWritten]

namespace Talk

theorem discreet_report (e : Event) : Discreet Session.withWritten [] fun _ => report e :=
  .silent fun s => ⟨.ok (), s.report e, fun _ => rfl⟩

theorem discreet_readReply : Discreet Session.withWritten [] fun _ => readReply :=
  .silent fun s => ⟨s.readReply.1, s.readReply.2, fun w => Session.readReply_withWritten w s⟩

theorem discreet_write (f : Fragment) : Discreet Session.withWritten f.line?.toList
    fun c => of fun s => s.write (f.octets c) := by
  intro s
  rcases s.write_withWritten with ⟨s', taken⟩ | ⟨stop, size, s', blocked⟩
  · refine ⟨.ok (), s', [f], ?_, fun _ _ => Fragment.lines_singleton f, fun c w => ?_⟩
    · exact ⟨[], by rw [List.append_nil, Fragment.lines_singleton]⟩
    · rw [run_of, taken, Fragment.render_singleton]
  · refine ⟨.error stop, s', [f.front size], ?_, nofun, fun c w => ?_⟩
    · exact ⟨[], by rw [List.append_nil, Fragment.lines_singleton, Fragment.line?_front]⟩
    · rw [run_of, blocked, Fragment.render_singleton, Fragment.octets_front]

theorem discreet_exchange (text : String) :
    Discreet Session.withWritten [] fun _ => exchange text :=
  (discreet_write (.fixed (line text))).bind fun _ => discreet_readReply

theorem discreet_command (text : String) : Discreet Session.withWritten [] fun _ => command text :=
  (discreet_report _).bind fun _ => discreet_exchange text

theorem discreet_secret (label : String) (l : CredentialLine) :
    Discreet Session.withWritten [l] fun c => secret label (l.text c) := by
  have writes (c : Credentials) : exchange (l.text c) = (do
      of fun s => s.write (Fragment.octets c (.secret l))
      readReply) := by
    rw [exchange, line_eq]
    rfl
  simp only [secret, writes]
  exact (discreet_report _).bind fun _ =>
    (discreet_write (.secret l)).bind fun _ => discreet_readReply

theorem discreet_quit : Discreet Session.withWritten [] fun _ => quit := by
  have shutting : Discreet Session.withWritten [] fun _ =>
      of fun s => (.ok (), { s with shut := true }) :=
    .silent fun s => ⟨.ok (), { s with shut := true }, fun _ => rfl⟩
  exact (discreet_command "QUIT").bind fun r => shutting.bind fun _ => .pure r

theorem discreet_expectChallenge (r : Reply) :
    Discreet Session.withWritten [] fun _ => expectChallenge r := by
  unfold expectChallenge
  split
  · exact .pure ()
  · exact .throw _

/-- The lines that credentials are sent by, given the reply to EHLO. -/
def credentialLines (ehlo : Reply) : List CredentialLine :=
  if ehlo.offersAuth "PLAIN" then [.plain]
  else if ehlo.offersAuth "LOGIN" then [.username, .password]
  else []

theorem discreet_authenticate (ehlo : Reply) : Discreet Session.withWritten (credentialLines ehlo)
    fun c => authenticate ehlo c.username c.password := by
  simp only [authenticate, credentialLines, authPlain, authLogin, plainToken_eq, Base64.encode_eq,
    Utf8.encode_eq]
  split
  · exact discreet_secret "AUTH PLAIN" .plain
  · split
    · exact (discreet_command "AUTH LOGIN").bind fun r =>
        (discreet_expectChallenge r).bind fun _ =>
          (discreet_secret "AUTH LOGIN username" .username).bind fun r =>
            (discreet_expectChallenge r).bind fun _ =>
              discreet_secret "AUTH LOGIN password" .password
    · exact .throw _

end Talk

/-! ## Parts of a delivery -/

namespace Delivery

def withWritten (w : Bytes) (d : Delivery) : Delivery :=
  { d with session := d.session.withWritten w }

theorem discreet_during {α : Type} {ls : List CredentialLine} {q : Credentials → Talk α}
    (h : Discreet Session.withWritten ls q) (p : Phase) :
    Discreet withWritten ls fun c => during p (q c) := by
  intro d
  obtain ⟨r, s, fs, some, all, hrun⟩ := h d.session
  refine ⟨r.mapError (stopped d.limits p),
    { d with session := s, spans := d.spans ++ [span d.limits p r] }, fs, some, ?_, fun c w => ?_⟩
  · intro a ha
    cases r with
    | error e => cases ha
    | ok b => exact all b rfl
  · rw [run_during]
    show (Except.mapError _ ((q c).run (d.session.withWritten w)).1, _) = _
    rw [show (withWritten w d).session = d.session.withWritten w from rfl, hrun c w]
    rfl

theorem discreet_report (e : Event) : Discreet withWritten [] fun _ => report e :=
  .silent fun d => ⟨.ok (), { d with session := d.session.report e }, fun _ => rfl⟩

theorem discreet_expect (p : Phase) (r : Reply) : Discreet withWritten [] fun _ => expect p r := by
  unfold expect
  split
  · exact .pure r
  · exact .throw _

theorem discreet_asking {ls : List CredentialLine} {q : Credentials → Talk Reply}
    (h : Discreet Session.withWritten ls q) (p : Phase) :
    Discreet withWritten ls fun c => asking p (q c) := by
  have := (discreet_during h p).bind fun r => discreet_expect p r
  rwa [List.append_nil] at this

theorem discreet_greet (helo : String) : Discreet withWritten [] fun _ => greet helo :=
  (discreet_asking Talk.discreet_readReply .greeting).bind fun _ =>
    discreet_asking (Talk.discreet_command _) .ehlo

/-- A user name is not empty, so whether AUTH is left out is up to the server. -/
theorem discreet_authenticate (ehlo : Reply) : Discreet withWritten (Talk.credentialLines ehlo)
    fun c => authenticate ehlo c.username c.password := by
  have named (c : Credentials) : authenticate ehlo c.username c.password =
      if !offersCredentials ehlo then
        report (Event.plain .debug
          "Server offers neither AUTH PLAIN nor LOGIN, continuing without AUTH" [])
      else do
        let _ ← asking .auth (Talk.authenticate ehlo c.username c.password)
        return () := by
    rw [authenticate, c.named]
    rfl
  simp only [named]
  by_cases offered : offersCredentials ehlo = true
  · simp only [offered, Bool.not_true, Bool.false_eq_true, if_false]
    have nothing : Discreet withWritten [] fun _ => (Pure.pure () : Part Unit) := .pure ()
    have asked := (discreet_asking (Talk.discreet_authenticate ehlo) .auth).bind fun _ => nothing
    rwa [List.append_nil] at asked
  · have none : Talk.credentialLines ehlo = [] := by
      rw [offersCredentials, Bool.or_eq_true, not_or] at offered
      rw [Talk.credentialLines, if_neg offered.1, if_neg offered.2]
    simp only [offered, Bool.not_false, if_true]
    rw [none]
    exact discreet_report _

theorem discreet_recipients (paths : List String) :
    Discreet withWritten [] fun _ => recipients paths := by
  induction paths with
  | nil => exact .pure ()
  | cons path rest ih =>
    exact (discreet_asking (Talk.discreet_command _) .rcptTo).bind fun _ => ih

theorem discreet_envelope (sender : String) (receivers : Recipients) :
    Discreet withWritten [] fun _ => envelope sender receivers :=
  (discreet_asking (Talk.discreet_command _) .mailFrom).bind fun _ => discreet_recipients _

theorem discreet_sending : Discreet withWritten [] fun _ => sending := by
  intro d
  obtain ⟨r, p, s, out, went⟩ := d.session.sendPayload_withWritten d.payload
  refine ⟨r.mapError (stopped d.limits .message),
    { d with session := s, payload := p, spans := d.spans ++ [span d.limits .message r] },
    [.fixed out], List.prefix_rfl, fun _ _ => rfl, fun c w => ?_⟩
  have begun : (withWritten w d).session.sendPayload (withWritten w d).payload =
      (r, p, s.withWritten (w ++ out)) := went w
  rw [sending_eq, begun, Fragment.render_singleton]
  rfl

theorem discreet_message : Discreet withWritten [] fun _ => message :=
  (discreet_asking (Talk.discreet_command _) .data).bind fun _ =>
    discreet_sending.bind fun r => (discreet_expect .message r).bind fun _ => .pure ()

theorem discreet_leave : Discreet withWritten [] fun _ => leave :=
  Discreet.tryCatch
    ((discreet_during Talk.discreet_quit .quit).bind fun _ => .pure ()) fun _ => discreet_report _

/-- What comes behind the reply to EHLO. -/
theorem discreet_behind (ehlo : Reply) (t : Transfer.Ready) :
    Discreet withWritten (Talk.credentialLines ehlo) fun c => (do
      authenticate ehlo c.username c.password
      envelope t.mailFrom t.recipients
      message
      leave) := by
  have := (discreet_authenticate ehlo).bind fun _ =>
    (discreet_envelope t.mailFrom t.recipients).bind fun _ =>
      discreet_message.bind fun _ => discreet_leave
  rwa [List.append_nil, List.append_nil, List.append_nil] at this

end Delivery

/-! ## Deliveries -/

namespace Transfer

def withCredentials (t : Transfer) (c : Credentials) : Transfer :=
  { t with options := { t.options with username := c.username, password := c.password } }

namespace Ready

def withCredentials (t : Ready) (c : Credentials) : Ready :=
  { t with options := { t.options with username := c.username, password := c.password } }

/-- **A dialogue is fixed but for the places of its fragments.** -/
theorem dialogue_discreet (t : Ready) (s : Delivery) :
    ∃ (r : Except SessionError Unit) (d : Delivery) (fs : List Fragment),
      (Fragment.lines fs <+: [.plain] ∨ Fragment.lines fs <+: [.username, .password]) ∧
        ∀ c w, (Delivery.dialogue (t.withCredentials c)).run (s.withWritten w) =
          (r, d.withWritten (w ++ Fragment.render c fs)) := by
  -- the reply to EHLO decides which lines there are, and it comes before any of them
  obtain ⟨r, d, fs, some, -, greeted⟩ := Delivery.discreet_greet t.options.helo s
  have first : Fragment.lines fs = [] := List.prefix_nil.mp some
  have steps (c : Credentials) : Delivery.dialogue (t.withCredentials c) = (do
      let ehlo ← Delivery.greet t.options.helo
      Delivery.authenticate ehlo c.username c.password
      Delivery.envelope t.mailFrom t.recipients
      Delivery.message
      Delivery.leave) := rfl
  cases r with
  | error e =>
    refine ⟨.error e, d, fs, .inl (first ▸ List.nil_prefix), fun c w => ?_⟩
    rw [steps, run_bind, greeted c w]
  | ok ehlo =>
    obtain ⟨r, d', gs, lines, -, went⟩ := Delivery.discreet_behind ehlo t d
    refine ⟨r, d', fs ++ gs, ?_, fun c w => ?_⟩
    · rw [Fragment.lines_append, first, List.nil_append]
      unfold Talk.credentialLines at lines
      split at lines
      · exact .inl lines
      · split at lines
        · exact .inr lines
        · exact .inl (List.prefix_nil.mp lines ▸ List.nil_prefix)
    · rw [steps, run_bind, greeted c w, Fragment.render_append, ← List.append_assoc]
      exact went c (w ++ Fragment.render c fs)

/-- **A delivery is fixed but for the places of its fragments.** -/
theorem deliver_discreet (n : Environment) (t : Ready) :
    ∃ (d : Delivered) (fs : List Fragment),
      (Fragment.lines fs <+: [.plain] ∨ Fragment.lines fs <+: [.username, .password]) ∧
        ∀ c, (t.withCredentials c).deliver n =
          { d with written := d.written.map fun _ => Fragment.render c fs } := by
  have connects (c : Credentials) : connect n (t.withCredentials c).options = connect n t.options :=
    rfl
  rcases hc : connect n t.options with ⟨e | f, spans, events⟩
  · refine ⟨⟨.error (.session e), t.payload, none, spans, events.map t.reported⟩, [],
      .inl List.nil_prefix, fun c => ?_⟩
    rw [deliver, execute, connects, hc]
    rfl
  · obtain ⟨r, d, fs, lines, run⟩ :=
      dialogue_discreet t (t.opened f (n.blockage t.options.address) spans events)
    refine ⟨⟨r.mapError .session, d.payload, some [], d.spans, d.session.events.map t.reported⟩, fs,
      lines, fun c => ?_⟩
    have went : (Delivery.dialogue (t.withCredentials c)).run
        ((t.withCredentials c).opened f (n.blockage t.options.address) spans events) =
          (r, d.withWritten (Fragment.render c fs)) := run c []
    rw [deliver_eq ((connects c).trans hc)]
    dsimp only
    rw [show (t.withCredentials c).options.address = t.options.address from rfl, went]
    rfl

/-- **What a delivery reports** is reported within a span that names the server. -/
theorem deliver_within (n : Environment) (t : Ready) : ∀ e ∈ (t.deliver n).events,
    e.around.head? = some ⟨"execute", .debug,
      [("server", t.options.url), ("port", toString t.options.port.toNat)]⟩ := by
  intro e he
  obtain ⟨e', -, rfl⟩ := List.mem_map.mp he
  rfl

end Ready

theorem ready?_withCredentials (t : Transfer) (c : Credentials) :
    (t.withCredentials c).ready? = t.ready?.map (·.withCredentials c) := by
  rcases t with ⟨o, _ | f, _ | r, _ | b, _ | _⟩ <;> rfl

end Transfer

/-- Two deliveries under different credentials end alike, enter the same phases, report and read the
same, and what they write differs on lines of credentials only, of which there are those of one
mechanism at most. -/
structure Delivered.Alike (c c' : Credentials) (d d' : Delivered) : Prop where
  outcome : d.outcome = d'.outcome
  events : d.events = d'.events
  spans : d.spans = d'.spans
  payload : d.payload = d'.payload
  written : d.written = none ∧ d'.written = none ∨ ∃ fs : List Fragment,
    (Fragment.lines fs <+: [.plain] ∨ Fragment.lines fs <+: [.username, .password]) ∧
      d.written = some (Fragment.render c fs) ∧ d'.written = some (Fragment.render c' fs)

theorem Transfer.Ready.deliver_alike (n : Environment) (t : Ready) (c c' : Credentials) :
    Delivered.Alike c c' ((t.withCredentials c).deliver n) ((t.withCredentials c').deliver n) := by
  obtain ⟨d, fs, lines, delivered⟩ := t.deliver_discreet n
  rw [delivered c, delivered c']
  refine ⟨rfl, rfl, rfl, rfl, ?_⟩
  cases d.written with
  | none => exact .inl ⟨rfl, rfl⟩
  | some _ => exact .inr ⟨fs, lines, rfl, rfl⟩

/-- The course of a network does not depend on the credentials of a transfer, complete or not. -/
theorem Course.ofNetwork_withCredentials (n : Environment) (expire : Bool) (drive : Nat)
    (id : TransferId) (t : Transfer) (c c' : Credentials) :
    (ofNetwork n expire).ends drive [(id, t.withCredentials c)] =
      (ofNetwork n expire).ends drive [(id, t.withCredentials c')] := by
  simp only [Course.ofNetwork, List.filterMap_cons, List.filterMap_nil,
    Transfer.ready?_withCredentials]
  cases t.ready? with
  | error p => rfl
  | ok r =>
    obtain ⟨outcome, events, spans, payload, -⟩ := r.deliver_alike n c c'
    simp only [Except.map, outcome, events, spans, payload]
    rfl

/-! ## Diagnostics -/

/-- What diagnostics show of settings, and of the account and the options that are made of them. -/
def Preferences.shown (limits : Timeouts) (p : Preferences) :
    String × Except SettingsError (String × String) :=
  (p.describe, p.validate.map fun a => (a.describe, (TransferOptions.ofAccount a limits).describe))

theorem Preferences.shown_withPassword (limits : Timeouts) (p : Preferences) (s s' : String) :
    shown limits { p with password := some s } = shown limits { p with password := some s' } := by
  obtain ⟨caStore, server, port, username, password, tls⟩ := p
  refine Prod.ext rfl ?_
  simp only [shown, validate]
  cases caStore with
  | none => rfl
  | some _ =>
    cases server with
    | none => rfl
    | some _ =>
      simp only [need]
      cases choosePort port tls with
      | error e => rfl
      | ok _ =>
        cases username with
        | none => rfl
        | some _ => rfl

/-- **Credentials stay hidden.** Over any network, whatever its peers send and wherever they stop to
take what is written, two deliveries that differ in credentials alone are alike: in their outcome, in
all that they report, spans and fields included, and in what they write, but for the lines of
credentials. The span around what they report holds the server and its port. The multiplexer sees
the same end of either. And whatever else is set, diagnostics of settings, of the account and of the
options made of them do not depend on what the password is. -/
theorem credentials_hidden (c c' : Credentials) :
    (∀ (n : Environment) (t : Transfer.Ready),
      Delivered.Alike c c' ((t.withCredentials c).deliver n) ((t.withCredentials c').deliver n) ∧
      ∀ e ∈ ((t.withCredentials c).deliver n).events, e.around.head? = some ⟨"execute", .debug,
        [("server", t.options.url), ("port", toString t.options.port.toNat)]⟩) ∧
    (∀ (n : Environment) (expire : Bool) (drive : Nat) (id : TransferId) (t : Transfer),
      (Course.ofNetwork n expire).ends drive [(id, t.withCredentials c)] =
        (Course.ofNetwork n expire).ends drive [(id, t.withCredentials c')]) ∧
    ∀ (limits : Timeouts) (p : Preferences) (s s' : String),
      Preferences.shown limits { p with password := some s } =
        Preferences.shown limits { p with password := some s' } :=
  ⟨fun n t => ⟨t.deliver_alike n c c', (t.withCredentials c).deliver_within n⟩,
    fun n expire drive id t => Course.ofNetwork_withCredentials n expire drive id t c c',
    fun limits p s s' => Preferences.shown_withPassword limits p s s'⟩

end Outbox
