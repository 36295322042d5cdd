import Outbox.Proofs.Dialogue
import Outbox.Proofs.Offers

/-!
# Deliveries step by step

A delivery over a connection whose peer takes what is written is a dialogue of fixed exchanges,
`Transfer.Ready.exchanges`: the greeting, EHLO, AUTH if there is anything to send by it, MAIL FROM,
RCPT TO for each recipient, DATA, the message. QUIT follows once all of them are through. The
exchanges are spelled out here, their lines, codes and limits, and say nothing of how a delivery
comes to send them.

* `Talk.Says`, `Talk.Plays`: a step of a session is an exchange, or some of them.
* `Delivery.Plays`: the same for a part of a delivery; `Delivery.Plays.bind` puts parts together.
* `Delivery.play_uptoMessage`: the whole dialogue but QUIT goes through its exchanges.
* `Transfer.Ready.Ends`: how a delivery can end, told from the whole replies of its peer.
* `Transfer.Ready.deliver_gated`: **each thing is sent only once all before it is answered and
  accepted**; the outcome is the fault of the first exchange that fails, and a delivery succeeds
  exactly when the message is accepted.
-/

set_option autoImplicit false

namespace Outbox

/-- A step of a fallible computation with a state, and what follows it. -/
theorem run_bind {ε σ α β : Type} (x : ExceptT ε (StateM σ) α) (f : α → ExceptT ε (StateM σ) β)
    (s : σ) :
    (x >>= f).run s = match x.run s with
      | (.ok a, s') => (f a).run s'
      | (.error e, s') => (.error e, s') := by
  show (ExceptT.bindCont f (x.run s).1) (x.run s).2 = _
  rcases x.run s with ⟨_ | _, _⟩ <;> rfl

/-- A step that is given a second chance. -/
theorem run_tryCatch {ε σ α : Type} (x : ExceptT ε (StateM σ) α) (f : ε → ExceptT ε (StateM σ) α)
    (s : σ) :
    (tryCatch x f).run s = match x.run s with
      | (.ok a, s') => (.ok a, s')
      | (.error e, s') => (f e).run s' := by
  show (match (x.run s).1 with
    | .ok a => (pure (Except.ok a) : StateM σ (Except ε α))
    | .error e => f e) (x.run s).2 = _
  rcases x.run s with ⟨_ | _, _⟩ <;> rfl

/-- What is on one side of a relation between lists has a partner on the other side. -/
theorem exists_getElem?_of_forall₂ {α β : Type} {R : α → β → Prop} {xs : List α} {ys : List β}
    (h : List.Forall₂ R xs ys) {i : Nat} {x : α} (hx : xs[i]? = some x) :
    ∃ y, ys[i]? = some y ∧ R x y := by
  obtain ⟨hlen, hget⟩ := List.forall₂_iff_get.mp h
  obtain ⟨hi, rfl⟩ := List.getElem?_eq_some_iff.mp hx
  have hi' : i < ys.length := hlen ▸ hi
  exact ⟨ys[i], List.getElem?_eq_getElem hi', hget i hi hi'⟩

/-! ## The exchanges of a delivery -/

namespace Exchange

/-- The codes by which a server says that something is done. -/
def done (code : Nat) : Bool := 200 ≤ code && code < 300

/-- The greeting is waited for; nothing is sent. -/
def greeting : Exchange where
  phase := "greeting"
  limit t := .ofSecs t.ehloSecs.toNat
  name := "greeting"
  sent := .nothing
  told := []
  accepts := (· == 220)

/-- A line that the log shows. -/
def command (name : String) (limit : Timeouts → Duration) (text : String) (accepts : Nat → Bool) :
    Exchange :=
  ⟨name, limit, name, .line text, [⟨.trace, .outgoing, text, [], []⟩], accepts⟩

/-- A line of AUTH, `told` being what the log shows of it. -/
def credential (name told text : String) (accepts : Nat → Bool) : Exchange :=
  ⟨"AUTH", fun t => .ofSecs t.authSecs.toNat, name, .line text,
    [⟨.trace, .outgoing, told, [], []⟩], accepts⟩

def ehlo (helo : String) : Exchange :=
  command "EHLO" (fun t => .ofSecs t.ehloSecs.toNat) ("EHLO " ++ helo) done

/-- Both credentials on one line. -/
def plain (username password : String) : List Exchange :=
  [credential "AUTH" "AUTH PLAIN <redacted>" ("AUTH PLAIN " ++ Wire.plain username password)
    (· == 235)]

/-- A request and the credentials behind it, each asked for by a challenge. -/
def login (username password : String) : List Exchange :=
  [credential "AUTH LOGIN" "AUTH LOGIN" "AUTH LOGIN" (· == 334),
    credential "AUTH LOGIN" "AUTH LOGIN username <redacted>" (Wire.base64 (Wire.text username))
      (· == 334),
    credential "AUTH" "AUTH LOGIN password <redacted>" (Wire.base64 (Wire.text password)) (· == 235)]

/-- How credentials are sent, given the reply to EHLO: not at all without a user name or a
mechanism, by PLAIN if it is offered, else by LOGIN, whose challenges are refused under its name. -/
def auth (username password : String) : Option Reply → List Exchange
  | none => []
  | some reply =>
    if username = "" then []
    else if reply.Offers "PLAIN" then plain username password
    else if reply.Offers "LOGIN" then login username password
    else []

/-- Without a message, nothing of the payload is taken. -/
theorem left_of_free {p : Payload} {xs : List Exchange}
    (h : ∀ x ∈ xs, x.sent.isMessage = false) : left p xs = p := by
  rw [left, List.any_eq_false.mpr fun x hx => by simp [h x hx]]
  rfl

theorem isMessage_auth {username password : String} {ehlo : Option Reply} {x : Exchange}
    (hx : x ∈ auth username password ehlo) : x.sent.isMessage = false := by
  unfold auth at hx
  repeat' split at hx
  all_goals simp only [plain, login, List.mem_cons, List.not_mem_nil, or_false] at hx
  · rw [hx]
    rfl
  · rcases hx with rfl | rfl | rfl <;> rfl

theorem auth_of_unoffered {username password : String} {reply : Reply}
    (h : Delivery.offersCredentials reply = false) : auth username password (some reply) = [] := by
  obtain ⟨plain, login⟩ := Delivery.offersCredentials_eq_false.mp h
  simp only [auth, if_neg plain, if_neg login, ite_self]

/-- What the log says when there is a user name but no mechanism. -/
def unoffered (username : String) : Option Reply → List Event
  | none => []
  | some reply =>
    if username = "" ∨ reply.Offers "PLAIN" ∨ reply.Offers "LOGIN" then []
    else [⟨.debug, .plain,
      "Server offers neither AUTH PLAIN nor LOGIN, continuing without AUTH", [], []⟩]

/-- `before` is what the log says in front of it. -/
def mailFrom (before : List Event) (path : String) : Exchange where
  phase := "MAIL FROM"
  limit t := .ofSecs t.mailFromSecs.toNat
  name := "MAIL FROM"
  sent := .line ("MAIL FROM:" ++ path)
  told := before ++ [⟨.trace, .outgoing, "MAIL FROM:" ++ path, [], []⟩]
  accepts := done

def rcptTo (path : String) : Exchange :=
  command "RCPT TO" (fun t => .ofSecs t.rcptToSecs.toNat) ("RCPT TO:" ++ path) done

/-- Sender and recipients. -/
def envelope (before : List Event) (sender : String) (receivers : Recipients) : List Exchange :=
  mailFrom before sender :: receivers.paths.map rcptTo

theorem isMessage_envelope (before : List Event) (sender : String) (receivers : Recipients) :
    ∀ x ∈ envelope before sender receivers, x.sent.isMessage = false := by
  intro x hx
  rcases List.mem_cons.mp hx with rfl | hx
  · rfl
  · obtain ⟨path, -, rfl⟩ := List.mem_map.mp hx
    rfl

def data : Exchange :=
  command "DATA" (fun t => .ofSecs t.dataSecs.toNat) "DATA" (· == 354)

/-- All that a payload still serves. -/
def message (p : Payload) : Exchange where
  phase := "message data"
  limit t := .ofSecs t.dataSecs.toNat
  name := "message data"
  sent := .message p.unserved
  told := [⟨.trace, .outgoing,
    "<" ++ toString p.unserved.length ++ " bytes of message data>", [], []⟩]
  accepts := done

/-- Any answer will do. -/
def quit : Exchange :=
  command "QUIT" (fun t => .ofSecs t.quitSecs.toNat) "QUIT" fun _ => true

end Exchange

/-- What a delivery sends before DATA, given the reply to EHLO if there is one. -/
def Transfer.Ready.opening (t : Transfer.Ready) (ehlo : Option Reply) : List Exchange :=
  [Exchange.greeting, Exchange.ehlo t.options.helo] ++
    (Exchange.auth t.options.username t.options.password ehlo ++
      Exchange.envelope (Exchange.unoffered t.options.username ehlo) t.mailFrom t.recipients)

/-- What a delivery sends before QUIT. -/
def Transfer.Ready.exchanges (t : Transfer.Ready) (ehlo : Option Reply) : List Exchange :=
  t.opening ehlo ++ [Exchange.data, Exchange.message t.payload]

theorem Transfer.Ready.isMessage_opening (t : Transfer.Ready) (ehlo : Option Reply) :
    ∀ x ∈ t.opening ehlo, x.sent.isMessage = false := by
  intro x hx
  simp only [opening, List.mem_append, List.mem_cons, List.not_mem_nil, or_false] at hx
  rcases hx with (rfl | rfl) | hx | hx
  · rfl
  · rfl
  · exact Exchange.isMessage_auth hx
  · exact Exchange.isMessage_envelope _ _ _ x hx

/-! ## Views -/

/-- What shows of a session that serves a payload. -/
def Session.view (p : Payload) (s : Session) : Dialogue :=
  ⟨s.inbox.stream s.pieces, s.ending, s.written, s.isOpen, s.events, p⟩

/-- What shows of a delivery. -/
def Delivery.view (d : Delivery) : Dialogue := d.session.view d.payload

theorem Session.hear_view (p : Payload) (s : Session) :
    (s.view p).hear = (s.readReply.1, s.readReply.2.view p) := by
  have h := Inbox.readReply_eq s.ending s.inbox s.pieces
  rw [Prod.mk.injEq] at h
  unfold Dialogue.hear readReply
  simp only [view, ← h.1, ← h.2]
  split <;> rename_i hr <;> simp [hr, heard, report, isOpen, Event.incoming, Reply.text]

/-! ## Steps of a session -/

namespace Talk

/-- A step of the dialogue is an exchange. -/
def Says (talk : Talk Reply) (x : Exchange) : Prop :=
  ∀ (p : Payload) (s : Session), s.isOpen = true →
    (s.view p).exchange x = ((talk.run s).1, (talk.run s).2.view p)

theorem says_readReply : Says readReply Exchange.greeting := by
  intro p s hs
  have h := Session.hear_view p s
  show ((s.view p).say Exchange.greeting).hear = (s.readReply.1, s.readReply.2.view p)
  rw [← h]
  simp [Dialogue.say, Exchange.greeting, Sent.octets, Sent.lines, Exchange.left, Sent.isMessage]

theorem run_of {α : Type} (f : Session → Except Stop α × Session) (s : Session) :
    (of f).run s = f s := rfl

theorem run_exchange (text : String) {s : Session} (hs : s.isOpen = true) :
    (exchange text).run s = { s with written := s.written ++ line text }.readReply := by
  rw [exchange, run_bind, run_of, Session.write_open hs]
  rfl

/-- A line that is told and sent is an exchange. -/
theorem says_line {e : Event} {text : String} {x : Exchange} (hx : x.sent = .line text)
    (he : x.told = [e]) : Says (do report e; exchange text) x := by
  intro p s hs
  have h := Session.hear_view p
    { s with events := s.events ++ [e], written := s.written ++ line text }
  have hrun : (do report e; exchange text : Talk Reply).run s =
      { s with events := s.events ++ [e], written := s.written ++ line text }.readReply := by
    rw [run_bind, report, run_of]
    exact run_exchange text hs
  rw [hrun, ← h]
  simp [Dialogue.exchange, Dialogue.say, Session.view, Session.isOpen, hx, he, Sent.octets_line,
    Exchange.left, Sent.isMessage]

/-- A step that gives a reply takes the first one there is, whatever becomes of what is written. -/
def Hears (talk : Talk Reply) : Prop :=
  ∀ (p : Payload) (s : Session) (r : Reply), (talk.run s).1 = .ok r →
    (replies (s.view p).stream).1 = r :: (replies ((talk.run s).2.view p).stream).1

theorem hears_readReply : Hears readReply := by
  intro p s r h
  have view := Session.hear_view p s
  have first := Dialogue.replies_hear (s.view p) (r := r) ((congrArg Prod.fst view).trans h)
  rw [first, show (s.view p).hear.2 = _ from congrArg Prod.snd view]
  rfl

theorem hears_command (text : String) : Hears (command text) := by
  intro p s r h
  have run : (command text).run s = match (s.report (Event.outgoing text)).write (line text) with
      | (.ok (), s) => s.readReply
      | (.error stop, s) => (.error stop, s) := by
    rw [command, run_bind, report, run_of]
    dsimp only
    rw [exchange, run_bind, run_of]
    rcases (s.report (Event.outgoing text)).write (line text) with ⟨_ | _, _⟩ <;> rfl
  rw [run] at h ⊢
  rcases hw : (s.report (Event.outgoing text)).write (line text) with ⟨stop | u, s'⟩
  · rw [hw] at h
    cases h
  · rw [hw] at h
    have same : (s'.view p).stream = (s.view p).stream := by
      rw [Session.write] at hw
      repeat' split at hw
      all_goals cases hw
      all_goals rfl
    rw [← same]
    exact hears_readReply p s' r h

/-- QUIT goes out whatever the answer is. -/
theorem run_quit {s : Session} (hs : s.isOpen = true) :
    ∃ told, (quit.run s).2.written = s.written ++ line "QUIT" ∧
      (quit.run s).2.events = s.events ++ Event.outgoing "QUIT" :: told := by
  have hstep : Says (command "QUIT") Exchange.quit := says_line rfl rfl
  have hview := congrArg Prod.snd (hstep (Payload.ofBytes []) s hs)
  have hwritten := congrArg Dialogue.written hview
  have hevents := congrArg Dialogue.events hview
  refine ⟨heard ((s.view (Payload.ofBytes [])).exchange Exchange.quit).1, ?_⟩
  rw [quit, run_bind]
  rcases hr : (command "QUIT").run s with ⟨_ | r, s'⟩ <;> rw [hr] at hwritten hevents
  · exact ⟨hwritten.symm, hevents.symm.trans (List.append_assoc _ _ _)⟩
  · exact ⟨hwritten.symm, hevents.symm.trans (List.append_assoc _ _ _)⟩

end Talk

/-- What the result of a phase means for the delivery. -/
def Phase.judge (limits : Timeouts) (p : Phase) : Except Stop Reply → Except SessionError Reply
  | .error stop => .error (Delivery.stopped limits p stop)
  | .ok r => if p.accepts r.code then .ok r else .error (.rejected p.name r.code r.text)

/-- An exchange that belongs to a phase: it runs out of time as that does. -/
def Exchange.In (x : Exchange) (p : Phase) : Prop :=
  x.phase = p.name ∧ ∀ limits, x.limit limits = p.limit limits

theorem Exchange.In.stopped {x : Exchange} {p : Phase} (h : x.In p) (limits : Timeouts)
    (stop : Stop) : x.stopped limits stop = Delivery.stopped limits p stop := by
  cases stop with
  | failed e => rfl
  | stalled => rw [Exchange.stopped, Delivery.stopped, h.1, h.2]

/-- An exchange that is judged as its phase is. -/
def Exchange.Ends (x : Exchange) (p : Phase) : Prop :=
  x.In p ∧ x.name = p.name ∧ x.accepts = p.accepts

theorem Exchange.Ends.verdict {x : Exchange} {p : Phase} (h : x.Ends p) (limits : Timeouts)
    (result : Except Stop Reply) : x.verdict limits result = p.judge limits result := by
  obtain ⟨h1, h2, h3⟩ := h
  cases result <;> simp [Exchange.verdict, Phase.judge, Exchange.refused, Reply.text, h1.stopped, h2, h3]

namespace Talk

/-- A step of the dialogue, judged as its phase is, goes through some exchanges. -/
def Plays (p : Phase) (talk : Talk Reply) (xs : List Exchange) : Prop :=
  ∀ (limits : Timeouts) (pay : Payload) (s : Session), s.isOpen = true →
    (s.view pay).play limits xs =
      ((p.judge limits (talk.run s).1).map fun _ => (), (talk.run s).2.view pay)

theorem Says.plays {p : Phase} {talk : Talk Reply} {x : Exchange} (h : Says talk x)
    (hx : x.Ends p) : Plays p talk [x] := by
  intro limits pay s hs
  rw [Dialogue.play_cons, h pay s hs, hx.verdict]
  cases p.judge limits (talk.run s).1 <;> rfl

/-- A line that has to be answered with a challenge before the next one is sent. -/
theorem plays_challenge {talk k : Talk Reply} {x : Exchange} {xs : List Exchange}
    (h : Says talk x) (hp : x.In .auth) (hn : x.name = "AUTH LOGIN")
    (ha : x.accepts = (· == 334)) (hk : Plays .auth k xs) :
    Plays .auth (do let r ← talk; expectChallenge r; k) (x :: xs) := by
  intro limits pay s hs
  rw [Dialogue.play_cons, h pay s hs, run_bind]
  have hopen : (talk.run s).2.isOpen = true := by
    have := congrArg (·.2.isOpen) (h pay s hs)
    exact this.symm.trans hs
  rcases hr : talk.run s with ⟨stop | r, s'⟩
  · simp [Exchange.verdict, Phase.judge, hp.stopped, Except.map]
  · rw [hr] at hopen
    dsimp only
    rw [run_bind]
    by_cases hc : r.code = 334
    · have hgo : (expectChallenge r).run s' = (.ok (), s') := by
        rw [expectChallenge, if_pos hc]
        rfl
      rw [hgo]
      simp only [Exchange.verdict, ha, hc, beq_self_eq_true, if_true]
      exact hk limits pay s' hopen
    · have hno : (expectChallenge r).run s' =
          (.error (.failed (.rejected "AUTH LOGIN" r.code r.text)), s') := by
        rw [expectChallenge, if_neg hc]
        rfl
      rw [hno]
      simp [Exchange.verdict, Exchange.refused, Reply.text, Phase.judge, ha, hn, hc, Delivery.stopped,
        Except.map]

theorem plays_plain (username password : String) :
    Plays .auth (authPlain username password) (Exchange.plain username password) := by
  rw [authPlain, plainToken_eq]
  exact (says_line rfl rfl).plays ⟨⟨rfl, fun _ => rfl⟩, rfl, rfl⟩

theorem plays_login (username password : String) :
    Plays .auth (authLogin username password) (Exchange.login username password) := by
  rw [authLogin, Base64.encode_eq, Base64.encode_eq, Utf8.encode_eq, Utf8.encode_eq]
  refine plays_challenge (says_line rfl rfl) ⟨rfl, fun _ => rfl⟩ rfl rfl ?_
  refine plays_challenge (says_line rfl rfl) ⟨rfl, fun _ => rfl⟩ rfl rfl ?_
  exact (says_line rfl rfl).plays ⟨⟨rfl, fun _ => rfl⟩, rfl, rfl⟩

/-- **Credentials go out step by step**, by the exchanges that the reply to EHLO asks for. -/
theorem plays_authenticate {reply : Reply} {username : String} (hu : username ≠ "")
    (ho : Delivery.offersCredentials reply = true) (password : String) :
    Plays .auth (authenticate reply username password)
      (Exchange.auth username password (some reply)) := by
  simp only [authenticate, Exchange.auth, if_neg hu, ← Reply.offersAuth_plain,
    ← Reply.offersAuth_login]
  split
  · exact plays_plain username password
  · rename_i hplain
    have hlogin : reply.offersAuth "LOGIN" = true := by
      simpa [Delivery.offersCredentials, hplain] using ho
    rw [if_pos hlogin, if_pos hlogin]
    exact plays_login username password

end Talk

/-! ## Parts of a delivery -/

namespace Delivery

variable {α β : Type}

/-- A part of a delivery that serves `pay` goes through some exchanges. -/
def Plays (pay : Payload) (q : Part α) (xs : List Exchange) : Prop :=
  ∀ d : Delivery, d.session.isOpen = true → d.payload = pay →
    d.view.play d.limits xs = ((q.run d).1.map fun _ => (), (q.run d).2.view) ∧
      (q.run d).2.limits = d.limits

theorem run_expect (p : Phase) (r : Reply) (d : Delivery) :
    (expect p r).run d = (p.judge d.limits (.ok r), d) := by
  unfold expect
  by_cases hr : p.accepts r.code = true <;> simp only [Phase.judge, hr, if_true] <;> rfl

theorem run_during (p : Phase) (talk : Talk α) (d : Delivery) :
    (during p talk).run d = ((talk.run d.session).1.mapError (stopped d.limits p),
      { d with
        session := (talk.run d.session).2
        spans := d.spans ++ [span d.limits p (talk.run d.session).1] }) := rfl

theorem run_asking (p : Phase) (talk : Talk Reply) (d : Delivery) :
    (asking p talk).run d = (p.judge d.limits (talk.run d.session).1,
      { d with
        session := (talk.run d.session).2
        spans := d.spans ++ [span d.limits p (talk.run d.session).1] }) := by
  rw [asking, run_bind, run_during]
  cases (talk.run d.session).1 with
  | error stop => rfl
  | ok r => exact run_expect p r _

theorem plays_asking {p : Phase} {talk : Talk Reply} {xs : List Exchange}
    (h : Talk.Plays p talk xs) (pay : Payload) : Plays pay (asking p talk) xs := by
  intro d hd _
  rw [run_asking]
  exact ⟨h d.limits d.payload d.session hd, rfl⟩

/-- A line and the reply to it, judged as the phase of the line is. -/
theorem plays_line {p : Phase} {e : Event} {text : String} {x : Exchange}
    (hs : x.sent = .line text) (ht : x.told = [e]) (hx : x.Ends p) (pay : Payload) :
    Plays pay (asking p (do Talk.report e; Talk.exchange text)) [x] :=
  plays_asking ((Talk.says_line hs ht).plays hx) pay

theorem plays_pure (pay : Payload) (a : α) : Plays pay (pure a) [] := fun _ _ _ => ⟨rfl, rfl⟩

/-- **Parts one after the other** go through their exchanges one after the other. -/
theorem Plays.bind {pay : Payload} {q : Part α} {k : α → Part β} {xs ys : List Exchange}
    (hq : Plays pay q xs) (hk : ∀ a, Plays (Exchange.left pay xs) (k a) ys) :
    Plays pay (q >>= k) (xs ++ ys) := by
  intro d hd hp
  obtain ⟨h1, h2⟩ := hq d hd hp
  have hopen := Dialogue.isOpen_play d.limits d.view xs
  have hpay := Dialogue.payload_play d.limits d.view xs
  rw [Dialogue.play_append, run_bind]
  rw [h1] at hopen hpay ⊢
  rcases hr : q.run d with ⟨e | a, d'⟩
  · rw [hr] at h2
    exact ⟨rfl, h2⟩
  · rw [hr] at h2 hopen hpay
    obtain ⟨h3, h4⟩ := hk a d' (hopen.trans hd) ((hpay rfl).trans (by rw [← hp]; rfl))
    exact ⟨h2 ▸ h3, h4.trans h2⟩

/-- What the log is told in front of an exchange may count as told by it. -/
theorem Plays.report {pay : Payload} {k : Part α} {x : Exchange} {xs : List Exchange}
    (hk : Plays pay k (x :: xs)) (e : Event) :
    Plays pay (do report e; k) ({ x with told := e :: x.told } :: xs) := by
  intro d hd hp
  have h := hk { d with session := d.session.report e } hd hp
  rw [run_bind]
  have hx : d.view.exchange { x with told := e :: x.told } =
      ({ d with session := d.session.report e } : Delivery).view.exchange x := by
    simp [Dialogue.exchange, Dialogue.say, view, Session.view, Session.isOpen, Session.report,
      Exchange.left]
  rw [Dialogue.play_cons, hx]
  rw [Dialogue.play_cons] at h
  exact h

/-- Credentials, or what the log says instead, in front of whatever comes next. -/
theorem plays_authenticate {pay : Payload} {k : Part α} {before : List Event} {path : String}
    {xs : List Exchange} (reply : Reply) (username password : String)
    (hk : Plays pay k (Exchange.mailFrom before path :: xs)) :
    Plays pay (do authenticate reply username password; k)
      (Exchange.auth username password (some reply) ++
        Exchange.mailFrom (Exchange.unoffered username (some reply) ++ before) path :: xs) := by
  unfold authenticate
  by_cases hu : username = ""
  · subst hu
    simp only [show "".isEmpty = true from rfl, if_true, Exchange.auth, Exchange.unoffered, true_or,
      List.nil_append]
    exact (plays_pure pay ()).bind fun _ => hk
  · have named : username.isEmpty = false := by
      rw [← Bool.not_eq_true, String.isEmpty_iff]
      exact hu
    simp only [named, Bool.false_eq_true, if_false]
    by_cases ho : offersCredentials reply = true
    · have hauth := (plays_asking (Talk.plays_authenticate hu ho password) pay).bind fun _ =>
        plays_pure _ ()
      rw [List.append_nil] at hauth
      have offered : reply.Offers "PLAIN" ∨ reply.Offers "LOGIN" := by
        rw [offersCredentials, Bool.or_eq_true, Reply.offersAuth_plain, Reply.offersAuth_login] at ho
        exact ho
      simp only [ho, Bool.not_true, Bool.false_eq_true, if_false, Exchange.unoffered,
        if_pos (Or.inr offered), List.nil_append]
      refine hauth.bind fun _ => ?_
      rw [Exchange.left_of_free fun _ => Exchange.isMessage_auth]
      exact hk
    · rw [Bool.not_eq_true] at ho
      have hnone : Exchange.auth username password (some reply) = [] :=
        Exchange.auth_of_unoffered ho
      obtain ⟨plain, login⟩ := offersCredentials_eq_false.mp ho
      simp only [ho, hnone, Bool.not_false, if_true, Exchange.unoffered,
        if_neg (not_or.mpr ⟨hu, not_or.mpr ⟨plain, login⟩⟩), List.nil_append]
      exact hk.report _

theorem plays_recipients (pay : Payload) (paths : List String) :
    Plays pay (recipients paths) (paths.map Exchange.rcptTo) := by
  induction paths with
  | nil => exact plays_pure pay ()
  | cons path rest ih =>
    exact (plays_line rfl rfl ⟨⟨rfl, fun _ => rfl⟩, rfl, rfl⟩ pay).bind fun _ => ih

theorem plays_envelope (pay : Payload) (sender : String) (receivers : Recipients) :
    Plays pay (envelope sender receivers)
      (Exchange.envelope [] sender receivers) :=
  (plays_line rfl rfl ⟨⟨rfl, fun _ => rfl⟩, rfl, rfl⟩ pay).bind fun _ =>
    plays_recipients pay receivers.paths

theorem sending_eq (d : Delivery) : sending.run d =
    ((d.session.sendPayload d.payload).1.mapError (stopped d.limits .message),
      { d with
        session := (d.session.sendPayload d.payload).2.2
        payload := (d.session.sendPayload d.payload).2.1
        spans := d.spans ++ [span d.limits .message (d.session.sendPayload d.payload).1] }) := rfl

theorem run_sending {d : Delivery} (hd : d.session.isOpen = true) :
    sending.run d =
      ((d.session.uploaded d.payload).readReply.1.mapError (stopped d.limits .message),
        { d with
          session := (d.session.uploaded d.payload).readReply.2
          payload := d.payload.drained
          spans := d.spans ++
            [span d.limits .message (d.session.uploaded d.payload).readReply.1] }) := by
  rw [sending_eq, Session.sendPayload_eq d.payload hd]

theorem exchange_message {d : Delivery} :
    d.view.exchange (Exchange.message d.payload) =
      ((d.session.uploaded d.payload).readReply.1,
        (d.session.uploaded d.payload).readReply.2.view d.payload.drained) := by
  rw [← Session.hear_view]
  simp [Dialogue.exchange, Dialogue.say, Exchange.message, Exchange.left, Sent.isMessage,
    Sent.octets_message, view, Session.view, Session.isOpen, Session.uploaded, Event.outgoing]

/-- The message goes out and has to be accepted. -/
theorem plays_sending (pay : Payload) :
    Plays pay (do let r ← sending; let _ ← expect .message r; return ())
      [Exchange.message pay] := by
  intro d hd hp
  subst hp
  have hends : (Exchange.message d.payload).Ends .message := ⟨⟨rfl, fun _ => rfl⟩, rfl, rfl⟩
  rw [run_bind, run_sending hd, Dialogue.play_cons, exchange_message, hends.verdict]
  cases (d.session.uploaded d.payload).readReply.1 with
  | error stop => exact ⟨rfl, rfl⟩
  | ok r =>
    dsimp only [Except.mapError]
    rw [run_bind, run_expect]
    dsimp only
    cases Phase.judge d.limits .message (.ok r) <;> exact ⟨rfl, rfl⟩

theorem plays_message (pay : Payload) :
    Plays pay message [Exchange.data, Exchange.message pay] :=
  (plays_line rfl rfl ⟨⟨rfl, fun _ => rfl⟩, rfl, rfl⟩ pay).bind fun _ =>
    plays_sending pay

/-! ## The whole dialogue -/

theorem plays_greet (pay : Payload) (helo : String) :
    Plays pay (greet helo) [Exchange.greeting, Exchange.ehlo helo] :=
  (plays_asking (Talk.says_readReply.plays ⟨⟨rfl, fun _ => rfl⟩, rfl, rfl⟩) pay).bind fun _ =>
    plays_line rfl rfl ⟨⟨rfl, fun _ => rfl⟩, rfl, rfl⟩ pay

theorem judge_eq_ok {limits : Timeouts} {p : Phase} {result : Except Stop Reply} {r : Reply}
    (h : p.judge limits result = .ok r) : result = .ok r := by
  cases result with
  | error stop => cases h
  | ok r' =>
    by_cases ha : p.accepts r'.code = true
    · simpa [Phase.judge, ha] using h
    · simp [Phase.judge, ha] at h

/-- What a phase passes on is the first of the replies. -/
theorem asking_reply {p : Phase} {talk : Talk Reply} (hears : Talk.Hears talk) {d : Delivery}
    {r : Reply} (h : ((asking p talk).run d).1 = .ok r) :
    (replies d.view.stream).1 = r :: (replies ((asking p talk).run d).2.view.stream).1 := by
  rw [run_asking] at h ⊢
  exact hears d.payload d.session r (judge_eq_ok h)

/-- The reply to EHLO is the second one. -/
theorem greet_reply {helo : String} {d : Delivery} {r : Reply}
    (h : ((greet helo).run d).1 = .ok r) : (replies d.view.stream).1[1]? = some r := by
  rw [greet, run_bind] at h
  rcases hg : (asking .greeting Talk.readReply).run d with ⟨e | r0, d'⟩
  · rw [hg] at h
    cases h
  · have hfirst := asking_reply Talk.hears_readReply (congrArg Prod.fst hg)
    rw [hg] at h hfirst
    rw [hfirst, asking_reply (Talk.hears_command _) h]
    rfl

/-- All of a delivery but QUIT. -/
def uptoMessage (t : Transfer.Ready) : Part Unit := do
  let ehlo ← greet t.options.helo
  authenticate ehlo t.options.username t.options.password
  envelope t.mailFrom t.recipients
  message

theorem dialogue_eq (t : Transfer.Ready) : dialogue t = (do uptoMessage t; leave) := by
  simp only [dialogue, uptoMessage, bind_assoc]

theorem map_unit {ε : Type} (x : Except ε Unit) : x.map (fun _ => ()) = x := by
  cases x <;> rfl

/-- **A delivery goes through its exchanges.** -/
theorem play_uptoMessage (t : Transfer.Ready) {d : Delivery} (hd : d.session.isOpen = true)
    (hp : d.payload = t.payload) :
    d.view.play d.limits (t.exchanges (replies d.view.stream).1[1]?) =
      (((uptoMessage t).run d).1, ((uptoMessage t).run d).2.view) := by
  obtain ⟨hplay, hlim⟩ := plays_greet d.payload t.options.helo d hd rfl
  have hopen := Dialogue.isOpen_play d.limits d.view [Exchange.greeting, Exchange.ehlo t.options.helo]
  have hpay := Dialogue.payload_play d.limits d.view
    [Exchange.greeting, Exchange.ehlo t.options.helo]
  rw [uptoMessage, run_bind, Transfer.Ready.exchanges, Transfer.Ready.opening, List.append_assoc,
    List.append_assoc, Dialogue.play_append]
  rw [hplay] at hopen hpay ⊢
  rcases hg : (greet t.options.helo).run d with ⟨e | r, d'⟩
  · rfl
  · rw [hg] at hlim hopen hpay
    rw [greet_reply (congrArg Prod.fst hg)]
    have hbody : Plays t.payload (do envelope t.mailFrom t.recipients; message)
        (Exchange.envelope [] t.mailFrom t.recipients ++
          [Exchange.data, Exchange.message t.payload]) :=
      (plays_envelope t.payload t.mailFrom t.recipients).bind fun _ => by
        rw [Exchange.left_of_free (Exchange.isMessage_envelope _ _ _)]
        exact plays_message t.payload
    have hrest := plays_authenticate r t.options.username t.options.password hbody
    rw [List.append_nil] at hrest
    obtain ⟨h, -⟩ := hrest d' (hopen.trans hd) ((hpay rfl).trans hp)
    rw [map_unit, show d'.limits = d.limits from hlim] at h
    exact h

/-- QUIT goes out, and whatever becomes of it, the delivery has succeeded. -/
theorem run_leave {d : Delivery} (hd : d.session.isOpen = true) :
    ∃ told, (leave.run d).1 = .ok () ∧ (leave.run d).2.payload = d.payload ∧
      (leave.run d).2.session.written = d.session.written ++ Talk.line "QUIT" ∧
      (leave.run d).2.session.events = d.session.events ++ Event.outgoing "QUIT" :: told := by
  obtain ⟨told, hwritten, hevents⟩ := Talk.run_quit hd
  unfold leave
  rw [run_tryCatch, run_bind, run_during]
  cases (Talk.quit.run d.session).1 with
  | ok r => exact ⟨told, rfl, rfl, hwritten, hevents⟩
  | error stop =>
    refine ⟨told ++ [Event.plain .debug "QUIT failed after successful delivery"
      [("error", .text (stopped d.limits .quit stop).message)]], rfl, rfl, hwritten, ?_⟩
    show _ ++ [_] = _
    rw [hevents, List.append_assoc]
    rfl

end Delivery

/-! ## How a delivery ends -/

/-- All whole replies of a peer. -/
def Inflow.answers (f : Inflow) : List Reply := (replies f.octets).1

/-- What a peer sends behind its last whole reply. -/
def Inflow.rest (f : Inflow) : Bytes := (replies f.octets).2

namespace Transfer.Ready

/-- What a delivery to a peer sends before QUIT, if nothing fails. -/
def script (t : Ready) (f : Inflow) : List Exchange := t.exchanges f.answers[1]?

/-- How many exchanges are answered and accepted, one after the other. -/
def reach (t : Ready) (f : Inflow) : Nat := Exchange.reach (t.script f) f.answers

/-- How many exchanges come before DATA. -/
def preamble (t : Ready) (f : Inflow) : Nat := (t.opening f.answers[1]?).length

theorem length_script (t : Ready) (f : Inflow) : (t.script f).length = t.preamble f + 2 := by
  rw [script, exchanges, List.length_append]
  rfl

theorem script_data (t : Ready) (f : Inflow) :
    (t.script f)[t.preamble f]? = some Exchange.data := by
  rw [script, exchanges, preamble, List.getElem?_append_right (Nat.le_refl _), Nat.sub_self]
  rfl

theorem script_message (t : Ready) (f : Inflow) :
    (t.script f)[t.preamble f + 1]? = some (Exchange.message t.payload) := by
  rw [script, exchanges, preamble, List.getElem?_append_right (Nat.le_add_right _ 1),
    Nat.add_sub_cancel_left]
  rfl

/-- The payload is taken as soon as the message is sent. -/
theorem left_script (t : Ready) (f : Inflow) (k : Nat) :
    Exchange.left t.payload ((t.script f).take k) =
      if k ≤ t.preamble f + 1 then t.payload else t.payload.drained := by
  have hopening : ((t.opening f.answers[1]?).take k).any (·.sent.isMessage) = false :=
    List.any_eq_false.mpr fun x hx => by
      simp [t.isMessage_opening _ x (List.mem_of_mem_take hx)]
  rw [Exchange.left, script, exchanges, List.take_append, List.any_append, hopening,
    Bool.false_or, preamble]
  by_cases hk : k ≤ (t.opening f.answers[1]?).length + 1
  · rw [if_pos hk]
    have hsub : k - (t.opening f.answers[1]?).length = 0 ∨
        k - (t.opening f.answers[1]?).length = 1 := by omega
    rcases hsub with h | h <;> rw [h] <;> rfl
  · rw [if_neg hk]
    obtain ⟨j, hj⟩ : ∃ j, k - (t.opening f.answers[1]?).length = j + 2 :=
      ⟨k - (t.opening f.answers[1]?).length - 2, by omega⟩
    rw [hj]
    rfl

/-- An event of a delivery, which is reported within a span that names the server. -/
def reported (t : Ready) (e : Event) : Event :=
  { e with around := ⟨"execute", .debug,
    [("server", t.options.url), ("port", toString t.options.port.toNat)]⟩ :: e.around }

/-- The end of a delivery that was accepted `k` times. `before` is what the log says about the
connection. -/
inductive Ends (t : Ready) (f : Inflow) (before : List Event) (k : Nat) (d : Delivered) : Prop where
  /-- Everything was accepted. QUIT went out, and it does not matter what became of it. -/
  | through (quit : List Event)
      (all : k = (t.script f).length)
      (accepted : List.Forall₂ Exchange.Accepts ((t.script f).take k) (f.answers.take k))
      (outcome : d.outcome = .ok ())
      (written : d.written = some (Exchange.octets (t.script f) ++ Wire.line "QUIT"))
      (events : d.events = (before ++ Exchange.log (t.script f) (f.answers.take k) ++
        ⟨.trace, .outgoing, "QUIT", [], []⟩ :: quit).map t.reported)
      (payload : d.payload = Exchange.left t.payload (t.script f))
  /-- The exchange behind the accepted ones failed, and nothing was sent behind it. -/
  | stopped (x : Exchange) (e : SessionError)
      (next : (t.script f)[k]? = some x)
      (accepted : List.Forall₂ Exchange.Accepts ((t.script f).take k) (f.answers.take k))
      (fault : x.fault t.options.timeouts f.ending f.rest f.answers[k]? = some e)
      (outcome : d.outcome = .error (.session e))
      (written : d.written = some (Exchange.octets ((t.script f).take (k + 1))))
      (events : d.events = (before ++
        Exchange.log ((t.script f).take (k + 1)) (f.answers.take (k + 1))).map t.reported)
      (payload : d.payload = Exchange.left t.payload ((t.script f).take (k + 1)))

variable {n : Environment} {t : Ready} {f : Inflow} {spans : List Span} {events : List Event}

/-- What a delivery over a connection comes to. -/
theorem deliver_eq (hc : connect n t.options = (.ok f, spans, events)) :
    let ended := (Delivery.dialogue t).run
      (t.opened f (n.blockage t.options.address) spans events)
    t.deliver n = ⟨ended.1.mapError .session, ended.2.payload, some ended.2.session.written,
      ended.2.spans, ended.2.session.events.map t.reported⟩ := by
  rw [deliver, execute, hc]
  rfl

theorem stream_opened (t : Ready) (f : Inflow) (blockage : Option Blockage) (spans : List Span)
    (events : List Event) : (t.opened f blockage spans events).view.stream = f.octets := by
  simp [opened, Delivery.view, Session.view, Session.start, Inbox.stream, Inbox.empty,
    Inflow.octets]

/-- **A delivery over a connection ends** behind QUIT or at the first exchange that fails. -/
theorem deliver_ends (hc : connect n t.options = (.ok f, spans, events))
    (taken : n.blockage t.options.address = none) :
    Ends t f events (t.reach f) (t.deliver n) := by
  let d := t.opened f none spans events
  have hstream : d.view.stream = f.octets := t.stream_opened f none spans events
  have hplay := Delivery.play_uptoMessage t (d := d) rfl rfl
  obtain ⟨k, hreach, haccepted, hcases⟩ :=
    Dialogue.play_cases d.limits d.view (t.exchanges (replies d.view.stream).1[1]?)
  have hopen := Dialogue.isOpen_play d.limits d.view (t.exchanges (replies d.view.stream).1[1]?)
  rw [hplay] at hcases hopen
  rw [hstream] at hreach haccepted hcases
  obtain rfl : k = t.reach f := hreach
  rw [deliver_eq hc, taken, Delivery.dialogue_eq, run_bind]
  rcases hrun : (Delivery.uptoMessage t).run d with ⟨e | u, d'⟩
  · rw [hrun] at hcases
    rcases hcases with ⟨-, rest, -, hp⟩ | ⟨x, e', rest, hx, hfault, hp⟩
    · cases (Prod.mk.inj hp).1
    · obtain ⟨he, hv⟩ := Prod.mk.inj hp
      cases he
      exact .stopped x e hx haccepted hfault rfl
        (congrArg (some ·.written) hv) (congrArg (·.events.map t.reported) hv)
        (congrArg Dialogue.payload hv)
  · rw [hrun] at hcases hopen
    rcases hcases with ⟨hlen, rest, -, hp⟩ | ⟨x, e', rest, hx, hfault, hp⟩
    · obtain ⟨-, hv⟩ := Prod.mk.inj hp
      obtain ⟨quit, hok, hpay, hwritten, hevents⟩ := Delivery.run_leave (hopen.trans rfl)
      refine .through quit hlen haccepted
        (congrArg (Except.mapError TransferError.session) hok) ?_ ?_
        (hpay.trans (congrArg Dialogue.payload hv))
      · have h : d'.session.written = _ := congrArg Dialogue.written hv
        rw [← Talk.line_eq]
        exact congrArg some (hwritten.trans (by rw [h]; rfl))
      · have h : d'.session.events = _ := congrArg Dialogue.events hv
        exact congrArg (List.map t.reported) (hevents.trans (by rw [h]; rfl))
    · cases (Prod.mk.inj hp).1

variable {before : List Event} {k : Nat} {d : Delivered}

/-- Whatever was accepted is answered by a whole reply that its phase accepts. -/
theorem Ends.answered (h : Ends t f before k d) {i : Nat} {x : Exchange} (hi : i < k)
    (hx : (t.script f)[i]? = some x) : ∃ r, f.answers[i]? = some r ∧ x.Accepts r := by
  have hall : List.Forall₂ Exchange.Accepts ((t.script f).take k) (f.answers.take k) := by
    cases h <;> assumption
  have hx' : ((t.script f).take k)[i]? = some x := by rw [List.getElem?_take_of_lt hi, hx]
  obtain ⟨r, hr, ha⟩ := exists_getElem?_of_forall₂ hall hx'
  rw [List.getElem?_take_of_lt hi] at hr
  exact ⟨r, hr, ha⟩

/-- What was sent, QUIT being one more exchange, and what of it was accepted. -/
theorem Ends.sent (h : Ends t f before k d) :
    d.written = some (Exchange.octets ((t.script f ++ [Exchange.quit]).take (k + 1))) ∧
      List.Forall₂ Exchange.Accepts ((t.script f ++ [Exchange.quit]).take k)
        (f.answers.take k) := by
  cases h with
  | through quit all accepted outcome written events payload =>
    rw [List.take_append_of_le_length (Nat.le_of_eq all), List.take_of_length_le, written,
      Exchange.octets_append, ← Talk.line_eq, ← Sent.octets_line]
    · exact ⟨by rw [Exchange.octets_cons, Exchange.octets_nil, List.append_nil]; rfl, accepted⟩
    · rw [all, List.length_append]
      exact Nat.le_refl _
  | stopped x e next accepted fault outcome written events payload =>
    have hlt := (List.getElem?_eq_some_iff.mp next).1
    rw [List.take_append_of_le_length hlt, List.take_append_of_le_length (Nat.le_of_lt hlt)]
    exact ⟨written, accepted⟩

/-- A delivery succeeds if everything is accepted. -/
theorem Ends.outcome_eq_ok_iff_all (h : Ends t f before k d) :
    d.outcome = .ok () ↔ k = (t.script f).length := by
  cases h with
  | through quit all accepted outcome => exact iff_of_true outcome all
  | stopped x e next accepted fault outcome =>
    have inside := (List.getElem?_eq_some_iff.mp next).1
    exact iff_of_false (by rw [outcome]; exact nofun) (Nat.ne_of_lt inside)

/-- The payload is touched only once DATA is accepted, and then all of it is taken. -/
theorem Ends.payload_eq (h : Ends t f before k d) :
    d.payload = if k ≤ t.preamble f then t.payload else t.payload.drained := by
  have hlen := length_script t f
  cases h with
  | through quit all accepted outcome written events payload =>
    rw [payload, if_neg (by omega), ← List.take_length (l := t.script f), left_script,
      if_neg (by omega)]
  | stopped x e next accepted fault outcome written events payload =>
    rw [payload, left_script]
    by_cases hk : k ≤ t.preamble f
    · rw [if_pos hk, if_pos (by omega)]
    · rw [if_neg hk, if_neg (by omega)]

/-- A delivery succeeds exactly when the message is accepted. -/
theorem Ends.outcome_eq_ok_iff (h : Ends t f before k d) :
    d.outcome = .ok () ↔ t.preamble f < k ∧
      ∃ r, f.answers[t.preamble f + 1]? = some r ∧ 200 ≤ r.code ∧ r.code < 300 := by
  have hlen := length_script t f
  have done (r : Reply) : (Exchange.message t.payload).accepts r.code = true ↔
      200 ≤ r.code ∧ r.code < 300 := by
    simp [Exchange.message, Exchange.done]
  have hanswered := fun hk => h.answered (i := t.preamble f + 1) hk (script_message t f)
  simp only [Exchange.Accepts, done] at hanswered
  cases h with
  | through quit all accepted outcome written events payload =>
    exact iff_of_true outcome ⟨by omega, hanswered (by omega)⟩
  | stopped x e next accepted fault outcome written events payload =>
    refine iff_of_false (by rw [outcome]; exact nofun) ?_
    rintro ⟨hk, r, hr, hpos⟩
    have hlt := (List.getElem?_eq_some_iff.mp next).1
    obtain rfl : k = t.preamble f + 1 := by omega
    rw [script_message, Option.some.injEq] at next
    subst next
    rw [hr, Exchange.fault, if_pos ((done r).mpr hpos)] at fault
    cases fault

/-- What a transfer reads of its payload is what its delivery read, and nothing else of it
changes. -/
theorem Ends.served {tr : Transfer} (ht : tr.ready? = .ok t) (h : Ends t f before k d) :
    tr.served (t.payload.remaining - d.payload.remaining) =
      { tr with payload := some d.payload } := by
  rw [ready?_eq_ok_iff.mp ht, h.payload_eq]
  split
  · simp [Transfer.served, readPayload]
  · simp [Transfer.served, readPayload, Payload.drained]

/-- **Gating.** A delivery sends its exchanges one by one, in the order of `script`, each behind a
whole reply to the one before that was accepted, and QUIT behind all of them. It succeeds exactly
when the reply to the message is positive, whatever becomes of QUIT. Otherwise it ends with the
fault of the first exchange that was not accepted, and nothing follows that one. This holds of any
stream, wherever it stops, so nothing goes out ahead of its turn. The payload is untouched until
DATA is answered by 354, and then all of it is taken; nothing else of the transfer ever changes.
The peer is one that takes what is written to it. -/
theorem deliver_gated {tr : Transfer} (ht : tr.ready? = .ok t)
    (hc : connect n t.options = (.ok f, spans, events))
    (taken : n.blockage t.options.address = none) :
    Ends t f events (t.reach f) (t.deliver n) ∧
      (∀ i x, i < t.reach f → (t.script f)[i]? = some x →
        ∃ r, f.answers[i]? = some r ∧ x.accepts r.code = true) ∧
      ((t.deliver n).outcome = .ok () ↔ t.preamble f < t.reach f ∧
        ∃ r, f.answers[t.preamble f + 1]? = some r ∧ 200 ≤ r.code ∧ r.code < 300) ∧
      (t.deliver n).payload =
        (if t.reach f ≤ t.preamble f then t.payload else t.payload.drained) ∧
      (t.preamble f < t.reach f → ∃ r, f.answers[t.preamble f]? = some r ∧ r.code = 354) ∧
      tr.served (t.payload.remaining - (t.deliver n).payload.remaining) =
        { tr with payload := some (t.deliver n).payload } := by
  have h := deliver_ends hc taken
  refine ⟨h, fun i x hi hx => h.answered hi hx, h.outcome_eq_ok_iff, h.payload_eq, ?_,
    h.served ht⟩
  intro hk
  obtain ⟨r, hr, ha⟩ := h.answered hk (script_data t f)
  exact ⟨r, hr, beq_iff_eq.mp ha⟩

/-- A mail to one recipient, over a connection in the clear. -/
def sample : Ready where
  options := ⟨"smtp://mx", "mx", 25, "", "ann", "secret", .disabled, "localhost", .standard⟩
  mailFrom := "<ann@a.example>"
  recipients := ⟨["<bob@b.example>"]⟩
  payload := .ofString "hi\n"

/-- A peer that asks for credentials, refuses the recipient and closes. -/
def refusing : Inflow :=
  ⟨[Wire.text "220 mx\r\n250-mx\r\n250 AUTH PLAIN\r\n235 in\r\n250 ok\r\n550 who\r\n"], .closed⟩

/-- Behind every address is such a peer. -/
def refusingNetwork : Network :=
  ⟨fun _ => .ok ⟨refusing, none⟩, fun _ => .error .notFound, []⟩

theorem answers_refusing : refusing.answers =
    [⟨220, ["mx"]⟩, ⟨250, ["mx", "AUTH PLAIN"]⟩, ⟨235, ["in"]⟩, ⟨250, ["ok"]⟩, ⟨550, ["who"]⟩] := by
  decide +kernel

theorem script_sample_refusing : sample.script refusing =
    [Exchange.greeting, Exchange.ehlo "localhost"] ++ Exchange.plain "ann" "secret" ++
      [Exchange.mailFrom [] "<ann@a.example>", Exchange.rcptTo "<bob@b.example>", Exchange.data,
        Exchange.message sample.payload] := by
  have offered : (Reply.mk 250 ["mx", "AUTH PLAIN"]).Offers "PLAIN" := by decide
  rw [script, answers_refusing]
  simp [exchanges, opening, Exchange.auth, Exchange.unoffered, Exchange.envelope, sample, offered]

/-- The recipient is refused, and so the message stays where it is. -/
theorem deliver_gated_refusing :
    (∃ tr : Transfer, tr.ready? = .ok sample) ∧
      (∃ spans events, connect refusingNetwork sample.options = (.ok refusing, spans, events)) ∧
      (refusingNetwork : Environment).blockage sample.options.address = none ∧
      (sample.deliver refusingNetwork).outcome = .error (.session (.rejected "RCPT TO" 550 "who")) ∧
      (sample.deliver refusingNetwork).written = some (Wire.text
        ("EHLO localhost\r\nAUTH PLAIN AGFubgBzZWNyZXQ=\r\nMAIL FROM:<ann@a.example>\r\n" ++
          "RCPT TO:<bob@b.example>\r\n")) ∧
      (sample.deliver refusingNetwork).payload = sample.payload := by
  have ht : Transfer.ready? ⟨sample.options, some sample.mailFrom, some sample.recipients,
      some sample.payload, true⟩ = .ok sample := rfl
  have hc : connect refusingNetwork sample.options = (.ok refusing, _, _) := rfl
  obtain ⟨h, -, -, hpayload, -⟩ := deliver_gated ht hc rfl
  have reached : sample.reach refusing = 4 := by decide +kernel
  have length : (sample.script refusing).length = 7 := by rw [script_sample_refusing]; rfl
  have before : sample.preamble refusing = 5 := by
    have := length_script sample refusing
    omega
  rw [reached, before] at hpayload
  rw [reached] at h
  refine ⟨⟨_, ht⟩, ⟨_, _, hc⟩, rfl, ?_⟩
  cases h with
  | through _ all => exact absurd (all.trans length) (by decide)
  | stopped x e next _ fault outcome written =>
    rw [script_sample_refusing] at next written
    obtain rfl : Exchange.rcptTo "<bob@b.example>" = x := Option.some.inj next
    rw [answers_refusing] at fault
    obtain rfl : SessionError.rejected "RCPT TO" 550 "who" = e := by
      simpa [Exchange.fault, Exchange.rcptTo, Exchange.command, Exchange.done, Exchange.refused]
        using fault
    exact ⟨outcome, written.trans (by decide +kernel), hpayload⟩

end Transfer.Ready

end Outbox
