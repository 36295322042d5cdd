import Outbox.Proofs.Gating

/-!
# Credentials

Which mechanism a delivery picks for its credentials, and when it lets them go.

* `Exchange.auth_eq_plain`, `Exchange.auth_eq_login`: which exchanges AUTH consists of.
* `Delivery.play_authenticate`: a delivery goes through them.
* `Exchange.Released`: how far AUTH gets with the replies of the server.
* `Avoids`: a computation that never fails in a certain way.
  `Transfer.Ready.outcome_ne_noAuthMechanism`: a delivery never finds itself without a mechanism.
* `Delivery.credentials_released`: **credentials go out only by a mechanism on offer, and only as
  far as the server asks for them**.
-/

set_option autoImplicit false

namespace Outbox

/-! ## What is sent -/

namespace Exchange

theorem auth_eq_nil {username password : String} {reply : Reply} :
    auth username password (some reply) = [] ↔
      username = "" ∨ ¬reply.Offers "PLAIN" ∧ ¬reply.Offers "LOGIN" := by
  rw [auth]
  split_ifs <;> simp_all [plain, login]

theorem auth_eq_plain {username password : String} {reply : Reply} :
    auth username password (some reply) = plain username password ↔
      username ≠ "" ∧ reply.Offers "PLAIN" := by
  rw [auth]
  split_ifs <;> simp_all [plain, login]

theorem auth_eq_login {username password : String} {reply : Reply} :
    auth username password (some reply) = login username password ↔
      username ≠ "" ∧ ¬reply.Offers "PLAIN" ∧ reply.Offers "LOGIN" := by
  rw [auth]
  split_ifs <;> simp_all [plain, login]

/-- The code that the line of AUTH behind `i` others has to be answered by: a challenge, and in the
end the word that the credentials are right. -/
def awaited (steps : List Exchange) (i : Nat) : Nat := if i + 1 = steps.length then 235 else 334

/-- What a refusal of that line is reported under. -/
def refusedAs (steps : List Exchange) (i : Nat) : String :=
  if i + 1 = steps.length then "AUTH" else "AUTH LOGIN"

/-- Each line of AUTH asks for its code and is refused under its name. -/
theorem auth_step {username password : String} {reply : Reply} {i : Nat} {x : Exchange}
    (hx : (auth username password (some reply))[i]? = some x) :
    (∀ r, x.Accepts r ↔ r.code = awaited (auth username password (some reply)) i) ∧
      x.name = refusedAs (auth username password (some reply)) i ∧
        x.phase = "AUTH" ∧ ∀ limits, x.limit limits = .ofSecs limits.authSecs.toNat := by
  rw [auth] at hx ⊢
  split_ifs at hx ⊢
  · cases hx
  · obtain _ | i := i
    · obtain rfl := Option.some.inj hx
      exact ⟨fun _ => beq_iff_eq, rfl, rfl, fun _ => rfl⟩
    · cases hx
  · obtain _ | _ | _ | i := i
    · obtain rfl := Option.some.inj hx
      exact ⟨fun _ => beq_iff_eq, rfl, rfl, fun _ => rfl⟩
    · obtain rfl := Option.some.inj hx
      exact ⟨fun _ => beq_iff_eq, rfl, rfl, fun _ => rfl⟩
    · obtain rfl := Option.some.inj hx
      exact ⟨fun _ => beq_iff_eq, rfl, rfl, fun _ => rfl⟩
    · cases hx
  · cases hx

/-- How AUTH ends behind `k` lines that were answered as they have to be. -/
inductive Released (limits : Timeouts) (ending : Ending) (answers : List Reply) (rest : Bytes)
    (steps : List Exchange) : Nat → Except SessionError Unit → Prop
  /-- All lines were. -/
  | through : Released limits ending answers rest steps steps.length (.ok ())
  /-- The next line was answered by another code. -/
  | refused {k : Nat} {r : Reply} :
      k < steps.length → answers[k]? = some r → r.code ≠ awaited steps k →
        Released limits ending answers rest steps k
          (.error (.rejected (refusedAs steps k) r.code (String.intercalate " " r.lines)))
  /-- The next line was not answered by a whole reply. -/
  | broken {k : Nat} {e : SessionError} :
      k < steps.length → answers[k]? = none → (nextReply ending rest).1 = .error (.failed e) →
        Released limits ending answers rest steps k (.error e)
  /-- The next line was not answered at all. -/
  | silent {k : Nat} :
      k < steps.length → answers[k]? = none → (nextReply ending rest).1 = .error .stalled →
        Released limits ending answers rest steps k
          (.error (.timeout "AUTH" (.ofSecs limits.authSecs.toNat)))

section
variable {limits : Timeouts} {ending : Ending} {answers : List Reply} {rest : Bytes}
  {steps : List Exchange} {k : Nat} {result : Except SessionError Unit}

/-- The line behind those that were answered as they have to be was not. -/
theorem Released.next (h : Released limits ending answers rest steps k result)
    (inside : k < steps.length) :
    answers[k]?.map Reply.code ≠ some (awaited steps k) := by
  cases h with
  | through => exact absurd inside (Nat.lt_irrefl _)
  | refused _ answer other =>
    rw [answer]
    exact fun same => other (Option.some.inj same)
  | broken _ silence | silent _ silence =>
    rw [silence]
    exact nofun

theorem Released.le (h : Released limits ending answers rest steps k result) :
    k ≤ steps.length := by
  cases h with
  | through => exact Nat.le_refl _
  | refused inside | broken inside | silent inside => exact Nat.le_of_lt inside

theorem Released.ok_iff (h : Released limits ending answers rest steps k result) :
    result = .ok () ↔ k = steps.length := by
  cases h with
  | through => exact iff_of_true rfl rfl
  | refused inside | broken inside | silent inside => exact iff_of_false nofun (Nat.ne_of_lt inside)

/-- Lines are answered as they have to be up to the first that is not. -/
theorem Released.answered_iff (h : Released limits ending answers rest steps k result)
    (answered : ∀ i < k, answers[i]?.map Reply.code = some (awaited steps i)) {i : Nat}
    (sent : i ≤ k) (inside : i < steps.length) :
    answers[i]?.map Reply.code = some (awaited steps i) ↔ i < k := by
  refine ⟨fun answer => ?_, answered i⟩
  rcases Nat.lt_or_eq_of_le sent with before | rfl
  · exact before
  · exact absurd answer (h.next inside)

/-- AUTH succeeds if its last line is reached and answered by 235. -/
theorem Released.ok_iff_last (h : Released limits ending answers rest steps k result)
    (answered : ∀ i < k, answers[i]?.map Reply.code = some (awaited steps i))
    (nonempty : steps ≠ []) :
    result = .ok () ↔
      steps.length ≤ k + 1 ∧ answers[steps.length - 1]?.map Reply.code = some 235 := by
  have positive : 0 < steps.length := List.length_pos_iff.mpr nonempty
  have last : awaited steps (steps.length - 1) = 235 := if_pos (Nat.sub_add_cancel positive)
  have inside : steps.length - 1 < steps.length := Nat.sub_one_lt_of_lt positive
  have whole := h.le
  rw [h.ok_iff]
  constructor
  · intro all
    exact ⟨by omega, last ▸ answered _ (all ▸ inside)⟩
  · rintro ⟨reached, right⟩
    have through := (h.answered_iff answered (by omega) inside).mp (last ▸ right)
    omega

end

theorem octets_credential (name told text : String) (accepts : Nat → Bool) :
    (credential name told text accepts).sent.octets = Wire.line text :=
  (Sent.octets_line text).trans (Talk.line_eq text)

theorem octets_plain (username password : String) :
    octets (plain username password) =
      Wire.line ("AUTH PLAIN " ++ Wire.plain username password) := by
  rw [plain, octets_cons, octets_credential, octets_nil, List.append_nil]

/-- What is written of AUTH LOGIN. -/
theorem octets_login_take {limits : Timeouts} {ending : Ending} {answers : List Reply}
    {rest : Bytes} {username password : String} {k : Nat} {result : Except SessionError Unit}
    (h : Released limits ending answers rest (login username password) k result)
    (answered : ∀ i < k,
      answers[i]?.map Reply.code = some (awaited (login username password) i)) :
    octets ((login username password).take (k + 1)) = Wire.line "AUTH LOGIN" ++
      if answers[0]?.map Reply.code = some 334 then
        Wire.line (Wire.base64 (Wire.text username)) ++
          if answers[1]?.map Reply.code = some 334 then
            Wire.line (Wire.base64 (Wire.text password))
          else []
      else [] := by
  have length : (login username password).length = 3 := rfl
  have first : answers[0]?.map Reply.code = some 334 ↔ 0 < k :=
    h.answered_iff answered (Nat.zero_le k) (by omega)
  cases k with
  | zero =>
    rw [if_neg (by simp [first]), login, List.take_succ_cons, List.take_zero, octets_cons,
      octets_credential]
    rfl
  | succ k =>
    have second : answers[1]?.map Reply.code = some 334 ↔ 1 < k + 1 :=
      h.answered_iff answered (Nat.succ_le_succ (Nat.zero_le k)) (by omega)
    rw [if_pos (first.mpr (Nat.succ_pos k))]
    cases k with
    | zero =>
      rw [if_neg (by simp [second]), login, List.take_succ_cons, List.take_succ_cons, List.take_zero,
        octets_cons, octets_cons, octets_credential, octets_credential]
      rfl
    | succ k =>
      rw [if_pos (second.mpr (by omega)), List.take_of_length_le (by omega), login, octets_cons,
        octets_cons, octets_cons, octets_credential, octets_credential, octets_credential,
        octets_nil, List.append_nil]

/-- A line of AUTH that fails was refused or not answered. -/
theorem Released.of_fault {limits : Timeouts} {ending : Ending} {answers : List Reply}
    {rest : Bytes} {username password : String} {reply : Reply} {k : Nat} {x : Exchange}
    {e : SessionError} (hx : (auth username password (some reply))[k]? = some x)
    (fault : x.fault limits ending rest answers[k]? = some e) :
    Released limits ending answers rest (auth username password (some reply)) k (.error e) := by
  have inside := (List.getElem?_eq_some_iff.mp hx).1
  obtain ⟨accepts, name, phase, limit⟩ := auth_step hx
  cases answer : answers[k]? with
  | some r =>
    have refused : ¬x.accepts r.code = true := by
      intro accepted
      rw [answer, Exchange.fault, if_pos accepted] at fault
      cases fault
    rw [answer, Exchange.fault, if_neg refused, Exchange.refused, name] at fault
    obtain rfl := Option.some.inj fault
    exact .refused inside answer fun code => refused ((accepts r).mpr code)
  | none =>
    rw [answer, Exchange.fault] at fault
    cases next : (nextReply ending rest).1 with
    | ok r =>
      rw [next] at fault
      cases fault
    | error stop =>
      rw [next] at fault
      obtain rfl := Option.some.inj fault
      cases stop with
      | failed e => exact .broken inside answer next
      | stalled =>
        rw [Exchange.stopped, phase, limit]
        exact .silent inside answer next

end Exchange

namespace Delivery

/-- **AUTH goes through its exchanges**, if there are any. -/
theorem play_authenticate (reply : Reply) (username password : String) {d : Delivery}
    (opened : d.session.isOpen = true) :
    let went := d.view.play d.limits (Exchange.auth username password (some reply))
    ((authenticate reply username password).run d).1 = went.1 ∧
      ((authenticate reply username password).run d).2.session.written = went.2.written := by
  unfold authenticate
  by_cases hu : username = ""
  · subst hu
    simp only [show "".isEmpty = true from rfl, if_true, Exchange.auth]
    exact ⟨rfl, rfl⟩
  · have named : username.isEmpty = false := by
      rw [← Bool.not_eq_true, String.isEmpty_iff]
      exact hu
    simp only [named, Bool.false_eq_true, if_false]
    by_cases ho : offersCredentials reply = true
    · have hauth := (plays_asking (Talk.plays_authenticate hu ho password) d.payload).bind fun _ =>
        plays_pure _ ()
      rw [List.append_nil] at hauth
      obtain ⟨h, -⟩ := hauth d opened rfl
      simp only [ho, Bool.not_true, Bool.false_eq_true, if_false]
      rw [h]
      exact ⟨(map_unit _).symm, rfl⟩
    · rw [Bool.not_eq_true] at ho
      have unsent : Exchange.auth username password (some reply) = [] :=
        Exchange.auth_of_unoffered ho
      simp only [ho, unsent, Bool.not_false, if_true]
      exact ⟨rfl, rfl⟩

/-- **How far AUTH gets.** -/
theorem released (reply : Reply) (username password : String) {d : Delivery}
    (opened : d.session.isOpen = true) :
    let steps := Exchange.auth username password (some reply)
    let answers := (replies d.view.stream).1
    let after := (authenticate reply username password).run d
    ∃ k, Exchange.Released d.limits d.session.ending answers (replies d.view.stream).2 steps k
        after.1 ∧
      (∀ i < k, answers[i]?.map Reply.code = some (Exchange.awaited steps i)) ∧
      after.2.session.written = d.session.written ++ Exchange.octets (steps.take (k + 1)) := by
  intro steps answers after
  obtain ⟨result, written⟩ := play_authenticate reply username password opened
  obtain ⟨k, -, accepted, ends⟩ := Dialogue.play_cases d.limits d.view steps
  have answered : ∀ i < k, k ≤ steps.length →
      answers[i]?.map Reply.code = some (Exchange.awaited steps i) := by
    intro i hi within
    have there : (steps.take k)[i]? = some steps[i] := by
      rw [List.getElem?_take_of_lt hi, List.getElem?_eq_getElem]
    obtain ⟨r, hr, accepts⟩ := exists_getElem?_of_forall₂ accepted there
    rw [List.getElem?_take_of_lt hi] at hr
    have code := ((Exchange.auth_step (List.getElem?_eq_getElem _)).1 r).mp accepts
    show answers[i]?.map Reply.code = _
    rw [show answers[i]? = some r from hr, Option.map_some, code]
  refine ⟨k, ?_⟩
  rcases ends with ⟨all, rest, -, went⟩ | ⟨x, e, rest, hx, fault, went⟩
  · rw [went] at result written
    have ok : after.1 = .ok () := result
    refine ⟨?_, fun i hi => answered i hi (Nat.le_of_eq all), ?_⟩
    · rw [ok, all]
      exact .through
    · rw [List.take_of_length_le (by omega)]
      exact written
  · have inside := (List.getElem?_eq_some_iff.mp hx).1
    rw [went] at result written
    have error : after.1 = .error e := result
    refine ⟨?_, fun i hi => answered i hi (Nat.le_of_lt inside), written⟩
    rw [error]
    exact .of_fault hx fault

end Delivery

/-! ## No mechanism

A missing mechanism is an error of its own, and only AUTH itself gives it: the lemmas in `_ne` and
`avoids_` are that nothing else does. -/

/-- A computation that fails in other ways only, if at all. -/
def Avoids {ε σ α : Type} (bad : ε) (q : ExceptT ε (StateM σ) α) : Prop :=
  ∀ s, (q.run s).1 ≠ .error bad

namespace Avoids

variable {ε σ α β : Type} {bad : ε}

theorem pure (a : α) : Avoids bad (Pure.pure a : ExceptT ε (StateM σ) α) := fun _ => nofun

theorem throw {e : ε} (h : e ≠ bad) :
    Avoids bad (MonadExcept.throw e : ExceptT ε (StateM σ) α) :=
  fun _ same => h (Except.error.inj same)

theorem bind {q : ExceptT ε (StateM σ) α} {k : α → ExceptT ε (StateM σ) β} (hq : Avoids bad q)
    (hk : ∀ a, Avoids bad (k a)) : Avoids bad (q >>= k) := by
  intro s
  have first := hq s
  rw [run_bind]
  rcases hr : q.run s with ⟨e | a, s'⟩
  · rw [hr] at first
    exact fun same => first (congrArg Except.error (Except.error.inj same))
  · exact hk a s'

/-- What a second chance fails with is its own. -/
theorem tryCatch {q : ExceptT ε (StateM σ) α} {k : ε → ExceptT ε (StateM σ) α}
    (hk : ∀ e, Avoids bad (k e)) : Avoids bad (MonadExcept.tryCatch q k) := by
  intro s
  show ((MonadExcept.tryCatch q k).run s).1 ≠ _
  rw [run_tryCatch]
  rcases q.run s with ⟨e | a, s'⟩
  · exact hk e s'
  · exact nofun

end Avoids

theorem Reply.ofBytes_line_ne {bytes : Bytes} {e : SessionError}
    (h : Line.ofBytes bytes = .error e) : e ≠ .noAuthMechanism := by
  rintro rfl
  unfold Line.ofBytes at h
  split at h
  · cases h
  · split at h <;> cases h

theorem Reply.add_ne {seen : Partial} {line : Line} {e : SessionError}
    (h : seen.add line = .error e) : e ≠ .noAuthMechanism := by
  rintro rfl
  unfold Partial.add at h
  split at h
  · cases h
  · split at h <;> cases h

theorem Reply.scan_ne {line : Bytes} {seen : Partial} {consumed : Nat} {a : Bytes}
    {e : SessionError} (h : scan line seen consumed a = .error e) : e ≠ .noAuthMechanism := by
  fun_induction scan line seen consumed a with
  | case1 => cases h
  | case2 _ _ _ _ _ _ ih => exact ih h
  | case3 _ _ _ _ _ _ _ ih => exact ih h
  | case4 _ _ _ _ _ _ _ e' malformed =>
    cases h
    exact ofBytes_line_ne malformed
  | case5 _ _ _ _ _ _ _ l parsed e' mixed =>
    cases h
    exact add_ne mixed
  | case6 => cases h
  | case7 _ _ _ _ _ _ _ _ _ _ _ _ _ ih => exact ih h

theorem nextReply_ne {ending : Ending} {stream : Bytes} {stop : Stop}
    (h : (nextReply ending stream).1 = .error stop) : stop ≠ .failed .noAuthMechanism := by
  rintro rfl
  unfold nextReply at h
  split at h
  · next e malformed =>
    cases h
    exact Reply.scan_ne malformed rfl
  · cases h
  · split at h
    · cases h
    · cases ending <;> cases h

namespace Session

theorem readReply_ne (s : Session) : s.readReply.1 ≠ .error (.failed .noAuthMechanism) := by
  intro missed
  have view := Session.hear_view (Payload.ofBytes []) s
  exact nextReply_ne ((congrArg Prod.fst view).trans missed) rfl

theorem write_ne (s : Session) (data : Bytes) :
    (s.write data).1 ≠ .error (.failed .noAuthMechanism) := by
  intro missed
  unfold write at missed
  repeat' split at missed
  all_goals try cases missed
  -- what a blockage stops fails with a fault of the system, or never
  next b _ _ =>
    rw [Except.error.injEq, Blockage.stop] at missed
    split at missed <;> cases missed

theorem upload_ne (size : Nat) (e : Encoder) (sent : Nat) (p : Payload) (s : Session) :
    (upload size e sent p s).1 ≠ .error (.failed .noAuthMechanism) := by
  fun_induction upload size e sent p s with
  | case1 e sent p s n _ stop s' stopped =>
    have first := write_ne s (e.encode (p.take size).1).1
    rw [stopped] at first
    exact fun missed => first (congrArg Except.error (Except.error.inj missed))
  | case2 e sent p s n _ s' written ih => exact ih
  | case3 e sent p s n _ stop s' stopped =>
    have last := write_ne s e.finish.1
    rw [stopped] at last
    exact fun missed => last (congrArg Except.error (Except.error.inj missed))
  | case4 => exact nofun

theorem sendPayload_ne (p : Payload) (s : Session) :
    (s.sendPayload p).1 ≠ .error (.failed .noAuthMechanism) := by
  have uploaded := upload_ne chunkSize Encoder.start 0 p s
  unfold sendPayload sendInChunks
  split
  · next stop p' s' stopped =>
    rw [stopped] at uploaded
    exact fun same => uploaded (congrArg Except.error (Except.error.inj same))
  · exact readReply_ne _

end Session

namespace Talk

theorem avoids_exchange (text : String) : Avoids (.failed .noAuthMechanism) (exchange text) :=
  .bind (fun s => s.write_ne _) fun _ s => s.readReply_ne

theorem avoids_command (text : String) : Avoids (.failed .noAuthMechanism) (command text) :=
  .bind (fun _ => nofun) fun _ => avoids_exchange text

theorem avoids_secret (label text : String) :
    Avoids (.failed .noAuthMechanism) (secret label text) :=
  .bind (fun _ => nofun) fun _ => avoids_exchange text

theorem avoids_expectChallenge (r : Reply) :
    Avoids (.failed .noAuthMechanism) (expectChallenge r) := by
  unfold expectChallenge
  split
  · exact .pure ()
  · exact .throw nofun

theorem avoids_authLogin (username password : String) :
    Avoids (.failed .noAuthMechanism) (authLogin username password) :=
  .bind (avoids_command _) fun r => .bind (avoids_expectChallenge r) fun _ =>
    .bind (avoids_secret _ _) fun r => .bind (avoids_expectChallenge r) fun _ => avoids_secret _ _

/-- **The check in front of AUTH is the right one**: exactly without it a mechanism is missed. -/
theorem authenticate_eq_noAuthMechanism (reply : Reply) (username password : String)
    (s : Session) :
    ((authenticate reply username password).run s).1 = .error (.failed .noAuthMechanism) ↔
      Delivery.offersCredentials reply = false := by
  unfold authenticate Delivery.offersCredentials
  split
  · next offered =>
    have avoids : Avoids (.failed .noAuthMechanism) (authPlain username password) :=
      avoids_secret _ _
    simpa [offered] using avoids s
  · next without =>
    split
    · next offered =>
      simpa [offered] using avoids_authLogin username password s
    · next neither =>
      rw [Bool.not_eq_true] at without neither
      rw [without, neither]
      exact iff_of_true rfl rfl

end Talk

namespace Delivery

theorem stopped_ne {limits : Timeouts} {p : Phase} {stop : Stop}
    (h : stop ≠ .failed .noAuthMechanism) : stopped limits p stop ≠ .noAuthMechanism := by
  cases stop with
  | failed e => exact fun same => h (congrArg Stop.failed same)
  | stalled => exact nofun

theorem mapError_ne {α : Type} {limits : Timeouts} {p : Phase} {result : Except Stop α}
    (h : result ≠ .error (.failed .noAuthMechanism)) :
    result.mapError (stopped limits p) ≠ .error .noAuthMechanism := by
  cases result with
  | ok a => exact nofun
  | error stop =>
    refine fun same => stopped_ne (fun missed => ?_) (Except.error.inj same)
    exact h (congrArg Except.error missed)

theorem avoids_during {α : Type} (p : Phase) {talk : Talk α}
    (h : Avoids (.failed .noAuthMechanism) talk) : Avoids .noAuthMechanism (during p talk) :=
  fun d => mapError_ne (h d.session)

theorem avoids_expect (p : Phase) (r : Reply) : Avoids .noAuthMechanism (expect p r) := by
  unfold expect
  split
  · exact .pure r
  · exact .throw nofun

theorem avoids_asking (p : Phase) {talk : Talk Reply}
    (h : Avoids (.failed .noAuthMechanism) talk) : Avoids .noAuthMechanism (asking p talk) :=
  .bind (avoids_during p h) fun r => avoids_expect p r

theorem avoids_authenticate (ehlo : Reply) (username password : String) :
    Avoids .noAuthMechanism (authenticate ehlo username password) := by
  unfold authenticate
  split
  · exact .pure ()
  · split
    · exact fun _ => nofun
    · next offered =>
      refine .bind (avoids_asking .auth fun s missed => ?_) fun _ => .pure ()
      rw [Talk.authenticate_eq_noAuthMechanism] at missed
      rw [missed] at offered
      exact offered rfl

theorem avoids_recipients (paths : List String) :
    Avoids .noAuthMechanism (recipients paths) := by
  induction paths with
  | nil => exact .pure ()
  | cons path rest ih => exact .bind (avoids_asking .rcptTo (Talk.avoids_command _)) fun _ => ih

theorem avoids_message : Avoids .noAuthMechanism message :=
  .bind (avoids_asking .data (Talk.avoids_command _)) fun _ =>
    .bind (fun d => mapError_ne (Session.sendPayload_ne d.payload d.session)) fun r =>
      .bind (avoids_expect .message r) fun _ => .pure ()

theorem avoids_dialogue (t : Transfer.Ready) : Avoids .noAuthMechanism (dialogue t) :=
  .bind (.bind (avoids_asking .greeting fun s => s.readReply_ne) fun _ =>
      avoids_asking .ehlo (Talk.avoids_command _)) fun ehlo =>
    .bind (avoids_authenticate ehlo _ _) fun _ =>
      .bind (.bind (avoids_asking .mailFrom (Talk.avoids_command _)) fun _ =>
          avoids_recipients _) fun _ =>
        .bind avoids_message fun _ => .tryCatch fun _ _ => nofun

end Delivery

/-- What stops a connection is the network, the peer's proof, or time. -/
theorem Network.connect_ne {n : Network} {address : String} {stop : Stop}
    (h : n.connect address = .error stop) : stop ≠ .failed .noAuthMechanism := by
  rintro rfl
  unfold connect at h
  split at h <;> cases h

theorem Environment.connectSecure_ne {n : Environment} {address domain : String} {trust : Trust}
    {stop : Stop} (h : n.connectSecure address domain trust = .error stop) :
    stop ≠ .failed .noAuthMechanism := by
  rintro rfl
  unfold connectSecure at h
  repeat' split at h
  all_goals cases h

theorem Environment.trust_ne {n : Environment} {caStore : String} {e : SessionError}
    {events : List Event} (h : n.trust caStore = (.error e, events)) : e ≠ .noAuthMechanism := by
  rintro rfl
  unfold trust at h
  cases found : (n.anchors caStore).1 <;> simp [found, Except.mapError] at h

namespace Transfer.Ready

theorem connect_ne {n : Environment} {o : TransferOptions} {e : SessionError} {spans : List Span}
    {events : List Event} (h : connect n o = (.error e, spans, events)) :
    e ≠ .noAuthMechanism := by
  unfold connect at h
  split at h
  · split at h
    · next untrusted =>
      cases h
      exact Environment.trust_ne untrusted
    · next trust _ _ =>
      cases opened : n.connectSecure o.address o.host trust with
      | ok f =>
        rw [opened] at h
        cases h
      | error stop =>
        rw [opened] at h
        cases h
        exact Delivery.stopped_ne (Environment.connectSecure_ne opened)
  · cases opened : n.connect o.address with
    | ok f =>
      rw [opened] at h
      cases h
    | error stop =>
      rw [opened] at h
      cases h
      exact Delivery.stopped_ne (Network.connect_ne opened)

/-- **No delivery finds itself without a mechanism.** -/
theorem outcome_ne_noAuthMechanism (n : Environment) (t : Ready) :
    (t.deliver n).outcome ≠ .error (.session .noAuthMechanism) := by
  rcases hc : connect n t.options with ⟨e | f, spans, events⟩
  · rw [deliver, execute, hc]
    exact fun same => connect_ne hc (TransferError.session.inj (Except.error.inj same))
  · have avoids := Delivery.avoids_dialogue t
      (t.opened f (n.blockage t.options.address) spans events)
    rw [deliver_eq hc]
    dsimp only
    rcases ended : ((Delivery.dialogue t).run _).1 with e | u
    · rw [ended] at avoids
      intro same
      exact avoids (congrArg Except.error (TransferError.session.inj (Except.error.inj same)))
    · intro same
      cases same

end Transfer.Ready

/-! ## The release of credentials -/

namespace Delivery

/-- **The release of credentials.** `steps` are the lines of AUTH, `answers` the whole replies that
the peer still sends, and `after` is the delivery behind AUTH.

* There are none without a user name or a mechanism on offer; PLAIN is used if it is on offer, and
  LOGIN if it is and PLAIN is not.
* Each line is written only behind the right answer to the one before: 334, and 235 to the last.
  The first line that is answered otherwise, or not at all, is the last one written, and its fault
  is the result. So without lines nothing is written and the delivery goes on, and else it goes on
  exactly if the last line is reached and answered by 235.
* By PLAIN, one line is written, with both credentials. By LOGIN, the user name is written behind
  one challenge and the password behind two.
* What is checked in front of AUTH is what AUTH goes by, so no delivery fails for want of a
  mechanism.

The peer is one that takes what is written to it, except for the last point. -/
theorem credentials_released (reply : Reply) (username password : String) {d : Delivery}
    (unshut : d.session.shut = false) (taken : d.session.blockage = none) :
    let steps := Exchange.auth username password (some reply)
    let answers := (replies d.view.stream).1
    let after := (authenticate reply username password).run d
    ((steps = [] ↔ username = "" ∨ ¬reply.Offers "PLAIN" ∧ ¬reply.Offers "LOGIN") ∧
      (steps = Exchange.plain username password ↔ username ≠ "" ∧ reply.Offers "PLAIN") ∧
      (steps = Exchange.login username password ↔
        username ≠ "" ∧ ¬reply.Offers "PLAIN" ∧ reply.Offers "LOGIN")) ∧
    (∃ k, Exchange.Released d.limits d.session.ending answers (replies d.view.stream).2 steps k
        after.1 ∧
      (∀ i < k, answers[i]?.map Reply.code = some (Exchange.awaited steps i)) ∧
      after.2.session.written = d.session.written ++ Exchange.octets (steps.take (k + 1)) ∧
      (steps ≠ [] → (after.1 = .ok () ↔ steps.length ≤ k + 1 ∧
        answers[steps.length - 1]?.map Reply.code = some 235))) ∧
    (steps = [] → after.1 = .ok () ∧ after.2.session.written = d.session.written) ∧
    (steps = Exchange.plain username password →
      after.2.session.written = d.session.written ++
        Wire.line ("AUTH PLAIN " ++ Wire.plain username password)) ∧
    (steps = Exchange.login username password →
      after.2.session.written = d.session.written ++ (Wire.line "AUTH LOGIN" ++
        if answers[0]?.map Reply.code = some 334 then
          Wire.line (Wire.base64 (Wire.text username)) ++
            if answers[1]?.map Reply.code = some 334 then
              Wire.line (Wire.base64 (Wire.text password))
            else []
        else [])) ∧
    ((((Talk.authenticate reply username password).run d.session).1 =
        .error (.failed .noAuthMechanism) ↔ offersCredentials reply = false) ∧
      (offersCredentials reply = false ↔ ¬reply.Offers "PLAIN" ∧ ¬reply.Offers "LOGIN") ∧
      ∀ (n : Environment) (t : Transfer.Ready),
        (t.deliver n).outcome ≠ .error (.session .noAuthMechanism)) := by
  intro steps answers after
  obtain ⟨k, ends, answered, written⟩ :=
    released reply username password (Session.isOpen_iff.mpr ⟨unshut, taken⟩)
  refine ⟨⟨Exchange.auth_eq_nil, Exchange.auth_eq_plain, Exchange.auth_eq_login⟩,
    ⟨k, ends, answered, written, ends.ok_iff_last answered⟩, fun none => ?_, fun plain => ?_,
    fun login => ?_, Talk.authenticate_eq_noAuthMechanism reply username password d.session,
    offersCredentials_eq_false, Transfer.Ready.outcome_ne_noAuthMechanism⟩
  · have nothing : Exchange.octets (steps.take (k + 1)) = [] := by
      rw [none, List.take_nil, Exchange.octets_nil]
    have all : k = steps.length := by
      have whole := ends.le
      have length : steps.length = 0 := by rw [none]; rfl
      exact Nat.le_antisymm whole (by omega)
    exact ⟨ends.ok_iff.mpr all, written.trans (by rw [nothing, List.append_nil])⟩
  · have one : steps.take (k + 1) = Exchange.plain username password := by
      rw [plain, List.take_of_length_le (Nat.le_add_left 1 k)]
    rw [← Exchange.octets_plain, ← one]
    exact written
  · have chosen : Exchange.auth username password (some reply) =
        Exchange.login username password := login
    rw [chosen] at ends answered written
    rw [Exchange.octets_login_take ends answered] at written
    exact written

/-- A server that offers LOGIN, asks for the user name and then keeps silent gets the user name and
no password. -/
theorem credentials_released_silent :
    let reply : Reply := ⟨250, ["mx", "SIZE 1000", "auth=CRAM-MD5 login"]⟩
    let d : Delivery :=
      ⟨Session.start ⟨[Wire.text "334 \r\n"], .silent⟩, Payload.ofBytes [], .standard, []⟩
    d.session.shut = false ∧ d.session.blockage = none ∧
      Exchange.auth "ann" "secret" (some reply) = Exchange.login "ann" "secret" ∧
      ((authenticate reply "ann" "secret").run d).2.session.written =
        "AUTH LOGIN\r\nYW5u\r\n".toUTF8.data.toList := by
  intro reply d
  obtain ⟨⟨-, -, login⟩, -, -, -, written, -⟩ :=
    credentials_released reply "ann" "secret" (d := d) rfl rfl
  have plain : ¬reply.Offers "PLAIN" := by decide
  have offered : reply.Offers "LOGIN" := by decide
  have chosen := login.mpr ⟨by decide, plain, offered⟩
  have answers : (replies d.view.stream).1 = [⟨334, [""]⟩] := by decide +kernel
  refine ⟨rfl, rfl, chosen, ?_⟩
  rw [written chosen, answers]
  decide +kernel

end Delivery

end Outbox
