import Mathlib.Data.List.Forall2
import Outbox.Delivery
import Outbox.Proofs.Replies
import Outbox.Proofs.Upload
import Outbox.Proofs.Wire

/-!
# Dialogues

What shows of a delivery under way, without the cuts of its stream, and what can be said of any
list of things to send:

* `Dialogue`: the stream still to be read, what is written and logged so far, the payload.
* `Sent`: what a client sends, by the lines that travel.
* `Exchange`: one thing that it sends, with the codes that let it go on and what a failure of it is
  reported as.
* `Dialogue.play`: exchanges one after the other, up to the first that fails.
* `Dialogue.play_cases`: **how far a dialogue gets**. Some exchanges are answered by whole replies
  that are accepted. Then either all are through, or the next one was sent and failed, and nothing
  was sent behind it.
-/

set_option autoImplicit false

namespace Outbox

/-- What its peer, its log and its payload tell of a delivery. -/
structure Dialogue where
  stream : Bytes
  ending : Ending
  written : Bytes
  isOpen : Bool
  events : List Event
  payload : Payload

/-- What the log tells of a reply that was looked for. -/
def heard : Except Stop Reply → List Event
  | .ok r =>
    [⟨.trace, .incoming, toString r.code ++ " " ++ String.intercalate " " r.lines, [], []⟩]
  | .error _ => []

/-! ## Exchanges -/

/-- What a client sends. -/
inductive Sent where
  | nothing
  | line (text : String)
  | message (data : Bytes)
  deriving DecidableEq, Repr

namespace Sent

/-- The lines that are sent. Those of a message are stuffed, and a lone dot ends them. -/
def lines : Sent → List Bytes
  | nothing => []
  | line text => [Wire.text text]
  | message data => (bodyLines [] data).map stuff ++ [[dot]]

/-- What is sent, as it travels. -/
def octets (s : Sent) : Bytes := joinLines s.lines

theorem octets_line (text : String) : (line text).octets = Talk.line text := by
  rw [octets, lines, Talk.line_eq, Wire.line, joinLines, List.flatMap_singleton]
  rfl

theorem octets_message (data : Bytes) : (message data).octets = Encoder.message data := by
  rw [octets, lines, Encoder.message_eq, joinLines, joinLines, List.flatMap_append]
  rfl

def isMessage : Sent → Bool
  | message _ => true
  | _ => false

end Sent

/-- One thing that is sent, what the log tells of it, and the codes that let the dialogue go on.
`phase` and `limit` are what running out of time is reported under, `name` what a refusal is. -/
structure Exchange where
  phase : String
  limit : Timeouts → Duration
  name : String
  sent : Sent
  told : List Event
  accepts : Nat → Bool

namespace Exchange

/-- A reply that lets the dialogue go on. -/
def Accepts (x : Exchange) (r : Reply) : Prop := x.accepts r.code = true

/-- What an exchange is reported as that is not answered. -/
def stopped (limits : Timeouts) (x : Exchange) : Stop → SessionError
  | .failed e => e
  | .stalled => .timeout x.phase (x.limit limits)

/-- What an exchange is reported as that is answered by another code. -/
def refused (x : Exchange) (r : Reply) : SessionError :=
  .rejected x.name r.code (String.intercalate " " r.lines)

/-- What the result of an exchange means for the dialogue. -/
def verdict (limits : Timeouts) (x : Exchange) : Except Stop Reply → Except SessionError Reply
  | .error stop => .error (x.stopped limits stop)
  | .ok r => if x.accepts r.code then .ok r else .error (x.refused r)

/-- Why an exchange fails, given the reply to it, or else the rest of the stream, in which no reply
is whole. -/
def fault (limits : Timeouts) (ending : Ending) (rest : Bytes) (x : Exchange) :
    Option Reply → Option SessionError
  | some r => if x.accepts r.code then none else some (x.refused r)
  | none => match (nextReply ending rest).1 with
    | .error stop => some (x.stopped limits stop)
    | .ok _ => none

/-- All that some exchanges put on the connection. -/
def octets (xs : List Exchange) : Bytes := xs.flatMap (·.sent.octets)

/-- What the log tells of exchanges and the replies to them, as far as these go. -/
def log : List Exchange → List Reply → List Event
  | [], _ => []
  | x :: _, [] => x.told
  | x :: xs, r :: rs => x.told ++ heard (.ok r) ++ log xs rs

/-- How many exchanges are answered by whole replies that they accept, one after the other. -/
def reach : List Exchange → List Reply → Nat
  | x :: xs, r :: rs => if x.accepts r.code then reach xs rs + 1 else 0
  | _, _ => 0

/-- What exchanges leave of a payload: a message takes all of it. -/
def left (p : Payload) (xs : List Exchange) : Payload :=
  if xs.any (·.sent.isMessage) then p.drained else p

@[simp] theorem octets_nil : octets [] = [] := rfl

@[simp] theorem octets_cons (x : Exchange) (xs : List Exchange) :
    octets (x :: xs) = x.sent.octets ++ octets xs := rfl

theorem octets_append (xs ys : List Exchange) : octets (xs ++ ys) = octets xs ++ octets ys :=
  List.flatMap_append

@[simp] theorem left_nil (p : Payload) : left p [] = p := rfl

theorem left_cons (p : Payload) (x : Exchange) (xs : List Exchange) :
    left p (x :: xs) = left (left p [x]) xs := by
  unfold left
  cases h : x.sent.isMessage <;> simp [h, Payload.drained]

end Exchange

/-! ## Runs -/

namespace Dialogue

/-- Takes the next reply. -/
def hear (v : Dialogue) : Except Stop Reply × Dialogue :=
  let (result, rest) := nextReply v.ending v.stream
  (result, { v with stream := rest, events := v.events ++ heard result })

/-- Sends something. -/
def say (v : Dialogue) (x : Exchange) : Dialogue :=
  { v with
    written := v.written ++ x.sent.octets
    events := v.events ++ x.told
    payload := Exchange.left v.payload [x] }

/-- Sends something and takes the reply. -/
def exchange (v : Dialogue) (x : Exchange) : Except Stop Reply × Dialogue := (v.say x).hear

/-- Goes through exchanges until one fails. -/
def play (limits : Timeouts) (v : Dialogue) : List Exchange → Except SessionError Unit × Dialogue
  | [] => (.ok (), v)
  | x :: xs =>
    match x.verdict limits (v.exchange x).1 with
    | .error e => (.error e, (v.exchange x).2)
    | .ok _ => (v.exchange x).2.play limits xs

variable (limits : Timeouts) (v : Dialogue)

@[simp] theorem play_nil : v.play limits [] = (.ok (), v) := rfl

theorem play_cons (x : Exchange) (xs : List Exchange) :
    v.play limits (x :: xs) = match x.verdict limits (v.exchange x).1 with
      | .error e => (.error e, (v.exchange x).2)
      | .ok _ => (v.exchange x).2.play limits xs := by
  rw [play]

/-- More exchanges follow only behind a run that did not fail. -/
theorem play_append (xs ys : List Exchange) :
    v.play limits (xs ++ ys) = match v.play limits xs with
      | (.error e, v') => (.error e, v')
      | (.ok _, v') => v'.play limits ys := by
  induction xs generalizing v with
  | nil => rfl
  | cons x xs ih =>
    rw [List.cons_append, play_cons, play_cons]
    cases x.verdict limits (v.exchange x).1 with
    | error e => rfl
    | ok r => exact ih _

theorem isOpen_play (xs : List Exchange) : (v.play limits xs).2.isOpen = v.isOpen := by
  induction xs generalizing v with
  | nil => rfl
  | cons x xs ih =>
    rw [play_cons]
    cases x.verdict limits (v.exchange x).1 with
    | error e => rfl
    | ok r => exact ih _

/-- An exchange that is answered takes the first of the replies. -/
theorem exchange_of_cons (x : Exchange) {r : Reply} {rs : List Reply}
    (h : (replies v.stream).1 = r :: rs) :
    ∃ rest, replies rest = (rs, (replies v.stream).2) ∧
      v.exchange x = (.ok r, { v.say x with
        stream := rest
        events := v.events ++ x.told ++ heard (.ok r) }) := by
  cases hn : nextReply v.ending v.stream with
  | mk result rest =>
    cases result with
    | error stop =>
      rw [(replies_of_error hn).1] at h
      cases h
    | ok r' =>
      have hr := replies_of_ok hn
      rw [hr] at h ⊢
      obtain ⟨rfl, rfl⟩ := List.cons.inj h
      refine ⟨rest, rfl, ?_⟩
      simp [exchange, hear, say, hn]

/-- An exchange that is not answered leaves the stream as it is. -/
theorem exchange_of_nil (x : Exchange) (h : (replies v.stream).1 = []) :
    ∃ stop, nextReply v.ending (replies v.stream).2 = (.error stop, (replies v.stream).2) ∧
      v.exchange x = (.error stop, v.say x) := by
  cases hn : nextReply v.ending v.stream with
  | mk result rest =>
    cases result with
    | ok r =>
      rw [replies_of_ok hn] at h
      cases h
    | error stop =>
      obtain ⟨hr, rfl⟩ := replies_of_error hn
      refine ⟨stop, by rw [hr]; exact hn, ?_⟩
      simp [exchange, hear, say, hn, heard]

/-- A dialogue behind some exchanges and the replies to them. -/
def behind (v : Dialogue) (xs : List Exchange) (rs : List Reply) (rest : Bytes) : Dialogue :=
  { v with
    stream := rest
    written := v.written ++ Exchange.octets xs
    events := v.events ++ Exchange.log xs rs
    payload := Exchange.left v.payload xs }

/-- **How far a dialogue gets.** Some exchanges, as many as `Exchange.reach` counts, are answered by
whole replies that are accepted. Then either all are through, or the next one was sent and failed,
and nothing was sent behind it. -/
theorem play_cases (xs : List Exchange) :
    ∃ k, k = Exchange.reach xs (replies v.stream).1 ∧
      List.Forall₂ Exchange.Accepts (xs.take k) ((replies v.stream).1.take k) ∧
      ((k = xs.length ∧ ∃ rest,
          replies rest = ((replies v.stream).1.drop k, (replies v.stream).2) ∧
          v.play limits xs = (.ok (), v.behind xs ((replies v.stream).1.take k) rest)) ∨
        ∃ x e rest, xs[k]? = some x ∧
          x.fault limits v.ending (replies v.stream).2 (replies v.stream).1[k]? = some e ∧
          v.play limits xs = (.error e,
            v.behind (xs.take (k + 1)) ((replies v.stream).1.take (k + 1)) rest)) := by
  induction xs generalizing v with
  | nil =>
    refine ⟨0, by rw [Exchange.reach.eq_def], .nil, .inl ⟨rfl, v.stream, rfl, ?_⟩⟩
    simp [behind, Exchange.log]
  | cons x xs ih =>
    cases hr : (replies v.stream).1 with
    | nil =>
      obtain ⟨stop, hstop, hx⟩ := exchange_of_nil v x hr
      refine ⟨0, rfl, .nil, .inr ⟨x, x.stopped limits stop, v.stream, rfl,
        ?_, ?_⟩⟩
      · simp [Exchange.fault, hstop]
      · rw [play_cons, hx]
        simp [Exchange.verdict, Exchange.log, behind, say]
    | cons r rs =>
      obtain ⟨rest, hrest, hx⟩ := exchange_of_cons v x hr
      by_cases ha : x.accepts r.code = true
      · obtain ⟨k, hk, hall, hcases⟩ := ih (v.exchange x).2
        rw [hx] at hk hall hcases
        dsimp only at hk hall hcases
        rw [hrest] at hk hall hcases
        refine ⟨k + 1, by rw [Exchange.reach, if_pos ha, ← hk], .cons ha hall, ?_⟩
        have hplay : v.play limits (x :: xs) = (v.exchange x).2.play limits xs := by
          rw [play_cons, hx]
          simp [Exchange.verdict, ha]
        rcases hcases with ⟨hlen, rest', hrest', hp⟩ | ⟨y, e, rest', hy, hf, hp⟩
        · refine .inl ⟨by rw [hlen]; rfl, rest', hrest', ?_⟩
          rw [hplay, hx, hp]
          simp [Exchange.log, behind, say, Exchange.left_cons _ x xs]
        · refine .inr ⟨y, e, rest', hy, hf, ?_⟩
          rw [hplay, hx, hp]
          simp [Exchange.log, behind, say, Exchange.left_cons _ x (xs.take (k + 1))]
      · refine ⟨0, by rw [Exchange.reach, if_neg ha], .nil, .inr ⟨x, x.refused r, rest, rfl, ?_, ?_⟩⟩
        · simp [Exchange.fault, ha]
        · rw [play_cons, hx]
          simp [Exchange.verdict, ha, Exchange.log, behind, say]

/-- Exchanges that are all through leave of the payload what they leave of it. -/
theorem payload_play (xs : List Exchange) (h : (v.play limits xs).1 = .ok ()) :
    (v.play limits xs).2.payload = Exchange.left v.payload xs := by
  obtain ⟨k, -, -, ⟨-, rest, -, hp⟩ | ⟨x, e, rest, -, -, hp⟩⟩ := play_cases limits v xs
  · rw [hp]
    rfl
  · rw [hp] at h
    cases h

/-- A reply that is taken is the first of the replies. -/
theorem replies_hear {r : Reply} (h : v.hear.1 = .ok r) :
    (replies v.stream).1 = r :: (replies v.hear.2.stream).1 := by
  cases hn : nextReply v.ending v.stream with
  | mk result rest =>
    have heard : v.hear = (result, { v with
        stream := rest
        events := v.events ++ Outbox.heard result }) := by
      rw [hear, hn]
    rw [heard] at h ⊢
    obtain rfl : result = .ok r := h
    rw [replies_of_ok hn]

end Dialogue

end Outbox
