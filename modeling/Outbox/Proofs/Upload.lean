import Outbox.Proofs.Transparency
import Outbox.Session

/-!
# Uploads

What an encoder writes does not show where its chunks were cut.

* `Encoder.Call`, `Encoder.segments`: calls on one encoder, and the messages that they finish and
  leave open. `Encoder.calls_start`: each message is encoded as if it were alone and in one piece.
* `Session.isOpen`: the connection is not shut, and the peer takes all that is written.
* `Session.upload_eq`: an open connection gets the encoded form of all that the payload had not yet
  served, closed by the lone dot, and the payload is then drained.
* `chunked_upload`: **both together, for chunks of any size**.
-/

set_option autoImplicit false

namespace Outbox

/-! ## Messages through one encoder -/

namespace Encoder

/-- A call on an encoder. -/
inductive Call where
  | encode (chunk : Bytes)
  | finish
  deriving DecidableEq, Repr

/-- What a call appends, and the encoder behind it. -/
def call (e : Encoder) : Call → Bytes × Encoder
  | .encode chunk => e.encode chunk
  | .finish => e.finish

/-- What calls append one after the other, and the encoder behind the last. -/
def calls (e : Encoder) : List Call → Bytes × Encoder
  | [] => ([], e)
  | c :: cs => ((e.call c).1 ++ ((e.call c).2.calls cs).1, ((e.call c).2.calls cs).2)

/-- The chunks of each message that calls finish, and of the one that they leave open. -/
def segments : List Call → List (List Bytes) × List Bytes
  | [] => ([], [])
  | .finish :: cs => ([] :: (segments cs).1, (segments cs).2)
  | .encode chunk :: cs =>
    match segments cs with
    | ([], last) => ([], chunk :: last)
    | (first :: done, last) => ((chunk :: first) :: done, last)

/-- Calls are their segments, each but the last with its end. -/
theorem segments_join (cs : List Call) :
    (segments cs).1.flatMap (fun chunks => chunks.map Call.encode ++ [.finish]) ++
      (segments cs).2.map Call.encode = cs := by
  induction cs with
  | nil => rfl
  | cons c cs ih =>
    cases c with
    | finish =>
      rw [segments, List.flatMap_cons, List.append_assoc, ih]
      rfl
    | encode chunk =>
      conv => rhs; rw [← ih]
      rw [segments]
      obtain ⟨done, last⟩ := segments cs
      cases done with
      | nil => rfl
      | cons first done => rfl

theorem message_eq_append (data : Bytes) :
    message data = (start.encode data).1 ++ (start.encode data).2.finish.1 := rfl

/-- The data of the first message goes on where the encoder stands. Every later one starts
afresh. -/
theorem calls_eq (e : Encoder) (cs : List Call) :
    e.calls cs =
      match segments cs with
      | ([], last) => e.encode last.flatten
      | (first :: done, last) =>
        ((e.encode first.flatten).1 ++ (e.encode first.flatten).2.finish.1 ++
            done.flatMap (fun chunks => message chunks.flatten) ++ (start.encode last.flatten).1,
          (start.encode last.flatten).2) := by
  induction cs generalizing e with
  | nil => rfl
  | cons c cs ih =>
    cases c with
    | finish =>
      rw [calls, call, ih, segments]
      -- what follows an end is the rest of the segments, from the initial state
      have fresh : e.finish.2 = start := rfl
      rw [fresh]
      obtain ⟨done, last⟩ := segments cs
      cases done with
      | nil => simp
      | cons first done => simp [message_eq_append]
    | encode chunk =>
      rw [calls, call, ih, segments]
      obtain ⟨done, last⟩ := segments cs
      cases done with
      | nil =>
        dsimp only
        rw [List.flatten_cons, encode_append]
      | cons first done =>
        dsimp only
        rw [List.flatten_cons, encode_append]
        simp

/-- **Each message is encoded as if it were alone and in one piece.** -/
theorem calls_start (cs : List Call) :
    start.calls cs =
      ((segments cs).1.flatMap (fun chunks => message chunks.flatten) ++
          (start.encode (segments cs).2.flatten).1,
        (start.encode (segments cs).2.flatten).2) := by
  rw [calls_eq]
  obtain ⟨done, last⟩ := segments cs
  cases done with
  | nil => rfl
  | cons first done =>
    dsimp only
    rw [List.flatMap_cons, message_eq_append]

end Encoder

/-! ## A payload in chunks -/

namespace Session

/-- Whether the peer takes whatever is written. -/
def isOpen (s : Session) : Bool := !s.shut && s.blockage.isNone

theorem isOpen_iff {s : Session} : s.isOpen = true ↔ s.shut = false ∧ s.blockage = none := by
  rw [isOpen, Bool.and_eq_true, Bool.not_eq_true', Option.isNone_iff_eq_none]

theorem write_open {s : Session} (hs : s.isOpen = true) (data : Bytes) :
    s.write data = (.ok (), { s with written := s.written ++ data }) := by
  obtain ⟨unshut, free⟩ := isOpen_iff.mp hs
  simp [write, unshut, free]

/-- **An upload is the payload in one piece**, however it is cut into chunks. -/
theorem upload_eq {size : Nat} (hsize : 0 < size) (e : Encoder) (sent : Nat) (p : Payload)
    (s : Session) (hs : s.isOpen = true) :
    upload size e sent p s = (.ok (sent + p.remaining), p.drained,
      { s with written := s.written ++ (e.encode p.unserved).1 ++
          (e.encode p.unserved).2.finish.1 }) := by
  induction hn : p.remaining using Nat.strongRecOn generalizing e sent p s with
  | _ n ih =>
    rw [upload]
    split
    · rename_i hlt
      have hless : (p.take size).2.remaining < n := by
        rw [Payload.remaining_take]
        omega
      have hcount : sent + min p.remaining size + (p.take size).2.remaining = sent + n := by
        rw [Payload.remaining_take]
        omega
      have hcut := Encoder.encode_append e (p.unserved.take size) (p.unserved.drop size)
      rw [List.take_append_drop] at hcut
      rw [write_open hs, Payload.take_eq]
      dsimp only
      rw [ih _ hless _ _ _ _ (by exact hs) rfl, Payload.unserved_take, hcut, hcount]
      simp [Payload.drained]
    · rename_i hlt
      have hzero : p.remaining = 0 := by omega
      have hnil : p.unserved = [] := by
        rw [← List.length_eq_zero_iff, Payload.length_unserved, hzero]
      rw [write_open hs, hnil, ← hn, hzero]
      simp [← Payload.eq_drained hzero]

/-- A session behind the upload of a payload, before the reply. -/
def uploaded (p : Payload) (s : Session) : Session :=
  { s with
    written := s.written ++ Encoder.message p.unserved
    events := s.events ++
      [Event.outgoing ("<" ++ toString p.remaining ++ " bytes of message data>")] }

/-- Sending a payload writes its message, tells its size and reads the reply. -/
theorem sendInChunks_eq {size : Nat} (hsize : 0 < size) (p : Payload) {s : Session}
    (hs : s.isOpen = true) :
    s.sendInChunks size p =
      ((s.uploaded p).readReply.1, p.drained, (s.uploaded p).readReply.2) := by
  rw [sendInChunks, upload_eq hsize _ _ _ _ hs]
  simp [Encoder.message, uploaded, report]

theorem sendPayload_eq (p : Payload) {s : Session} (hs : s.isOpen = true) :
    s.sendPayload p =
      ((s.uploaded p).readReply.1, p.drained, (s.uploaded p).readReply.2) :=
  sendInChunks_eq (by decide) p hs

end Session

/-- **Chunks do not show.** The calls on one encoder are the segments between its ends, and they
append what a fresh encoder appends for the data of each segment in one piece. So does a payload
that is sent in chunks of any size: an open connection gets one message of all that was not yet
served, that many octets are counted and reported, and nothing is left to serve. -/
theorem chunked_upload :
    (∀ cs : List Encoder.Call,
      cs = (Encoder.segments cs).1.flatMap
          (fun chunks => chunks.map Encoder.Call.encode ++ [.finish]) ++
        (Encoder.segments cs).2.map Encoder.Call.encode ∧
      Encoder.start.calls cs =
        ((Encoder.segments cs).1.flatMap (fun chunks => Encoder.message chunks.flatten) ++
            (Encoder.start.encode (Encoder.segments cs).2.flatten).1,
          (Encoder.start.encode (Encoder.segments cs).2.flatten).2)) ∧
    (∀ e : Encoder, e.finish.2 = Encoder.start) ∧
    ∀ (size : Nat) (p : Payload) (s : Session), 0 < size → s.shut = false → s.blockage = none →
      Session.upload size Encoder.start 0 p s =
        (.ok p.unserved.length, p.drained,
          { s with written := s.written ++ Encoder.message p.unserved }) ∧
      s.sendInChunks size p =
        (let told := { s with
            written := s.written ++ Encoder.message p.unserved
            events := s.events ++ [Event.outgoing
              ("<" ++ toString p.unserved.length ++ " bytes of message data>")] }
        (told.readReply.1, p.drained, told.readReply.2)) ∧
      p.drained.isExhausted = true := by
  refine ⟨fun cs => ⟨(Encoder.segments_join cs).symm, Encoder.calls_start cs⟩, fun e => rfl, ?_⟩
  intro size p s hsize unshut free
  have hs : s.isOpen = true := Session.isOpen_iff.mpr ⟨unshut, free⟩
  refine ⟨?_, ?_, rfl⟩
  · rw [Session.upload_eq hsize _ _ _ _ hs, Payload.length_unserved, Nat.zero_add,
      Encoder.message_eq_append, List.append_assoc]
  · rw [Session.sendInChunks_eq hsize p hs, Payload.length_unserved]
    rfl

/-- A dot, a bare LF and a dot, one octet at a time. -/
theorem chunked_upload_octets :
    let p := Payload.ofBytes [46, 10, 46]
    let s := Session.start ⟨[], .closed⟩
    0 < 1 ∧ s.shut = false ∧ s.blockage = none ∧
      Session.upload 1 Encoder.start 0 p s =
        (.ok 3, p.drained,
          { s with written := [46, 46, 13, 10, 46, 46, 13, 10, 46, 13, 10] }) :=
  ⟨by decide, rfl, rfl,
    (chunked_upload.2.2 1 (Payload.ofBytes [46, 10, 46]) (Session.start ⟨[], .closed⟩)
      (by decide) rfl rfl).1⟩

end Outbox
