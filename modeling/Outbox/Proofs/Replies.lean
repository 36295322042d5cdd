import Outbox.Inbox

/-!
# Replies off a stream

A peer's octets arrive in pieces, and every piece makes the reader start over with all it holds.
None of it shows:

* `scan_append`: octets behind a reply, or behind a malformed line, change nothing about it.
* `nextReply`: the next reply of a whole stream, with the first 1048576 octets as the most it may
  fill.
* `Inbox.readReply_eq`: reading from a buffer and any pieces is `nextReply` of what the buffer holds
  followed by the pieces; `Inbox.readReplies_eq` is the same for any number of replies.
* `Inbox.Fetches`: the reads on the way to a reply. Each takes at least one octet, into room that is
  there (`Inbox.Fetches.count_le`).
-/

set_option autoImplicit false

namespace Outbox

namespace Reply

/-! ## Prefixes -/

/-- **A verdict stands** whatever arrives behind the octets it was found in. -/
theorem scan_append {line : Bytes} {seen : Partial} {consumed : Nat} {a : Bytes}
    (h : scan line seen consumed a ≠ .ok none) (b : Bytes) :
    scan line seen consumed (a ++ b) = scan line seen consumed a := by
  induction a generalizing line seen consumed with
  | nil => exact absurd rfl h
  | cons c a ih =>
    simp only [List.cons_append, scan] at h ⊢
    split
    · rename_i hc
      rw [if_pos hc] at h
      exact ih h
    · rename_i hc
      rw [if_neg hc] at h
      split
      · rename_i he
        rw [if_pos he] at h
        exact ih h
      · rename_i he
        rw [if_neg he] at h
        split
        · rfl
        · rename_i l hl
          rw [hl] at h
          dsimp only at h
          split
          · rfl
          · rename_i code texts hadd
            rw [hadd] at h
            dsimp only at h
            split
            · rfl
            · rename_i hlast
              rw [if_neg hlast] at h
              exact ih h

theorem ofBytes_append {a : Bytes} (h : ofBytes a ≠ .ok none) (b : Bytes) :
    ofBytes (a ++ b) = ofBytes a := scan_append h b

/-- A reply ends within the octets it was found in, and takes some of them. -/
theorem scan_consumed {line : Bytes} {seen : Partial} {consumed n : Nat} {a : Bytes} {r : Reply}
    (h : scan line seen consumed a = .ok (some (r, n))) :
    consumed < n ∧ n ≤ consumed + a.length := by
  induction a generalizing line seen consumed with
  | nil => simp [scan] at h
  | cons c a ih =>
    rw [List.length_cons]
    simp only [scan] at h
    split at h
    · have := ih h
      omega
    · split at h
      · have := ih h
        omega
      · split at h
        · cases h
        · split at h
          · cases h
          · split at h
            · simp only [Except.ok.injEq, Option.some.injEq, Prod.mk.injEq] at h
              omega
            · have := ih h
              omega

theorem ofBytes_consumed {a : Bytes} {r : Reply} {n : Nat} (h : ofBytes a = .ok (some (r, n))) :
    0 < n ∧ n ≤ a.length := by
  have := scan_consumed h
  omega

end Reply

/-! ## Streams -/

/-- How a read ends that finds nothing more. -/
def Ending.stop : Ending → Stop
  | .closed => .failed .closed
  | .silent => .stalled
  | .broken fault => .failed (.io fault)

/-- The next reply of a stream and the stream behind it. A reply is looked for in as much of the
stream as a buffer can hold; where there is none, the stream stays as it is. -/
def nextReply (ending : Ending) (stream : Bytes) : Except Stop Reply × Bytes :=
  match Reply.ofBytes (stream.take Inbox.maxCapacity) with
  | .error e => (.error (.failed e), stream)
  | .ok (some (r, n)) => (.ok r, stream.drop n)
  | .ok none =>
    (.error (if Inbox.maxCapacity ≤ stream.length
      then .failed (.badReply (.tooLarge Inbox.maxCapacity)) else ending.stop), stream)

/-- The next replies of a stream, so many of them. -/
def nextReplies (ending : Ending) : Nat → Bytes → List (Except Stop Reply) × Bytes
  | 0, stream => ([], stream)
  | n + 1, stream =>
    ((nextReply ending stream).1 :: (nextReplies ending n (nextReply ending stream).2).1,
      (nextReplies ending n (nextReply ending stream).2).2)

/-- All whole replies in front of a stream, and what is left behind them. -/
def replies (stream : Bytes) : List Reply × Bytes :=
  match _h : Reply.ofBytes (stream.take Inbox.maxCapacity) with
  | .ok (some (r, n)) => (r :: (replies (stream.drop n)).1, (replies (stream.drop n)).2)
  | .ok none => ([], stream)
  | .error _ => ([], stream)
termination_by stream.length
decreasing_by
  all_goals
    have hn := Reply.ofBytes_consumed _h
    rw [List.length_take] at hn
    rw [List.length_drop]
    omega

theorem replies_eq (stream : Bytes) :
    replies stream = match Reply.ofBytes (stream.take Inbox.maxCapacity) with
      | .ok (some (r, n)) => (r :: (replies (stream.drop n)).1, (replies (stream.drop n)).2)
      | .ok none => ([], stream)
      | .error _ => ([], stream) := by
  rw [replies]
  split <;> rename_i h <;> rw [h]

/-- The first of the replies is the next one. -/
theorem replies_of_ok {ending : Ending} {stream rest : Bytes} {r : Reply}
    (h : nextReply ending stream = (.ok r, rest)) :
    replies stream = (r :: (replies rest).1, (replies rest).2) := by
  unfold nextReply at h
  rw [replies_eq]
  split at h
  · cases h
  · rename_i hr
    cases h
    rw [hr]
  · cases h

/-- Without a next reply there are none, and the stream stays. -/
theorem replies_of_error {ending : Ending} {stream rest : Bytes} {e : Stop}
    (h : nextReply ending stream = (.error e, rest)) :
    replies stream = ([], stream) ∧ rest = stream := by
  unfold nextReply at h
  rw [replies_eq]
  split at h
  · rename_i hr
    cases h
    rw [hr]
    exact ⟨rfl, rfl⟩
  · cases h
  · rename_i hr
    cases h
    rw [hr]
    exact ⟨rfl, rfl⟩

/-! ## Single reads -/

namespace Inflow

/-- Nothing is read only if nothing is left. -/
theorem read_eq_none {room : Nat} {ps : List Bytes} (h : read room ps = none) :
    ps.flatten = [] := by
  induction ps with
  | nil => rfl
  | cons p ps ih =>
    cases p with
    | nil => exact ih h
    | cons b piece =>
      simp only [read] at h
      split at h <;> cases h

/-- What is read stands at the front of what is left. -/
theorem read_flatten {room : Nat} {ps left : List Bytes} {data : Bytes}
    (h : read room ps = some (data, left)) : data ++ left.flatten = ps.flatten := by
  induction ps with
  | nil => cases h
  | cons p ps ih =>
    cases p with
    | nil => exact ih h
    | cons b piece =>
      simp only [read] at h
      split at h <;> simp only [Option.some.injEq, Prod.mk.injEq] at h <;> obtain ⟨rfl, rfl⟩ := h
      · rfl
      · rw [List.flatten_cons, ← List.append_assoc, List.take_append_drop, List.flatten_cons]

/-- A read into some room gets something. -/
theorem read_pos {room : Nat} (hr : 0 < room) {ps left : List Bytes} {data : Bytes}
    (h : read room ps = some (data, left)) : 0 < data.length := by
  induction ps with
  | nil => cases h
  | cons p ps ih =>
    cases p with
    | nil => exact ih h
    | cons b piece =>
      simp only [read] at h
      split at h <;> simp only [Option.some.injEq, Prod.mk.injEq] at h <;> obtain ⟨rfl, -⟩ := h
      · simp
      · rw [List.length_take, List.length_cons]
        omega

end Inflow

namespace Inbox

/-- What is still to be read: what is held and what has yet to arrive. -/
def stream (i : Inbox) (pieces : List Bytes) : Bytes := i.held ++ pieces.flatten

theorem maxCapacity_eq : maxCapacity = 1048576 := by decide

theorem held_le (i : Inbox) : i.held.length ≤ maxCapacity := Nat.le_trans i.fits i.capacity_le

/-- The buffer stops growing only when it is as large as it may be, and full. -/
theorem makeRoom_eq_none {i : Inbox} (h : i.makeRoom = none) : i.held.length = maxCapacity := by
  unfold makeRoom at h
  split at h
  · cases h
  · rename_i hfull
    split at h
    · cases h
    · rename_i hd
      have hmax : i.doublings = maxDoublings := Nat.le_antisymm i.doublings_le (Nat.not_lt.1 hd)
      refine Nat.le_antisymm i.held_le ?_
      rw [maxCapacity, ← hmax]
      exact Nat.not_lt.1 hfull

/-- A buffer with room holds less than the largest one could. -/
theorem held_lt {i : Inbox} (h : 0 < i.room) : i.held.length < maxCapacity := by
  have := i.capacity_le
  unfold room at h
  omega

/-- All that is held is among the first octets of the stream. -/
theorem take_stream (i : Inbox) (pieces : List Bytes) :
    ∃ more, (i.stream pieces).take maxCapacity = i.held ++ more := by
  refine ⟨pieces.flatten.take (maxCapacity - i.held.length), ?_⟩
  rw [stream, List.take_append, List.take_of_length_le i.held_le]

/-- What the buffer alone tells about the next reply holds of the whole stream. -/
theorem ofBytes_take_stream {i : Inbox} (h : Reply.ofBytes i.held ≠ .ok none)
    (pieces : List Bytes) :
    Reply.ofBytes ((i.stream pieces).take maxCapacity) = Reply.ofBytes i.held := by
  obtain ⟨more, he⟩ := i.take_stream pieces
  rw [he, Reply.ofBytes_append h]

/-! ## Single turns -/

/-- A read moves the front of what has yet to arrive to the end of what is held. -/
theorem stream_fetch {i j : Inbox} {pieces left : List Bytes} {data : Bytes}
    (he : j.held = i.held) (hr : Inflow.read j.room pieces = some (data, left)) :
    (j.add data (length_read hr)).stream left = i.stream pieces := by
  show (j.held ++ data) ++ left.flatten = i.held ++ pieces.flatten
  rw [he, List.append_assoc, Inflow.read_flatten hr]

section
variable {i j : Inbox} {pieces left : List Bytes} {data : Bytes} (ending : Ending)
  (h : Reply.ofBytes i.held = .ok none)
include h

/-- A turn that finds the largest buffer full. -/
theorem readReply_full (hm : i.makeRoom = none) :
    i.readReply ending pieces =
      (.error (.failed (.badReply (.tooLarge maxCapacity))), i, pieces) := by
  rw [readReply.eq_def, h]
  dsimp only
  split
  · rfl
  · rename_i hsome
    rw [hm] at hsome
    cases hsome

/-- A turn that finds nothing more to read. -/
theorem readReply_ended {hj : 0 < j.room ∧ j.held = i.held} (hm : i.makeRoom = some ⟨j, hj⟩)
    (hr : Inflow.read j.room pieces = none) :
    i.readReply ending pieces = (.error ending.stop, j, []) := by
  rw [readReply.eq_def, h]
  dsimp only
  split
  · rename_i hnone
    rw [hm] at hnone
    cases hnone
  · rename_i hsome
    rw [hm] at hsome
    cases hsome
    split
    · cases ending <;> rfl
    · rename_i hread
      rw [hr] at hread
      cases hread

/-- A turn that reads something. -/
theorem readReply_fetch {hj : 0 < j.room ∧ j.held = i.held} (hm : i.makeRoom = some ⟨j, hj⟩)
    (hr : Inflow.read j.room pieces = some (data, left)) :
    i.readReply ending pieces = (j.add data (length_read hr)).readReply ending left := by
  rw [readReply.eq_def, h]
  dsimp only
  split
  · rename_i hnone
    rw [hm] at hnone
    cases hnone
  · rename_i hsome
    rw [hm] at hsome
    cases hsome
    split
    · rename_i hread
      rw [hr] at hread
      cases hread
    · rename_i hread
      rw [hr] at hread
      cases hread
      rfl

end

/-- **However the stream is cut**, reading a reply gives the next one of the stream and leaves the
stream behind it. -/
theorem readReply_eq (ending : Ending) (i : Inbox) (pieces : List Bytes) :
    ((i.readReply ending pieces).1,
      (i.readReply ending pieces).2.1.stream (i.readReply ending pieces).2.2) =
      nextReply ending (i.stream pieces) := by
  induction i, pieces using readReply.induct with
  | case1 i pieces e h =>
    have hne : Reply.ofBytes i.held ≠ .ok none := by rw [h]; exact fun he => by cases he
    rw [readReply.eq_def, h, nextReply, ofBytes_take_stream hne, h]
  | case2 i pieces r n h =>
    have hne : Reply.ofBytes i.held ≠ .ok none := by rw [h]; exact fun he => by cases he
    rw [readReply.eq_def, h, nextReply, ofBytes_take_stream hne, h]
    have hn := (Reply.ofBytes_consumed h).2
    simp only [stream, Inbox.drop, List.drop_append_of_le_length hn]
  | case3 i pieces h hfull =>
    have hlen := makeRoom_eq_none hfull
    have htake : (i.stream pieces).take maxCapacity = i.held := by
      rw [stream, ← hlen, List.take_left]
    have hle : maxCapacity ≤ (i.stream pieces).length := by
      rw [stream, List.length_append]
      omega
    rw [readReply_full ending h hfull, nextReply, htake, h]
    simp only [if_pos hle]
  | case4 i pieces h j hj he hroom hread =>
    have hheld : i.stream pieces = i.held := by
      rw [stream, Inflow.read_eq_none hread, List.append_nil]
    have hlt := held_lt hj
    rw [he] at hlt
    rw [readReply_ended ending h hroom hread, nextReply, hheld,
      List.take_of_length_le (Nat.le_of_lt hlt), h]
    simp only [if_neg (Nat.not_le.2 hlt)]
    rw [stream, he, List.flatten_nil, List.append_nil]
  | case5 i pieces h j hj he hroom data left hread ih =>
    rw [readReply_fetch ending h hroom hread, ih, stream_fetch he hread]

/-! ## Runs of replies -/

/-- Reads so many replies, one after the other. -/
def readReplies (ending : Ending) :
    Nat → Inbox → List Bytes → List (Except Stop Reply) × Inbox × List Bytes
  | 0, i, pieces => ([], i, pieces)
  | n + 1, i, pieces =>
    let (result, j, left) := i.readReply ending pieces
    let (results, k, rest) := readReplies ending n j left
    (result :: results, k, rest)

theorem readReplies_eq (ending : Ending) (n : Nat) (i : Inbox) (pieces : List Bytes) :
    ((readReplies ending n i pieces).1,
      (readReplies ending n i pieces).2.1.stream (readReplies ending n i pieces).2.2) =
      nextReplies ending n (i.stream pieces) := by
  induction n generalizing i pieces with
  | zero => rfl
  | succ n ih =>
    have hone := readReply_eq ending i pieces
    have hrest := ih (i.readReply ending pieces).2.1 (i.readReply ending pieces).2.2
    rw [Prod.mk.injEq] at hone hrest
    simp only [readReplies, nextReplies, ← hone.1, ← hone.2, ← hrest.1, ← hrest.2]

/-! ## The reads on the way -/

/-- So many reads lead from one buffer and its pieces to another, while a reply is looked for: what
is held has no whole reply, there is room, and something comes in. -/
inductive Fetches : Nat → Inbox → List Bytes → Inbox → List Bytes → Prop
  | here {i : Inbox} {pieces : List Bytes} : Fetches 0 i pieces i pieces
  | next {n : Nat} {i j k : Inbox} {pieces left rest : List Bytes} {data : Bytes}
      {hj : 0 < j.room ∧ j.held = i.held} :
      Reply.ofBytes i.held = .ok none → i.makeRoom = some ⟨j, hj⟩ →
      (hr : Inflow.read j.room pieces = some (data, left)) →
      Fetches n (j.add data (length_read hr)) left k rest → Fetches (n + 1) i pieces k rest

namespace Fetches

variable {n : Nat} {i j : Inbox} {pieces left : List Bytes}

/-- Reads lose nothing and add nothing. -/
theorem stream_eq (h : Fetches n i pieces j left) : j.stream left = i.stream pieces := by
  induction h with
  | here => rfl
  | @next n i j k pieces left rest data hj _ _ hr _ ih =>
    rw [ih, stream_fetch hj.2 hr]

/-- Reads are steps of the loop. -/
theorem readReply_eq (h : Fetches n i pieces j left) (ending : Ending) :
    i.readReply ending pieces = j.readReply ending left := by
  induction h with
  | here => rfl
  | next hnone hm hr _ ih => rw [readReply_fetch ending hnone hm hr, ih]

/-- **Every read takes an octet at least**, so there are no more reads than octets to come. -/
theorem count_le (h : Fetches n i pieces j left) :
    n + left.flatten.length ≤ pieces.flatten.length := by
  induction h with
  | here => omega
  | @next n i j k pieces left rest data hj _ _ hr _ ih =>
    have hpos := Inflow.read_pos hj.1 hr
    rw [← Inflow.read_flatten hr, List.length_append]
    omega

end Fetches

/-- **Replies do not depend on how the stream is cut.** For any buffer and any pieces still to
come, with the first 1048576 octets of the stream: a fault in them is reported, a whole reply is
taken off the stream, and otherwise the stream is too long or at its end. On the way nothing is
lost, what is held fits, the buffer stays within its limit, a read is offered some room, and there
are no more reads than octets. So any other way to cut the same stream gives the same replies, and
leaves the same stream, however many are read. -/
theorem readReply_of_stream (ending : Ending) (i : Inbox) (pieces : List Bytes) :
    (∀ e, Reply.ofBytes ((i.stream pieces).take 1048576) = .error e →
      (i.readReply ending pieces).1 = .error (.failed e)) ∧
    (∀ r n, Reply.ofBytes ((i.stream pieces).take 1048576) = .ok (some (r, n)) →
      (i.readReply ending pieces).1 = .ok r ∧ n ≤ (i.stream pieces).length ∧
        (i.readReply ending pieces).2.1.stream (i.readReply ending pieces).2.2 =
          (i.stream pieces).drop n) ∧
    (Reply.ofBytes ((i.stream pieces).take 1048576) = .ok none →
      (1048576 ≤ (i.stream pieces).length →
        (i.readReply ending pieces).1 = .error (.failed (.badReply (.tooLarge 1048576)))) ∧
      ((i.stream pieces).length < 1048576 →
        (i.readReply ending pieces).1 = .error (match ending with
          | .closed => .failed .closed
          | .silent => .stalled
          | .broken fault => .failed (.io fault)))) ∧
    (∀ n j left, Fetches n i pieces j left →
      j.stream left = i.stream pieces ∧ i.readReply ending pieces = j.readReply ending left ∧
        j.held.length ≤ j.capacity ∧ j.capacity ≤ 1048576 ∧
        (∀ k, j.makeRoom = some k → 0 < k.1.room ∧ k.1.capacity ≤ 1048576) ∧
        n ≤ pieces.flatten.length) ∧
    ∀ (j : Inbox) (left : List Bytes), j.stream left = i.stream pieces → ∀ n,
      (j.readReplies ending n left).1 = (i.readReplies ending n pieces).1 ∧
        (j.readReplies ending n left).2.1.stream (j.readReplies ending n left).2.2 =
          (i.readReplies ending n pieces).2.1.stream (i.readReplies ending n pieces).2.2 := by
  have hread := readReply_eq ending i pieces
  have hmax := maxCapacity_eq
  rw [Prod.mk.injEq, nextReply, hmax] at hread
  refine ⟨fun e h => ?_, fun r n h => ?_, fun h => ?_, fun n j left h => ?_, fun j left h n => ?_⟩
  · rw [hread.1, h]
  · rw [hread.1, hread.2, h]
    have hn := (Reply.ofBytes_consumed h).2
    rw [List.length_take] at hn
    exact ⟨rfl, by omega, rfl⟩
  · rw [hread.1, h]
    refine ⟨fun hle => ?_, fun hlt => ?_⟩
    · simp only [if_pos hle]
    · simp only [if_neg (Nat.not_le.2 hlt)]
      cases ending <;> rfl
  · have hcount := h.count_le
    refine ⟨h.stream_eq, h.readReply_eq ending, j.fits, hmax ▸ j.capacity_le, fun k _ => ?_,
      by omega⟩
    exact ⟨k.2.1, hmax ▸ k.1.capacity_le⟩
  · have hj := readReplies_eq ending n j left
    rw [h, ← readReplies_eq ending n i pieces, Prod.mk.injEq] at hj
    exact hj

end Inbox

end Outbox
