import Mathlib.Data.List.Infix
import Outbox.Proofs.Gating
import Outbox.Proofs.Transparency
import Outbox.Proofs.Utf8
import Outbox.Submission

/-!
# Framing: what a server makes of a delivery

Texts from a caller end up on the lines of a dialogue: addresses, credentials, a message. A server
that cuts what it gets into lines must find the lines that were meant, and no others.

* `Receiver.attend`: the receiving server, which takes lines one by one and, behind a DATA that it
  answered by 354, a message up to the lone dot.
* `Text.OneLine`: texts without line feed, such as encoded credentials (`Base64.oneLine_base64`) and
  accepted addresses (`Envelope.oneLine_path`).
* `Exchange.Framed`: exchanges in an order that such a server can follow; `Exchange.attend_framed`
  is a whole run of them.
* `Letter.prepare_framed`: **a server reads the commands of a delivery and its message**, in their
  order and as far as it gets, whatever the letter, the account and the server's replies are.
-/

set_option autoImplicit false

namespace Outbox

/-! ## The receiving server -/

/-- What a mail server takes from a client. -/
inductive Received where
  | line (octets : Bytes)
  | message (data : Bytes)
  /-- Octets whose end never came. -/
  | unfinished (octets : Bytes)
  deriving DecidableEq, Repr

namespace Received

/-- A line, by its text. -/
def text (s : String) : Received := line (Wire.text s)

/-- What is left over when the lines are over, if anything is. -/
def leftover : Bytes → List Received
  | [] => []
  | b :: octets => [unfinished (b :: octets)]

end Received

namespace Receiver

/-- Takes lines one by one, or collects them in `collected` after DATA was answered by 354. A lone
dot ends a message, and a line of it comes without its extra dot. `codes` are those of the replies
still to be given: one to each command, and one to each message. -/
def attend (collected : Option Bytes) (codes : List Nat) : List Bytes → List Received
  | [] => Received.leftover (collected.getD [])
  | l :: ls =>
    match collected with
    | some data =>
      if l = [dot] then .message data :: attend none codes.tail ls
      else attend (some (data ++ unstuff l ++ [cr, lf])) codes ls
    | none =>
      .line l ::
        attend (if l = Wire.text "DATA" ∧ codes.head? = some 354 then some [] else none)
          codes.tail ls

/-- Cuts what arrives at CRLF and takes the lines. -/
def takeIn (codes : List Nat) (data : Bytes) : List Received :=
  let (found, rest) := lines [] [] data
  attend none codes found ++ Received.leftover rest

theorem attend_line {l : Bytes} {codes : List Nat}
    (h : ¬ (l = Wire.text "DATA" ∧ codes.head? = some 354)) (ls : List Bytes) :
    attend none codes (l :: ls) = .line l :: attend none codes.tail ls := by
  rw [attend, if_neg h]

theorem attend_data (codes : List Nat) (ls : List Bytes) :
    attend none (354 :: codes) (Wire.text "DATA" :: ls) =
      .text "DATA" :: attend (some []) codes ls := by
  rw [attend, if_pos ⟨rfl, rfl⟩]
  rfl

/-- A line that comes last is taken as a line. -/
theorem attend_last (codes : List Nat) (l : Bytes) : attend none codes [l] = [.line l] := by
  rw [attend]
  split <;> rfl

/-- A message is collected up to its lone dot. -/
theorem attend_stuffed (data : Bytes) (codes : List Nat) (body ls : List Bytes) :
    attend (some data) codes (body.map stuff ++ [dot] :: ls) =
      .message (data ++ joinLines body) :: attend none codes.tail ls := by
  induction body generalizing data with
  | nil =>
    rw [List.map_nil, List.nil_append, attend, if_pos rfl, joinLines_nil, List.append_nil]
  | cons l body ih =>
    rw [List.map_cons, List.cons_append, attend, if_neg (stuff_ne_dot l), ih, unstuff_stuff]
    simp

end Receiver

/-! ## Texts without line feed -/

/-- A text that stays within its line. -/
def Text.OneLine (s : String) : Prop := '\n' ∉ s.toList

instance (s : String) : Decidable (Text.OneLine s) := inferInstanceAs (Decidable (_ ∉ _))

theorem Text.OneLine.append {s t : String} (hs : OneLine s) (ht : OneLine t) :
    OneLine (s ++ t) := by
  rw [OneLine, String.toList_append, List.mem_append, not_or]
  exact ⟨hs, ht⟩

namespace Utf8

/-- A text without line feed has no LF in its encoded form. -/
theorem lf_not_mem_text {s : String} (hs : Text.OneLine s) : lf ∉ Wire.text s := by
  rw [← encode_eq]
  exact lf_not_mem_encodeChars hs

end Utf8

namespace Base64

theorem digit_ne_lf (n : Nat) : digit n ≠ '\n' := by
  by_cases hn : n < 63
  · have hall : ∀ m : Fin 63, digit m ≠ '\n' := by decide
    exact hall ⟨n, hn⟩
  · rw [digit, if_neg (by omega), if_neg (by omega), if_neg (by omega), if_neg (by omega)]
    decide

/-- Encoded credentials stay within their line. -/
theorem oneLine_base64 (bytes : Bytes) : Text.OneLine (Wire.base64 bytes) := by
  rw [← encode_eq, Text.OneLine, encode, String.toList_ofList]
  fun_induction encodeChars bytes with
  | case1 a b c rest n ih =>
    simp only [List.mem_cons, not_or]
    exact ⟨(digit_ne_lf _).symm, (digit_ne_lf _).symm, (digit_ne_lf _).symm,
      (digit_ne_lf _).symm, ih⟩
  | case2 a b n => simp [(digit_ne_lf _).symm]
  | case3 a => simp [(digit_ne_lf _).symm]
  | case4 => exact List.not_mem_nil

end Base64

/-! ## Exchanges as a server sees them -/

namespace Sent

/-- What it is meant to be taken for. -/
def received : Sent → List Received
  | nothing => []
  | line text => [.text text]
  | message data => [.message (normalize data)]

/-- A line is to stay within its line. -/
def IsClean : Sent → Prop
  | line text => Text.OneLine text
  | _ => True

theorem IsClean.lines {s : Sent} (h : s.IsClean) : ∀ l ∈ s.lines, lf ∉ l := by
  cases s with
  | nothing => exact fun _ hl => absurd hl List.not_mem_nil
  | line text =>
    intro l hl
    rw [List.mem_singleton.mp hl]
    exact Utf8.lf_not_mem_text h
  | message data =>
    intro l hl
    rcases List.mem_append.mp hl with hl | hl
    · exact lf_not_mem_stuffed data l hl
    · rw [List.mem_singleton.mp hl]
      decide

/-- A whole message is taken for its normal form. -/
theorem attend_message (data : Bytes) (codes : List Nat) (ls : List Bytes) :
    Receiver.attend (some []) codes ((message data).lines ++ ls) =
      .message (normalize data) :: Receiver.attend none codes.tail ls := by
  rw [lines, List.append_assoc, List.singleton_append, Receiver.attend_stuffed,
    normalize_bodyLines, List.nil_append]

end Sent

namespace Exchange

/-- The lines that exchanges put on the connection. -/
def lines (xs : List Exchange) : List Bytes := xs.flatMap (·.sent.lines)

/-- What exchanges are meant to be taken for. -/
def received (xs : List Exchange) : List Received := xs.flatMap (·.sent.received)

theorem octets_eq (xs : List Exchange) : octets xs = joinLines (lines xs) := by
  induction xs with
  | nil => rfl
  | cons x xs ih =>
    rw [octets_cons, ih, Sent.octets, joinLines, joinLines, ← List.flatMap_append]
    rfl

/-- **Cutting at CRLF** finds the lines of clean exchanges. -/
theorem lines_octets {xs : List Exchange} (h : ∀ x ∈ xs, x.sent.IsClean) :
    Receiver.lines [] [] (octets xs) = (lines xs, []) := by
  have hl : ∀ l ∈ lines xs, lf ∉ l := by
    intro l hm
    obtain ⟨x, hx, hl⟩ := List.mem_flatMap.mp hm
    exact (h x hx).lines l hl
  rw [octets_eq, ← List.append_nil (joinLines (lines xs)), lines_joinLines hl]
  simp [Receiver.lines]

/-- A line that is not accepted by 354, so that no message comes behind it. -/
structure IsPlain (x : Exchange) (text : String) : Prop where
  sent : x.sent = .line text
  oneLine : Text.OneLine text
  accepts : x.accepts 354 = false

/-- An order of exchanges that a server can follow. Behind DATA, which is accepted by 354 and
nothing else, comes a message, whose lines are `collected`. Nothing else is accepted by 354 but
the last line, behind which nothing comes. -/
inductive Framed : Option Bytes → List Exchange → Prop where
  | last {x : Exchange} {text : String} (sent : x.sent = .line text)
      (oneLine : Text.OneLine text) : Framed none [x]
  | line {x : Exchange} {xs : List Exchange} {text : String} (plain : x.IsPlain text)
      (rest : Framed none xs) : Framed none (x :: xs)
  | data {xs : List Exchange} (rest : Framed (some []) xs) : Framed none (data :: xs)
  | message {xs : List Exchange} (p : Payload) (rest : Framed none xs) :
      Framed (some []) (message p :: xs)

theorem Framed.clean {collected : Option Bytes} {xs : List Exchange} (h : Framed collected xs) :
    ∀ x ∈ xs, x.sent.IsClean := by
  induction h with
  | last sent oneLine =>
    refine List.forall_mem_singleton.mpr ?_
    rw [sent]
    exact oneLine
  | line plain rest ih =>
    refine List.forall_mem_cons.mpr ⟨?_, ih⟩
    rw [plain.sent]
    exact plain.oneLine
  | data rest ih =>
    exact List.forall_mem_cons.mpr ⟨(by decide : Text.OneLine "DATA"), ih⟩
  | message p rest ih => exact List.forall_mem_cons.mpr ⟨trivial, ih⟩

@[simp] theorem lines_cons (x : Exchange) (xs : List Exchange) :
    lines (x :: xs) = x.sent.lines ++ lines xs := rfl

@[simp] theorem received_cons (x : Exchange) (xs : List Exchange) :
    received (x :: xs) = x.sent.received ++ received xs := rfl

theorem received_append (xs ys : List Exchange) :
    received (xs ++ ys) = received xs ++ received ys := List.flatMap_append

/-- **A server follows** exchanges as far as they are accepted, and the one behind these. -/
theorem attend_framed {collected : Option Bytes} {xs : List Exchange} (h : Framed collected xs)
    {k : Nat} {rs : List Reply} (ha : List.Forall₂ Accepts (xs.take k) (rs.take k)) :
    Receiver.attend collected (rs.map (·.code)) (lines (xs.take (k + 1))) =
      received (xs.take (k + 1)) := by
  induction h generalizing k rs with
  | @last x text sent oneLine =>
    rw [List.take_succ_cons, List.take_nil, lines_cons, received_cons, sent]
    exact Receiver.attend_last _ _
  | @line x xs text plain rest ih =>
    rw [List.take_succ_cons, lines_cons, received_cons, plain.sent]
    cases k with
    | zero => exact Receiver.attend_last _ _
    | succ k =>
      cases rs with
      | nil => cases ha
      | cons r rs =>
        obtain ⟨har, ha⟩ := List.forall₂_cons.mp ha
        rw [Sent.lines, List.singleton_append, List.map_cons, Receiver.attend_line, List.tail_cons,
          ih ha]
        · rfl
        · rintro ⟨-, hcode⟩
          rw [List.head?_cons, Option.some.injEq] at hcode
          rw [Accepts, hcode, plain.accepts] at har
          cases har
  | @data xs rest ih =>
    rw [List.take_succ_cons, lines_cons, received_cons]
    cases k with
    | zero => exact Receiver.attend_last _ _
    | succ k =>
      cases rs with
      | nil => cases ha
      | cons r rs =>
        obtain ⟨har, ha⟩ := List.forall₂_cons.mp ha
        have hcode : r.code = 354 := beq_iff_eq.mp har
        rw [List.map_cons, hcode]
        exact (Receiver.attend_data _ _).trans (congrArg _ (ih ha))
  | @message xs p rest ih =>
    rw [List.take_succ_cons, lines_cons, received_cons]
    refine (Sent.attend_message p.unserved _ _).trans (congrArg _ ?_)
    cases k with
    | zero => rfl
    | succ k =>
      cases rs with
      | nil => cases ha
      | cons r rs => exact ih (List.forall₂_cons.mp ha).2

/-- The same behind cutting what was sent into lines. -/
theorem takeIn_framed {xs : List Exchange} (h : Framed none xs) {k : Nat} {rs : List Reply}
    (ha : List.Forall₂ Accepts (xs.take k) (rs.take k)) :
    Receiver.takeIn (rs.map (·.code)) (octets (xs.take (k + 1))) = received (xs.take (k + 1)) := by
  rw [Receiver.takeIn, lines_octets fun x hx => h.clean x (List.mem_of_mem_take hx),
    ← attend_framed h ha]
  exact List.append_nil _

example : Receiver.takeIn [354, 250, 221] (Wire.text "DATA\r\n..\r\nQUIT\r\n.\r\nQUIT\r\n") =
    [.text "DATA", .message (Wire.text ".\r\nQUIT\r\n"), .text "QUIT"] := by decide

end Exchange

/-! ## The commands of a delivery -/

/-- The lines by which credentials are sent, given the reply to EHLO: none without a user name or
a mechanism on offer, one by PLAIN, three by LOGIN. -/
def Wire.credentials (username password : String) : Option Reply → List String
  | none => []
  | some reply =>
    if username = "" then []
    else if reply.Offers "PLAIN" then ["AUTH PLAIN " ++ plain username password]
    else if reply.Offers "LOGIN" then
      ["AUTH LOGIN", base64 (text username), base64 (text password)]
    else []

namespace Exchange

/-- **Credentials are lines**, whatever characters they are made of. -/
theorem framed_auth (username password : String) (ehlo : Option Reply) {xs : List Exchange}
    (h : Framed none xs) : Framed none (auth username password ehlo ++ xs) := by
  have hplain : Text.OneLine ("AUTH PLAIN " ++ Wire.plain username password) :=
    .append (by decide) (Base64.oneLine_base64 _)
  unfold auth
  cases ehlo with
  | none => exact h
  | some reply =>
    dsimp only
    split
    · exact h
    · split
      · exact .line ⟨rfl, hplain, rfl⟩ h
      · split
        · refine .line ⟨rfl, (by decide : Text.OneLine "AUTH LOGIN"), rfl⟩ ?_
          refine .line ⟨rfl, Base64.oneLine_base64 _, rfl⟩ ?_
          exact .line ⟨rfl, Base64.oneLine_base64 _, rfl⟩ h
        · exact h

theorem framed_recipients {paths : List String} {xs : List Exchange}
    (hr : ∀ path ∈ paths, Text.OneLine path) (h : Framed none xs) :
    Framed none (paths.map rcptTo ++ xs) := by
  induction paths with
  | nil => exact h
  | cons path paths ih =>
    obtain ⟨hpath, hpaths⟩ := List.forall_mem_cons.mp hr
    exact .line ⟨rfl, .append (by decide) hpath, rfl⟩ (ih hpaths)

/-- Sender and recipients are lines. -/
theorem framed_envelope (before : List Event) {sender : String} {receivers : Recipients}
    {xs : List Exchange} (hs : Text.OneLine sender)
    (hr : ∀ path ∈ receivers.paths, Text.OneLine path) (h : Framed none xs) :
    Framed none (envelope before sender receivers ++ xs) :=
  .line ⟨rfl, .append (by decide) hs, rfl⟩ (framed_recipients hr h)

theorem received_auth (username password : String) (ehlo : Option Reply) :
    received (auth username password ehlo) =
      (Wire.credentials username password ehlo).map .text := by
  unfold auth Wire.credentials
  cases ehlo with
  | none => rfl
  | some reply =>
    dsimp only
    split
    · rfl
    · split
      · rfl
      · split <;> rfl

end Exchange

namespace Transfer.Ready

/-- What a delivery sends behind the greeting, QUIT included. -/
def commands (t : Ready) (ehlo : Option Reply) : List Exchange :=
  Exchange.ehlo t.options.helo ::
    (Exchange.auth t.options.username t.options.password ehlo ++
      (Exchange.envelope (Exchange.unoffered t.options.username ehlo) t.mailFrom t.recipients ++
        [Exchange.data, Exchange.message t.payload, Exchange.quit]))

theorem script_quit (t : Ready) (f : Inflow) :
    t.script f ++ [Exchange.quit] = Exchange.greeting :: t.commands f.answers[1]? := by
  simp [script, exchanges, opening, commands]

theorem framed_commands {t : Ready} (hh : Text.OneLine t.options.helo)
    (hs : Text.OneLine t.mailFrom) (hr : ∀ path ∈ t.recipients.paths, Text.OneLine path)
    (ehlo : Option Reply) : Exchange.Framed none (t.commands ehlo) := by
  have hend : Exchange.Framed none [Exchange.data, Exchange.message t.payload, Exchange.quit] :=
    .data (.message t.payload (.last rfl (by decide : Text.OneLine "QUIT")))
  exact .line ⟨rfl, .append (by decide) hh, rfl⟩
    (Exchange.framed_auth _ _ ehlo (Exchange.framed_envelope _ hs hr hend))

/-- **A server reads the commands** of a delivery that it can follow, as far as it lets them come,
and all of them if the delivery succeeds. -/
theorem takeIn_deliver {n : Environment} {t : Ready} {f : Inflow} {spans : List Span}
    {events : List Event} (h : Exchange.Framed none (t.commands f.answers[1]?))
    (hc : connect n t.options = (.ok f, spans, events))
    (taken : n.blockage t.options.address = none) :
    ∃ written, (t.deliver n).written = some written ∧
      Receiver.takeIn (f.answers.tail.map (·.code)) written <+:
        Exchange.received (t.commands f.answers[1]?) ∧
      ((t.deliver n).outcome = .ok () →
        Receiver.takeIn (f.answers.tail.map (·.code)) written =
          Exchange.received (t.commands f.answers[1]?)) := by
  have hends := deliver_ends hc taken
  obtain ⟨hwritten, haccepted⟩ := hends.sent
  have hall := hends.outcome_eq_ok_iff_all
  refine ⟨_, hwritten, ?_⟩
  have length : (t.script f).length = (t.commands f.answers[1]?).length := by
    simpa using congrArg List.length (script_quit t f)
  rw [script_quit] at haccepted ⊢
  rw [length] at hall
  cases hk : t.reach f with
  | zero =>
    refine ⟨List.nil_prefix, fun ok => ?_⟩
    rw [hall, hk] at ok
    exact absurd ok (Nat.succ_ne_zero _).symm
  | succ k =>
    rw [hk] at haccepted hall
    rw [List.take_succ_cons] at haccepted ⊢
    cases ha : f.answers with
    | nil =>
      rw [ha] at haccepted
      cases haccepted
    | cons r rs =>
      rw [ha] at h haccepted hall
      obtain ⟨-, haccepted⟩ := List.forall₂_cons.mp haccepted
      have read := Exchange.takeIn_framed h haccepted
      refine ⟨?_, fun ok => ?_⟩
      · have hprefix : Exchange.received ((t.commands (r :: rs)[1]?).take (k + 1)) <+:
            Exchange.received (t.commands (r :: rs)[1]?) :=
          List.IsPrefix.flatMap (List.take_prefix _ _) _
        rw [← read] at hprefix
        exact hprefix
      · rw [List.take_of_length_le (Nat.le_of_eq (hall.mp ok).symm)] at read
        rw [List.take_of_length_le (Nat.le_of_eq (hall.mp ok).symm)]
        exact read

end Transfer.Ready

/-! ## The transfer of a letter -/

namespace Envelope

theorem path_eq (address : String) : path address = "<" ++ Text.trim address ++ ">" := by
  rw [← String.toList_inj]
  simp [path, Draft.angled, Text.trim, String.toList_append]

theorem breaksPath_of_mem {address : String} (h : isMailbox address = true) {c : Char}
    (hc : c ∈ address.toList) : breaksPath c = false := by
  rw [isMailbox, Bool.and_eq_true, Bool.not_eq_true', Bool.not_eq_true', List.any_eq_false] at h
  exact eq_false_of_ne_true (h.2 c hc)

/-- **An address that is accepted holds nothing that ends its path** or its line. -/
theorem breaksPath_of_isMailbox {address trimmed : String} (h : isMailbox address = true)
    (trims : Text.Trims address trimmed) {c : Char} (hc : c ∈ trimmed.toList) :
    breaksPath c = false := by
  obtain ⟨front, back, whole, -⟩ := trims.around
  refine breaksPath_of_mem h ?_
  rw [whole]
  exact List.mem_append_left _ (List.mem_append_right _ hc)

/-- The path of such an address stays within its line. -/
theorem oneLine_path {address : String} (h : isMailbox address = true) :
    Text.OneLine (path address) := by
  rw [path_eq]
  refine .append (.append (by decide) fun hlf => ?_) (by decide)
  exact absurd (breaksPath_of_isMailbox h (Text.trims_trim address) hlf) (by decide)

end Envelope

namespace Letter

variable {l : Letter} {a : Account} {limits : Timeouts} {now : String} {tr : Transfer}

/-- What a delivery needs of the transfer of a letter. -/
def ready (l : Letter) (a : Account) (limits : Timeouts) (message : String) : Transfer.Ready where
  options := TransferOptions.ofAccount a limits
  mailFrom := Envelope.path l.sender
  recipients := ⟨[Envelope.path l.recipient]⟩
  payload := Payload.ofString message

/-- A letter that is prepared has two addresses and a message. -/
theorem prepare_eq_ok (h : l.prepare a limits now = .ok tr) :
    Envelope.isMailbox l.recipient = true ∧ Envelope.isMailbox l.sender = true ∧
      ∃ message, l.draft.compose now = .ok message ∧
        tr.ready? = .ok (l.ready a limits message) := by
  unfold prepare Recipients.single Transfer.withSender Envelope.senderPath at h
  by_cases hr : Envelope.isMailbox l.recipient = true
  · by_cases hs : Envelope.isMailbox l.sender = true
    · rw [if_pos hr, if_pos hs] at h
      cases hm : l.draft.compose now with
      | error e =>
        rw [hm] at h
        cases h
      | ok message =>
        rw [hm] at h
        cases h
        exact ⟨hr, hs, message, rfl, rfl⟩
    · rw [if_pos hr, if_neg hs] at h
      cases h
  · rw [if_neg hr] at h
    cases h

/-- What a server is meant to read from a delivery under an account, given its reply to EHLO. The
message comes in its normal form. -/
def meant (a : Account) (sender recipient message : String) (ehlo : Option Reply) :
    List Received :=
  [.text "EHLO localhost"] ++ (Wire.credentials a.username a.password ehlo).map .text ++
    [.text ("MAIL FROM:<" ++ sender ++ ">"), .text ("RCPT TO:<" ++ recipient ++ ">"),
      .text "DATA", .message (normalize (Wire.text message)), .text "QUIT"]

theorem received_commands (l : Letter) (a : Account) (limits : Timeouts) (message : String)
    (ehlo : Option Reply) :
    Exchange.received ((l.ready a limits message).commands ehlo) =
      meant a (Text.trim l.sender) (Text.trim l.recipient) message ehlo := by
  have hmail : "MAIL FROM:" ++ Envelope.path l.sender =
      "MAIL FROM:<" ++ Text.trim l.sender ++ ">" := by
    rw [Envelope.path_eq, ← String.append_assoc, ← String.append_assoc]
    rfl
  have hrcpt : "RCPT TO:" ++ Envelope.path l.recipient =
      "RCPT TO:<" ++ Text.trim l.recipient ++ ">" := by
    rw [Envelope.path_eq, ← String.append_assoc, ← String.append_assoc]
    rfl
  have hmessage : (Payload.ofString message).unserved = Wire.text message := by
    rw [← Utf8.encode_eq]
    exact Payload.unserved_ofBytes _
  rw [Transfer.Ready.commands, Exchange.received_cons, Exchange.received_append, meant, ← hmail,
    ← hrcpt, ← hmessage, List.append_assoc]
  exact congrArg (_ :: · ++ _) (Exchange.received_auth a.username a.password ehlo)

/-- A server can follow the delivery of a letter that is prepared. -/
theorem framed_ready (h : l.prepare a limits now = .ok tr) (message : String)
    (ehlo : Option Reply) :
    Exchange.Framed none ((l.ready a limits message).commands ehlo) := by
  obtain ⟨hr, hs, -⟩ := prepare_eq_ok h
  have hhelo : Text.OneLine "localhost" := by decide
  exact Transfer.Ready.framed_commands (t := l.ready a limits message) hhelo
    (Envelope.oneLine_path hs) (List.forall_mem_singleton.mpr (Envelope.oneLine_path hr)) ehlo

/-- **Nothing a caller hands in adds, splits or hides a command.** Whatever the letter and the
account, the two addresses of a prepared letter, without the white space around them, hold no
character that ends a path or a line; and whatever the server's stream, what a server takes from the
octets that its delivery writes is what was meant for it, up to some point: EHLO, the credentials by
the mechanism on offer, one sender, one recipient, DATA, the composed message in its normal form,
QUIT. If the delivery succeeds, it is all of that. The server goes by its replies behind the
greeting, and takes what is written to it. -/
theorem prepare_framed (h : l.prepare a limits now = .ok tr) :
    ∃ message t sender recipient, l.draft.compose now = .ok message ∧ tr.ready? = .ok t ∧
      Text.Trims l.sender sender ∧ Text.Trims l.recipient recipient ∧
      (∀ address ∈ [sender, recipient], ∀ c ∈ address.toList,
        c ∉ ['\r', '\n', '\x00', '<', '>']) ∧
      ∀ (n : Environment) (f : Inflow) (spans : List Span) (events : List Event),
        Transfer.Ready.connect n t.options = (.ok f, spans, events) →
        n.blockage t.options.address = none →
        ∃ written, (t.deliver n).written = some written ∧
          Receiver.takeIn (f.answers.tail.map (·.code)) written <+:
            meant a sender recipient message f.answers[1]? ∧
          ((t.deliver n).outcome = .ok () →
            Receiver.takeIn (f.answers.tail.map (·.code)) written =
              meant a sender recipient message f.answers[1]?) := by
  obtain ⟨hr, hs, message, hm, ht⟩ := prepare_eq_ok h
  refine ⟨message, _, Text.trim l.sender, Text.trim l.recipient, hm, ht, Text.trims_trim _,
    Text.trims_trim _, ?_, ?_⟩
  · have haddress : ∀ {s : String}, Envelope.isMailbox s = true → ∀ c ∈ (Text.trim s).toList,
        c ∉ ['\r', '\n', '\x00', '<', '>'] := by
      intro s hmailbox c hc hmem
      have hbreaks := Envelope.breaksPath_of_isMailbox hmailbox (Text.trims_trim s) hc
      simp only [List.mem_cons, List.not_mem_nil, or_false] at hmem
      rcases hmem with rfl | rfl | rfl | rfl | rfl <;> exact absurd hbreaks (by decide)
    exact List.forall_mem_cons.mpr ⟨haddress hs, List.forall_mem_singleton.mpr (haddress hr)⟩
  · intro n f spans events hc taken
    rw [← received_commands l a limits]
    exact Transfer.Ready.takeIn_deliver (framed_ready h message _) hc taken

/-- A letter with commands in its subject and its body. -/
def crafted : Letter :=
  ⟨" bob@b.example", "ann@a.example", "Ann", "hi\r\nRCPT TO:<eve@c.example>",
    "one\r\n.\r\nQUIT"⟩

/-- An account with a command in its user name. -/
def craftedAccount : Account :=
  ⟨"", "smtp://mx", "mx", 25, "ann\r\nQUIT", "secret", .disabled⟩

/-- The message of that letter. -/
def craftedMessage : String :=
  "MIME-Version: 1.0\r\nContent-Type: text/plain; charset=UTF-8\r\nDate: now\r\n" ++
    "From: \"Ann\" <ann@a.example>\r\nTo: < bob@b.example>\r\n" ++
    "Subject: hiRCPT TO:<eve@c.example>\r\n\r\none\r\n.\r\nQUIT"

/-- A peer that asks for credentials one by one and takes the mail. -/
def hospitable : Inflow :=
  ⟨[Wire.text "220 mx\r\n250-mx\r\n250 AUTH LOGIN\r\n334 VXNlcm5hbWU6\r\n334 UGFzc3dvcmQ6\r\n",
    Wire.text "235 in\r\n250 ok\r\n250 ok\r\n354 go\r\n250 ok\r\n221 bye\r\n"], .closed⟩

/-- Behind every address is such a peer. -/
def hospitableNetwork : Network :=
  ⟨fun _ => .ok ⟨hospitable, none⟩, fun _ => .error .notFound, []⟩

/-- The server reads nine things, and none of them is from inside another. -/
theorem prepare_framed_crafted : ∃ tr t,
    crafted.prepare craftedAccount .standard "now" = .ok tr ∧ tr.ready? = .ok t ∧
      (∃ spans events, Transfer.Ready.connect hospitableNetwork t.options =
        (.ok hospitable, spans, events)) ∧
      (hospitableNetwork : Environment).blockage t.options.address = none ∧
      (t.deliver hospitableNetwork).outcome = .ok () ∧
      (t.deliver hospitableNetwork).written.map
          (Receiver.takeIn (hospitable.answers.tail.map (·.code))) =
        some [.text "EHLO localhost", .text "AUTH LOGIN", .text "YW5uDQpRVUlU", .text "c2VjcmV0",
          .text "MAIL FROM:<ann@a.example>", .text "RCPT TO:<bob@b.example>", .text "DATA",
          .message (Wire.text (craftedMessage ++ "\r\n")), .text "QUIT"] := by
  have hprepare : crafted.prepare craftedAccount .standard "now" = .ok _ := rfl
  have hcompose : crafted.draft.compose "now" = .ok craftedMessage := by decide +kernel
  obtain ⟨message, t, sender, recipient, hm, ht, hs, hr, -, hread⟩ := prepare_framed hprepare
  obtain rfl : craftedMessage = message := Except.ok.inj (hcompose.symm.trans hm)
  obtain ⟨-, -, message, hm', ht'⟩ := prepare_eq_ok hprepare
  obtain rfl : craftedMessage = message := Except.ok.inj (hcompose.symm.trans hm')
  obtain rfl := Except.ok.inj (ht'.symm.trans ht)
  have hc : Transfer.Ready.connect hospitableNetwork
      (crafted.ready craftedAccount .standard craftedMessage).options =
        (.ok hospitable, _, _) := rfl
  have accepted : (crafted.ready craftedAccount .standard craftedMessage).reach hospitable =
      ((crafted.ready craftedAccount .standard craftedMessage).script hospitable).length := by
    decide +kernel
  have ok := (Transfer.Ready.deliver_ends hc rfl).outcome_eq_ok_iff_all.mpr accepted
  obtain ⟨written, hwritten, -, whole⟩ := hread hospitableNetwork hospitable _ _ hc rfl
  refine ⟨_, _, hprepare, ht, ⟨_, _, hc⟩, rfl, ok, ?_⟩
  rw [hwritten, Option.map_some, whole ok, hs.eq_trim, hr.eq_trim]
  decide +kernel

end Letter

end Outbox
