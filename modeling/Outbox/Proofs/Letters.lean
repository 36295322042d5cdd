import Outbox.Proofs.Framing
import Outbox.Proofs.Headers

/-!
# The mail of a letter

What becomes of a letter before any multiplexer sees it, spelled out: which letters are refused and
by which address, and for any other the whole transfer, part by part.

* `Envelope.Unfit`, `Letter.fault?`: the first of the two addresses that cannot stand in an envelope.
* `Letter.message`: the message, made of the five texts of a letter and a date.
  `Letter.compose_draft`: that is how the draft of a letter is composed, and composing never fails.
* `Letter.transfer`: the transfer of a letter. Its options are those of the account, one by one.
* `Letter.prepare_of_fault`, `Letter.prepare_of_fit`: **that is what comes of preparing a letter**.
-/

set_option autoImplicit false

namespace Outbox

/-! ## Addresses -/

/-- An address that is blank, or holds a character that ends its path or its line. -/
def Envelope.Unfit (address : String) : Prop :=
  (∀ c ∈ address.toList, c ∈ Text.blanks) ∨
    ∃ c ∈ address.toList, c ∈ ['\r', '\n', '\x00', '<', '>']

instance (address : String) : Decidable (Envelope.Unfit address) :=
  inferInstanceAs (Decidable ((∀ c ∈ address.toList, c ∈ Text.blanks) ∨
    ∃ c ∈ address.toList, c ∈ ['\r', '\n', '\x00', '<', '>']))

theorem Envelope.isMailbox_eq_false_iff {address : String} :
    isMailbox address = false ↔ Unfit address := by
  have breaks (c : Char) : breaksPath c = true ↔ c ∈ ['\r', '\n', '\x00', '<', '>'] := by
    simp only [breaksPath, Bool.or_eq_true, beq_iff_eq, List.mem_cons, List.not_mem_nil, or_false]
    tauto
  simp only [isMailbox, Unfit, Text.isBlankText, Bool.and_eq_false_iff, Bool.not_eq_false',
    List.all_eq_true, List.any_eq_true, breaks, Text.isBlank_iff]

theorem Envelope.isMailbox_of_not_unfit {address : String} (h : ¬Unfit address) :
    isMailbox address = true := by
  rwa [← isMailbox_eq_false_iff, Bool.not_eq_false] at h

namespace Letter

/-- What is wrong with a letter. The recipient is looked at first. -/
def fault? (l : Letter) : Option AddressError :=
  if Envelope.Unfit l.recipient then some (.recipient l.recipient)
  else if Envelope.Unfit l.sender then some (.sender l.sender)
  else none

/-! ## The message -/

/-- A text without its line breaks. -/
def inLine (s : String) : String := String.ofList (s.toList.filter fun c => c != '\r' && c != '\n')

/-- A text as it stands between quotes: without line breaks, and with a backslash in front of each
quote and backslash. -/
def inQuotes (s : String) : String :=
  String.ofList ((inLine s).toList.flatMap fun c => if c = '"' ∨ c = '\\' then ['\\', c] else [c])

/-- The header lines of a letter that is dated `now`. -/
def headers (l : Letter) (now : String) : List String :=
  ["MIME-Version: 1.0",
    "Content-Type: text/plain; charset=UTF-8",
    "Date: " ++ inLine now,
    "From: \"" ++ inQuotes l.senderName ++ "\" <" ++ inLine l.sender ++ ">",
    "To: <" ++ inLine l.recipient ++ ">",
    "Subject: " ++ inLine l.subject]

/-- Its message: the header lines, an empty line and the body. -/
def message (l : Letter) (now : String) : String :=
  "\r\n".intercalate (l.headers now) ++ "\r\n\r\n" ++ l.body

theorem toList_inLine (s : String) : (inLine s).toList = Draft.oneLine s.toList := by
  rw [inLine, String.toList_ofList, Draft.oneLine]
  refine List.filter_congr fun c _ => ?_
  rw [Draft.isLineBreak, Bool.not_or]
  rfl

theorem quotedName_eq (s : String) :
    Draft.quotedName s.toList = '"' :: (inQuotes s).toList ++ ['"'] := by
  rw [Draft.quotedName, inQuotes, String.toList_ofList, toList_inLine]
  congr 2
  induction s.toList with
  | nil => rfl
  | cons c cs ih =>
    rw [List.flatMap_cons, ih, Draft.escapeName, Draft.oneLine_cons]
    by_cases breaks : Draft.isLineBreak c = true
    · rw [if_pos breaks, if_pos breaks, List.nil_append]
    · rw [if_neg breaks, if_neg breaks, List.flatMap_cons]
      simp only [Bool.or_eq_true, beq_iff_eq]

theorem headers_draft (l : Letter) (now : String) :
    Draft.headers ⟨l.sender, l.senderName⟩ l.recipient l.subject now =
      (l.headers now).map String.toList := by
  simp [Draft.headers, headers, toList_inLine, quotedName_eq, Draft.angled]

theorem render_draft (l : Letter) (now : String) :
    Draft.render ⟨l.sender, l.senderName⟩ l.recipient l.subject l.body now =
      (l.message now).toList := by
  have gap : Draft.crlf ++ Draft.crlf = "\r\n\r\n".toList := by decide
  have crlf : Draft.crlf = "\r\n".toList := by decide
  rw [Draft.render_eq, List.append_assoc _ Draft.crlf Draft.crlf, gap, headers_draft, crlf, message,
    String.toList_append, String.toList_append, String.toList_intercalate]

/-- **Composing the message of a letter** never fails. -/
theorem compose_draft (l : Letter) (now : String) : l.draft.compose now = .ok (l.message now) := by
  have composed : l.draft.compose now = .ok (String.ofList
      (Draft.render ⟨l.sender, l.senderName⟩ l.recipient l.subject l.body now)) := rfl
  rw [composed, render_draft, String.ofList_toList]

/-! ## The transfer -/

/-- The transfer of a letter whose addresses are fit, for an account. -/
def transfer (l : Letter) (a : Account) (limits : Timeouts) (now : String) : Transfer where
  options := {
    url := a.url
    host := a.host
    port := a.port
    caStore := a.caStore
    username := a.username
    password := a.password
    tls := a.tls
    helo := "localhost"
    timeouts := limits }
  mailFrom := some ("<" ++ Text.trim l.sender ++ ">")
  recipients := some ⟨["<" ++ Text.trim l.recipient ++ ">"]⟩
  payload := some ⟨Wire.text (l.message now), (Wire.text (l.message now)).length, Nat.le_refl _⟩
  upload := true

theorem path_eq (address : String) : Envelope.path address = "<" ++ Text.trim address ++ ">" := by
  rw [← String.toList_inj]
  simp [Envelope.path, Draft.angled, Text.trim]

variable {l : Letter} {a : Account} {limits : Timeouts} {now : String}

theorem prepare_of_fault {e : AddressError} (h : l.fault? = some e) :
    l.prepare a limits now = .error (.address e) := by
  unfold fault? at h
  unfold prepare Recipients.single
  split at h
  · next recipient =>
    rw [← Envelope.isMailbox_eq_false_iff] at recipient
    cases h
    rw [if_neg (by simp [recipient])]
    rfl
  · next recipient =>
    split at h
    · next sender =>
      rw [← Envelope.isMailbox_eq_false_iff] at sender
      cases h
      rw [if_pos (Envelope.isMailbox_of_not_unfit recipient), Transfer.withSender,
        Envelope.senderPath, if_neg (by simp [sender])]
      rfl
    · cases h

theorem prepare_of_fit (h : l.fault? = none) :
    l.prepare a limits now = .ok (l.transfer a limits now) := by
  unfold fault? at h
  split at h
  · cases h
  · next recipient =>
    split at h
    · cases h
    · next sender =>
      rw [prepare, Recipients.single, if_pos (Envelope.isMailbox_of_not_unfit recipient),
        Transfer.withSender, Envelope.senderPath,
        if_pos (Envelope.isMailbox_of_not_unfit sender), compose_draft, transfer]
      simp only [← path_eq, ← Utf8.encode_eq]
      rfl

/-- The transfer of a letter lacks nothing, so it can be carried out. -/
theorem missing_transfer (l : Letter) (a : Account) (limits : Timeouts) (now : String) :
    (l.transfer a limits now).missing = none := rfl

end Letter

end Outbox
