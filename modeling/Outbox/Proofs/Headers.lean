import Mathlib.Data.List.Basic
import Outbox.Message

/-!
# What a reader finds in a message

A composed message is taken apart again by a reader that knows its layout and nothing of the draft.

* `Draft.Choice`, `Draft.chosen`: the setters of a draft, called any number of times in any order.
  `Draft.chosen_eq`: of each the last call counts.
* `Draft.headers`: the header lines. None holds a line break (`Draft.plain_headers`) and none is
  empty, so the first empty line is the one in front of the body (`Reader.blank_first`).
* `Reader.fields`: the reader, and what it takes from the header lines. `Reader.quoted_escaped` and
  `Reader.between_angled`: a name between quotes and an address between brackets are read back.
* `Draft.compose_reads_back`: **a message says what was put into it**, line breaks in header values
  apart, and two messages are equal only if all of that is.
-/

set_option autoImplicit false

namespace Outbox

/-! ## Choices -/

namespace Draft

/-- A call of a setter. -/
inductive Choice where
  | sender (address name : String)
  | recipient (address : String)
  | subject (text : String)
  | body (text : String)
  | date (t : Timestamp)
  deriving DecidableEq, Repr

namespace Choice

def sender? : Choice → Option Sender
  | .sender address name => some ⟨address, name⟩
  | _ => none

def recipient? : Choice → Option String
  | .recipient address => some address
  | _ => none

def subject? : Choice → Option String
  | .subject text => some text
  | _ => none

def body? : Choice → Option String
  | .body text => some text
  | _ => none

def date? : Choice → Option Timestamp
  | .date t => some t
  | _ => none

/-- What the last call of a setter gave. -/
def last {α : Type} (value? : Choice → Option α) (cs : List Choice) : Option α :=
  (cs.filterMap value?).getLast?

theorem last_cons {α : Type} (value? : Choice → Option α) (c : Choice) (cs : List Choice) :
    last value? (c :: cs) = (last value? cs).or (value? c) := by
  unfold last
  cases h : value? c with
  | none => rw [List.filterMap_cons_none h, Option.or_none]
  | some v =>
    rw [List.filterMap_cons_some h, List.getLast?_cons]
    cases (cs.filterMap value?).getLast? <;> rfl

end Choice

def choose (d : Draft) : Choice → Draft
  | .sender address name => d.withSender address name
  | .recipient address => d.withRecipient address
  | .subject text => d.withSubject text
  | .body text => d.withBody text
  | .date t => d.withDate t

/-- A draft behind some calls, in their order. -/
def chosen (cs : List Choice) : Draft := cs.foldl choose empty

theorem foldl_choose (d : Draft) (cs : List Choice) :
    cs.foldl choose d =
      { sender := (Choice.last Choice.sender? cs).or d.sender
        recipient := (Choice.last Choice.recipient? cs).or d.recipient
        subject := (Choice.last Choice.subject? cs).getD d.subject
        body := (Choice.last Choice.body? cs).getD d.body
        date := (Choice.last Choice.date? cs).or d.date } := by
  induction cs generalizing d with
  | nil => rfl
  | cons c cs ih =>
    rw [List.foldl_cons, ih]
    simp only [Choice.last_cons, Option.or_assoc, Option.getD_or]
    cases c <;> rfl

/-- **Of each setter the last call counts.** -/
theorem chosen_eq (cs : List Choice) :
    chosen cs =
      { sender := Choice.last Choice.sender? cs
        recipient := Choice.last Choice.recipient? cs
        subject := (Choice.last Choice.subject? cs).getD ""
        body := (Choice.last Choice.body? cs).getD ""
        date := Choice.last Choice.date? cs } := by
  rw [chosen, foldl_choose]
  simp only [empty, Option.or_none]

/-! ## Text without line breaks -/

/-- No line ends inside a text. -/
def Plain (cs : List Char) : Prop := ∀ c ∈ cs, isLineBreak c = false

instance (cs : List Char) : Decidable (Plain cs) := List.decidableBAll _ cs

namespace Plain

theorem oneLine (cs : List Char) : Plain (Draft.oneLine cs) := by
  intro c hc
  simpa using (List.mem_filter.mp hc).2

theorem append_iff {a b : List Char} : Plain (a ++ b) ↔ Plain a ∧ Plain b :=
  List.forall_mem_append

theorem append {a b : List Char} (ha : Plain a) (hb : Plain b) : Plain (a ++ b) :=
  append_iff.mpr ⟨ha, hb⟩

theorem cons {c : Char} {cs : List Char} (hc : isLineBreak c = false) (h : Plain cs) :
    Plain (c :: cs) := List.forall_mem_cons.mpr ⟨hc, h⟩

theorem nil : Plain [] := List.forall_mem_nil _

theorem cr_not_mem {cs : List Char} (h : Plain cs) : '\r' ∉ cs :=
  fun hc => absurd (h _ hc) (by decide)

theorem lf_not_mem {cs : List Char} (h : Plain cs) : '\n' ∉ cs :=
  fun hc => absurd (h _ hc) (by decide)

theorem oneLine_eq {cs : List Char} (h : Plain cs) : Draft.oneLine cs = cs :=
  List.filter_eq_self.mpr fun c hc => by rw [h c hc]; rfl

theorem angled {cs : List Char} (h : Plain cs) : Plain (angled cs) :=
  cons rfl (h.append (cons rfl nil))

end Plain

theorem oneLine_append (a b : List Char) : oneLine (a ++ b) = oneLine a ++ oneLine b :=
  List.filter_append ..

theorem oneLine_cons (c : Char) (cs : List Char) :
    oneLine (c :: cs) = if isLineBreak c then oneLine cs else c :: oneLine cs := by
  rw [oneLine, List.filter_cons]
  cases isLineBreak c <;> rfl

theorem oneLine_angled (cs : List Char) : oneLine (angled cs) = angled (oneLine cs) := by
  have open_ : oneLine ['<'] = ['<'] := rfl
  have close : oneLine ['>'] = ['>'] := rfl
  rw [angled, ← List.singleton_append, oneLine_append, oneLine_append, open_, close]
  rfl

theorem plain_escapeName (c : Char) : Plain (escapeName c) := by
  unfold escapeName
  split
  · exact Plain.nil
  · next keep =>
    have hc : isLineBreak c = false := Bool.eq_false_iff.mpr keep
    split
    · exact Plain.cons rfl (Plain.cons hc Plain.nil)
    · exact Plain.cons hc Plain.nil

theorem plain_quotedName (name : List Char) : Plain (quotedName name) := by
  have escaped : Plain (name.flatMap escapeName) := by
    intro c hc
    obtain ⟨n, -, hn⟩ := List.mem_flatMap.mp hc
    exact plain_escapeName n c hn
  exact (Plain.cons rfl escaped).append (Plain.cons rfl Plain.nil)

/-! ## Text of dates -/

theorem plain_padded (width n : Nat) : Plain (Duration.padded width n) := by
  refine Plain.append ?_ ?_
  · intro c hc
    rw [(List.mem_replicate.mp hc).2]
    rfl
  · intro c hc
    have digit := Nat.isDigit_of_mem_toDigits (by decide) (by decide) hc
    rw [isLineBreak, Bool.or_eq_false_iff, beq_eq_false_iff_ne, beq_eq_false_iff_ne]
    constructor
    · rintro rfl
      exact absurd digit (by decide)
    · rintro rfl
      exact absurd digit (by decide)

theorem plain_two (n : Nat) : Plain (Timestamp.two n).toList := by
  rw [Timestamp.two, String.toList_ofList]
  exact plain_padded 2 n

theorem plain_year (y : Int) : Plain (Timestamp.year y).toList := by
  have digits : Plain (String.ofList (Duration.padded 4 y.natAbs)).toList := by
    rw [String.toList_ofList]
    exact plain_padded 4 _
  unfold Timestamp.year
  dsimp only
  split
  · rw [String.toList_append]
    exact Plain.append (by decide) digits
  · split
    · exact digits
    · rw [String.toList_append]
      exact Plain.append (by decide) digits

theorem plain_zone (offset : Int) : Plain (Timestamp.zone offset).toList := by
  have sign : Plain (if offset < 0 then "-" else "+").toList := by split <;> decide
  simp only [Timestamp.zone, String.toList_append, Plain.append_iff]
  exact ⟨⟨sign, plain_two _⟩, plain_two _⟩

theorem plain_getD {names : List String} (h : ∀ s ∈ names, Plain s.toList) (i : Nat) :
    Plain (names.getD i "").toList := by
  rw [List.getD_eq_getElem?_getD]
  cases hi : names[i]? with
  | none => exact Plain.nil
  | some s => exact h s (List.mem_of_getElem? hi)

theorem plain_render (t : Timestamp) : Plain t.render.toList := by
  have weekday : ∀ i, Plain (Timestamp.weekdays.getD i "").toList := plain_getD (by decide)
  have month : ∀ i, Plain (Timestamp.months.getD i "").toList := plain_getD (by decide)
  have comma : Plain ", ".toList := by decide
  have space : Plain " ".toList := by decide
  have colon : Plain ":".toList := by decide
  simp only [Timestamp.render, String.toList_append, Plain.append_iff, and_assoc]
  exact ⟨weekday _, comma, plain_two _, space, month _, space, plain_year _, space, plain_two _,
    colon, plain_two _, colon, plain_two _, space, plain_zone _⟩

/-! ## Header lines -/

def crlf : List Char := ['\r', '\n']

/-- The header lines of a message, without their ends. -/
def headers (sender : Sender) (recipient subject date : String) : List (List Char) :=
  ["MIME-Version: 1.0".toList,
    "Content-Type: text/plain; charset=UTF-8".toList,
    "Date: ".toList ++ oneLine date.toList,
    "From: ".toList ++
      (quotedName sender.name.toList ++ ' ' :: angled (oneLine sender.address.toList)),
    "To: ".toList ++ angled (oneLine recipient.toList),
    "Subject: ".toList ++ oneLine subject.toList]

theorem plain_origin (sender : Sender) :
    Plain (quotedName sender.name.toList ++ ' ' :: angled (oneLine sender.address.toList)) :=
  (plain_quotedName _).append (Plain.cons rfl (Plain.oneLine _).angled)

theorem plain_headers (sender : Sender) (recipient subject date : String) :
    ∀ l ∈ headers sender recipient subject date, Plain l := by
  simp only [headers, List.forall_mem_cons, List.not_mem_nil, false_imp_iff, implies_true, and_true]
  refine ⟨by decide, by decide, ?_, ?_, ?_, ?_⟩
  · exact Plain.append (by decide) (Plain.oneLine _)
  · exact Plain.append (by decide) (plain_origin sender)
  · exact Plain.append (by decide) (Plain.oneLine _).angled
  · exact Plain.append (by decide) (Plain.oneLine _)

theorem headers_ne_nil (sender : Sender) (recipient subject date : String) :
    ∀ l ∈ headers sender recipient subject date, l ≠ [] := by
  simp only [headers, List.forall_mem_cons, List.not_mem_nil, false_imp_iff, implies_true, and_true]
  simp

theorem render_eq (sender : Sender) (recipient subject body date : String) :
    render sender recipient subject body date =
      crlf.intercalate (headers sender recipient subject date) ++ crlf ++ crlf ++ body.toList := by
  have version : oneLine "1.0".toList = "1.0".toList := by decide
  have type : oneLine "text/plain; charset=UTF-8".toList =
      "text/plain; charset=UTF-8".toList := by decide
  have origin := (plain_origin sender).oneLine_eq
  simp only [render, headerLine, version, type, origin, oneLine_angled]
  simp [headers, List.intercalate, crlf]

end Draft

/-! ## Reading -/

/-- What a reader learns from a message. -/
structure Fields where
  date : List Char
  name : List Char
  sender : List Char
  recipient : List Char
  subject : List Char
  body : List Char
  deriving DecidableEq, Repr

namespace Reader

open Draft (crlf Plain)

/-- The text of a quoted string behind its opening quote, where a backslash takes the next character
as it is, and what follows the first quote without a backslash. -/
def quoted : List Char → Option (List Char × List Char)
  | '"' :: rest => some ([], rest)
  | '\\' :: c :: rest => (quoted rest).map fun p => (c :: p.1, p.2)
  | c :: rest => (quoted rest).map fun p => (c :: p.1, p.2)
  | [] => none

/-- The text between the first opening bracket and the last closing one. -/
def between (cs : List Char) : Option (List Char) := do
  let (_, rest) ← cs.dropInfix? ['<']
  let (_, back) ← rest.reverse.dropInfix? ['>']
  return back.reverse

/-- The fields of a message: its head ends at the first empty line and has the date, the sender, the
recipient and the subject on its third to sixth line. -/
def fields (text : List Char) : Option Fields := do
  let (head, body) ← text.dropInfix? (crlf ++ crlf)
  let (_, rest) ← head.dropInfix? crlf
  let (_, rest) ← rest.dropInfix? crlf
  let (date, rest) ← rest.dropInfix? crlf
  let (sender, rest) ← rest.dropInfix? crlf
  let (recipient, subject) ← rest.dropInfix? crlf
  let (name, address) ← quoted (← sender.dropPrefix? "From: \"".toList)
  return {
    date := ← date.dropPrefix? "Date: ".toList
    name := name
    sender := ← between address
    recipient := ← between (← recipient.dropPrefix? "To: ".toList)
    subject := ← subject.dropPrefix? "Subject: ".toList
    body := body }

/-! ### Cutting a text at a mark -/

theorem dropPrefix?_append (start rest : List Char) :
    (start ++ rest).dropPrefix? start = some rest :=
  List.dropPrefix?_append_of_beq rest (beq_self_eq_true start)

/-- A mark does not begin inside a text without its first character. -/
theorem length_le_of_mark {m : Char} {l a rest b : List Char} (hm : m ∉ l)
    (h : l ++ rest = a ++ m :: b) : l.length ≤ a.length := by
  rcases List.append_eq_append_iff.mp h with ⟨x, rfl, -⟩ | ⟨x, rfl, hx⟩
  · rw [List.length_append]
    omega
  · cases x with
    | nil => simp
    | cons c x =>
      obtain ⟨rfl, -⟩ := List.cons.inj hx
      exact absurd (by simp) hm

theorem dropInfix?_mark {m : Char} {l : List Char} (hm : m ∉ l) (ms rest : List Char) :
    (l ++ (m :: ms) ++ rest).dropInfix? (m :: ms) = some (l, rest) := by
  rw [List.dropInfix?_eq_some_iff]
  refine ⟨⟨m :: ms, rfl, beq_self_eq_true _⟩, ?_⟩
  intro a i b h hi
  rw [beq_iff_eq] at hi
  subst hi
  rw [List.append_assoc, List.append_assoc] at h
  exact length_le_of_mark hm h

/-- **The first empty line** ends lines that are not empty themselves. -/
theorem blank_first {ls : List (List Char)} (lines : ∀ l ∈ ls, l ≠ [] ∧ '\r' ∉ l)
    (ne : ls ≠ []) {body a b : List Char}
    (h : crlf.intercalate ls ++ crlf ++ crlf ++ body = a ++ crlf ++ crlf ++ b) :
    (crlf.intercalate ls).length ≤ a.length := by
  induction ls generalizing a with
  | nil => exact absurd rfl ne
  | cons l ls ih =>
    obtain ⟨-, hl⟩ := lines l (.head _)
    cases ls with
    | nil =>
      rw [List.intercalate_singleton] at h ⊢
      simp only [List.append_assoc] at h
      exact length_le_of_mark hl h
    | cons k ls =>
      rw [List.intercalate_cons_cons] at h ⊢
      simp only [List.append_assoc] at h
      obtain ⟨y, rfl⟩ : ∃ y, a = l ++ y :=
        (List.prefix_of_prefix_length_le (List.prefix_append l _) (h ▸ List.prefix_append a _)
          (length_le_of_mark hl h)).imp fun _ => Eq.symm
      rw [List.append_assoc, List.append_cancel_left_eq] at h
      match y, h with
      | [], h =>
        -- the next line would begin with a CR
        obtain ⟨hk, hcr⟩ := lines k (.tail _ (.head _))
        obtain ⟨c, k, rfl⟩ := List.exists_cons_of_ne_nil hk
        have first : c = '\r' := by
          cases ls <;> simp [List.intercalate, crlf] at h <;> exact h.1
        exact absurd (by simp [first]) hcr
      | [_], h => exact absurd (List.cons.inj (List.cons.inj h).2).1 (by decide)
      | _ :: _ :: y, h =>
        have rest : crlf.intercalate (k :: ls) ++ (crlf ++ (crlf ++ body)) =
            y ++ (crlf ++ (crlf ++ b)) := (List.cons.inj (List.cons.inj h).2).2
        simp only [← List.append_assoc] at rest
        have le := ih (fun l' hm => lines l' (.tail _ hm)) (by simp) rest
        have two : crlf.length = 2 := rfl
        simp only [List.length_append, List.length_cons, two] at le ⊢
        omega

/-- A name written between quotes is read back without its line breaks. -/
theorem quoted_escaped (name rest : List Char) :
    quoted (name.flatMap Draft.escapeName ++ '"' :: rest) = some (Draft.oneLine name, rest) := by
  induction name with
  | nil => rfl
  | cons c name ih =>
    rw [List.flatMap_cons, List.append_assoc, Draft.oneLine_cons, Draft.escapeName]
    cases hc : Draft.isLineBreak c with
    | true => exact ih
    | false =>
      simp only [Bool.false_eq_true, if_false]
      split
      · rw [List.cons_append, List.cons_append, List.nil_append, quoted, ih]
        rfl
      · next plain =>
        simp only [Bool.or_eq_true, beq_iff_eq, not_or] at plain
        rw [List.cons_append, List.nil_append, quoted, ih]
        · rfl
        · exact plain.1
        · exact fun _ _ h => absurd h plain.2

/-- An address between brackets is read back, whatever it holds. -/
theorem between_angled (lead : List Char) (h : '<' ∉ lead) (address : List Char) :
    between (lead ++ Draft.angled address) = some address := by
  have opened : (lead ++ Draft.angled address).dropInfix? ['<'] =
      some (lead, address ++ ['>']) := by
    rw [Draft.angled, ← dropInfix?_mark h [] (address ++ ['>'])]
    simp
  have closed : (address ++ ['>']).reverse.dropInfix? ['>'] = some ([], address.reverse) := by
    rw [← dropInfix?_mark (m := '>') List.not_mem_nil [] address.reverse]
    simp
  rw [between, opened]
  simp only [Option.bind_eq_bind, Option.bind_some, closed]
  simp

end Reader

namespace Draft

/-! ## Messages -/

/-- The text of the date: the one that was chosen, or else the current one. -/
def dateText (d : Draft) (now : Timestamp) : String := (d.date.getD now).render

/-- What a draft has to say, header values without their line breaks, if it names a sender and a
recipient. -/
def fields (d : Draft) (now : Timestamp) : Option Fields := do
  let sender ← d.sender
  let recipient ← d.recipient
  return {
    date := (d.dateText now).toList
    name := oneLine sender.name.toList
    sender := oneLine sender.address.toList
    recipient := oneLine recipient.toList
    subject := oneLine d.subject.toList
    body := d.body.toList }

theorem compose_eq (d : Draft) (now : Timestamp) :
    d.compose now.render =
      match d.sender, d.recipient with
      | none, _ => .error (.missingHeader "From")
      | some _, none => .error (.missingHeader "To")
      | some sender, some recipient =>
        .ok (String.ofList (render sender recipient d.subject d.body (d.dateText now))) := by
  rw [compose, dateText]
  cases d.sender <;> cases d.recipient <;> cases d.date <;> rfl

/-- The empty line in front of the body is the first one. -/
theorem cut_render (sender : Sender) (recipient subject body date : String) :
    (render sender recipient subject body date).dropInfix? (crlf ++ crlf) =
      some (crlf.intercalate (headers sender recipient subject date), body.toList) := by
  rw [render_eq, List.dropInfix?_eq_some_iff]
  refine ⟨⟨crlf ++ crlf, by simp only [List.append_assoc], beq_self_eq_true _⟩, ?_⟩
  intro a i b h hi
  rw [beq_iff_eq] at hi
  subst hi
  rw [← List.append_assoc] at h
  refine Reader.blank_first ?_ (List.cons_ne_nil _ _) h
  intro l hl
  exact ⟨headers_ne_nil _ _ _ _ l hl, (plain_headers _ _ _ _ l hl).cr_not_mem⟩

/-- A reader takes from a message what its draft had to say. -/
theorem read_render {d : Draft} {sender : Sender} {recipient : String} (hs : d.sender = some sender)
    (hr : d.recipient = some recipient) (now : Timestamp) :
    Reader.fields (render sender recipient d.subject d.body (d.dateText now)) = d.fields now := by
  have line : ∀ l ∈ headers sender recipient d.subject (d.dateText now), ∀ rest : List Char,
      (l ++ crlf ++ rest).dropInfix? crlf = some (l, rest) := by
    intro l hl rest
    exact Reader.dropInfix?_mark (plain_headers _ _ _ _ l hl).cr_not_mem ['\n'] rest
  simp only [headers, List.forall_mem_cons] at line
  obtain ⟨version, type, dated, sent, addressed, -⟩ := line
  have date : oneLine (d.dateText now).toList = (d.dateText now).toList :=
    (plain_render _).oneLine_eq
  have opened : "From: ".toList ++
      (quotedName sender.name.toList ++ ' ' :: angled (oneLine sender.address.toList)) =
      "From: \"".toList ++ (sender.name.toList.flatMap escapeName ++
        '"' :: ([' '] ++ angled (oneLine sender.address.toList))) := by
    simp [quotedName]
  have address := Reader.between_angled [' '] (by decide) (oneLine sender.address.toList)
  have forward := Reader.between_angled [] (by decide) (oneLine recipient.toList)
  rw [List.nil_append] at forward
  rw [Reader.fields, cut_render, fields, hs, hr]
  simp only [headers, List.intercalate_cons_cons, List.intercalate_singleton, Option.bind_eq_bind,
    Option.bind_some, version, type, dated, sent, addressed]
  simp only [opened, Reader.dropPrefix?_append, Reader.quoted_escaped, date, address, forward,
    Option.bind_some]

/-- A reader of a message gets what its draft had to say. -/
theorem read_compose {d : Draft} {now : Timestamp} {text : String}
    (h : d.compose now.render = .ok text) : Reader.fields text.toList = d.fields now := by
  rw [compose_eq] at h
  cases hs : d.sender with
  | none => rw [hs] at h; cases h
  | some sender =>
    cases hr : d.recipient with
    | none => rw [hs, hr] at h; cases h
    | some recipient =>
      rw [hs, hr, Except.ok.injEq] at h
      rw [← h, String.toList_ofList]
      exact read_render hs hr now

/-- **A message says what was put into it.** Of the setters of a draft the last calls count. Without
a sender or a recipient there is no message. Otherwise its head, which ends at the first empty line,
is six lines without a CR or LF; behind that line stands the body as it is; and a reader takes the
text of the date and all values, without their line breaks, from it. So messages are equal only if
all these are. -/
theorem compose_reads_back (cs : List Choice) (now : Timestamp) :
    chosen cs =
        { sender := Choice.last Choice.sender? cs
          recipient := Choice.last Choice.recipient? cs
          subject := (Choice.last Choice.subject? cs).getD ""
          body := (Choice.last Choice.body? cs).getD ""
          date := Choice.last Choice.date? cs } ∧
      (match (chosen cs).sender, (chosen cs).recipient with
      | none, _ => (chosen cs).compose now.render = .error (.missingHeader "From")
      | some _, none => (chosen cs).compose now.render = .error (.missingHeader "To")
      | some sender, some recipient =>
        ∃ text : String, (chosen cs).compose now.render = .ok text ∧
          let lines := ["MIME-Version: 1.0".toList,
            "Content-Type: text/plain; charset=UTF-8".toList,
            "Date: ".toList ++ ((chosen cs).dateText now).toList,
            "From: ".toList ++
              (quotedName sender.name.toList ++ ' ' :: angled (oneLine sender.address.toList)),
            "To: ".toList ++ angled (oneLine recipient.toList),
            "Subject: ".toList ++ oneLine (chosen cs).subject.toList]
          let head := crlf.intercalate lines
          text.toList = head ++ crlf ++ crlf ++ (chosen cs).body.toList ∧
            (∀ before after, text.toList = before ++ crlf ++ crlf ++ after →
              head.length ≤ before.length) ∧
            (∀ l ∈ lines, '\r' ∉ l ∧ '\n' ∉ l) ∧
            Reader.fields text.toList = some {
              date := ((chosen cs).dateText now).toList
              name := oneLine sender.name.toList
              sender := oneLine sender.address.toList
              recipient := oneLine recipient.toList
              subject := oneLine (chosen cs).subject.toList
              body := (chosen cs).body.toList }) ∧
      ∀ (cs' : List Choice) (now' : Timestamp) (text : String),
        (chosen cs).compose now.render = .ok text →
        (chosen cs').compose now'.render = .ok text →
          (chosen cs).fields now = (chosen cs').fields now' := by
  refine ⟨chosen_eq cs, ?_, ?_⟩
  · rw [compose_eq]
    cases hs : (chosen cs).sender with
    | none => rfl
    | some sender =>
      cases hr : (chosen cs).recipient with
      | none => rfl
      | some recipient =>
        have date : oneLine ((chosen cs).dateText now).toList = ((chosen cs).dateText now).toList :=
          (plain_render _).oneLine_eq
        have text := render_eq sender recipient (chosen cs).subject (chosen cs).body
          ((chosen cs).dateText now)
        have cut := cut_render sender recipient (chosen cs).subject (chosen cs).body
          ((chosen cs).dateText now)
        have plain := plain_headers sender recipient (chosen cs).subject ((chosen cs).dateText now)
        have read := read_render hs hr now
        rw [fields, hs, hr] at read
        rw [headers, date] at text cut plain
        refine ⟨_, rfl, ?_, ?_, ?_, ?_⟩
        · rw [String.toList_ofList]
          exact text
        · rw [String.toList_ofList]
          intro before after h
          refine (List.dropInfix?_eq_some_iff.mp cut).2 before _ after ?_ (beq_self_eq_true _)
          rw [h, List.append_assoc before]
        · exact fun l hl => ⟨(plain l hl).cr_not_mem, (plain l hl).lf_not_mem⟩
        · rw [String.toList_ofList]
          exact read
  · intro cs' now' text h h'
    rw [← read_compose h, ← read_compose h']

/-- A name and a subject with line breaks in them, set last and set first. -/
theorem compose_reads_back_crafted :
    let now : Timestamp := ⟨1709640429, 0, 7200⟩
    let plain : List Choice := [.sender "a@x" "\"E\" Bcc: b@x", .recipient "c@x", .subject "S:<>"]
    let crafted : List Choice := [.subject "none", .recipient "c\n@x",
      .sender "a@\r\nx" "\"E\"\r\n Bcc: b@x", .subject "S:\r\n<>"]
    let text := "MIME-Version: 1.0\r\nContent-Type: text/plain; charset=UTF-8\r\nDate: " ++
      "Tue, 05 Mar 2024 14:07:09 +0200\r\nFrom: \"\\\"E\\\" Bcc: b@x\" <a@x>\r\nTo: <c@x>\r\n" ++
      "Subject: S:<>\r\n\r\n"
    (chosen plain).compose now.render = .ok text ∧
      (chosen crafted).compose now.render = .ok text ∧
      (chosen plain).fields now = (chosen crafted).fields now := by
  intro now plain crafted text
  have one : (chosen plain).compose now.render = .ok text := by decide +kernel
  have two : (chosen crafted).compose now.render = .ok text := by decide +kernel
  exact ⟨one, two, (compose_reads_back plain now).2.2 crafted now text one two⟩

end Draft

end Outbox
