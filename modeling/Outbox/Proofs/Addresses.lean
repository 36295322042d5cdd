import Outbox.Proofs.Framing
import Outbox.Proofs.Headers

/-!
# Addresses in front of a message and in it

The two addresses of a letter travel twice, on the envelope and in the headers of the message.

* `Reader.lines`, `Reader.header`: a reader that looks a header up by its name.
  `Reader.header_render` is what it finds.
* `Envelope.path_suffix`: a text that ends with an address between brackets ends with its path only
  if that address has no white space around it.
* `Letter.prepare_addresses`: **the envelope has the addresses of the headers**, without the white
  space around them. So header and path are the same exactly if there was none.
-/

set_option autoImplicit false

namespace Outbox

/-! ## Looking headers up -/

namespace Reader

open Draft (crlf Plain)

/-- The lines of a text, which CRLF separates. -/
def lines : List Char → List (List Char)
  | '\r' :: '\n' :: rest => [] :: lines rest
  | c :: rest => match lines rest with
    | l :: ls => (c :: l) :: ls
    | [] => [[c]]
  | [] => [[]]

/-- What stands behind the name of a header, on the first line in front of the first empty one that
begins with it. -/
def header (name : String) (text : List Char) : Option (List Char) :=
  ((lines text).takeWhile fun l => !l.isEmpty).findSome? fun l =>
    l.dropPrefix? (name.toList ++ [':', ' '])

theorem lines_append {l : List Char} (h : '\r' ∉ l) (rest : List Char) :
    lines (l ++ (crlf ++ rest)) = l :: lines rest := by
  induction l with
  | nil => rfl
  | cons c l ih =>
    have first : c ≠ '\r' := fun same => h (same ▸ List.mem_cons_self)
    rw [List.cons_append, lines, ih fun mem => h (List.mem_cons_of_mem _ mem)]
    exact fun _ same _ => first same

theorem lines_intercalate {ls : List (List Char)} (nonempty : ls ≠ []) (h : ∀ l ∈ ls, '\r' ∉ l)
    (rest : List Char) : lines (crlf.intercalate ls ++ (crlf ++ rest)) = ls ++ lines rest := by
  induction ls with
  | nil => exact absurd rfl nonempty
  | cons l ls ih =>
    obtain ⟨first, others⟩ := List.forall_mem_cons.mp h
    cases ls with
    | nil => rw [List.intercalate_singleton, lines_append first, List.singleton_append]
    | cons k ls =>
      rw [List.intercalate_cons_cons, List.append_assoc, List.append_assoc, lines_append first,
        ih (List.cons_ne_nil k ls) others]
      rfl

/-- A reader of a message looks a header up among the header lines. -/
theorem header_render (name : String) (sender : Sender) (recipient subject body date : String) :
    header name (Draft.render sender recipient subject body date) =
      (Draft.headers sender recipient subject date).findSome? fun l =>
        l.dropPrefix? (name.toList ++ [':', ' ']) := by
  have full : ∀ l ∈ Draft.headers sender recipient subject date, (!l.isEmpty) = true := by
    intro l hl
    rw [Bool.not_eq_true', List.isEmpty_eq_false_iff]
    exact Draft.headers_ne_nil sender recipient subject date l hl
  have split : lines (Draft.render sender recipient subject body date) =
      Draft.headers sender recipient subject date ++ [] :: lines body.toList := by
    rw [Draft.render_eq, List.append_assoc, List.append_assoc]
    exact lines_intercalate (List.cons_ne_nil _ _)
      (fun l hl => (Draft.plain_headers sender recipient subject date l hl).cr_not_mem) _
  rw [header, split, List.takeWhile_append_of_pos full]
  simp

theorem header_to (sender : Sender) (recipient subject body date : String) :
    header "To" (Draft.render sender recipient subject body date) =
      some (Draft.angled (Draft.oneLine recipient.toList)) := by
  have version : "MIME-Version: 1.0".toList.dropPrefix? "To: ".toList = none := rfl
  have type : "Content-Type: text/plain; charset=UTF-8".toList.dropPrefix? "To: ".toList =
    none := rfl
  have dated (value : List Char) : ("Date: ".toList ++ value).dropPrefix? "To: ".toList =
    none := rfl
  have sent (value : List Char) : ("From: ".toList ++ value).dropPrefix? "To: ".toList =
    none := rfl
  have name : "To".toList ++ [':', ' '] = "To: ".toList := rfl
  rw [header_render, Draft.headers]
  simp only [List.findSome?_cons, name, version, type, dated, sent, dropPrefix?_append]

theorem header_from (sender : Sender) (recipient subject body date : String) :
    header "From" (Draft.render sender recipient subject body date) =
      some (Draft.quotedName sender.name.toList ++
        ' ' :: Draft.angled (Draft.oneLine sender.address.toList)) := by
  have version : "MIME-Version: 1.0".toList.dropPrefix? "From: ".toList = none := rfl
  have type : "Content-Type: text/plain; charset=UTF-8".toList.dropPrefix? "From: ".toList =
    none := rfl
  have dated (value : List Char) : ("Date: ".toList ++ value).dropPrefix? "From: ".toList =
    none := rfl
  have name : "From".toList ++ [':', ' '] = "From: ".toList := rfl
  rw [header_render, Draft.headers]
  simp only [List.findSome?_cons, name, version, type, dated, dropPrefix?_append]

end Reader

/-! ## Paths -/

namespace Envelope

theorem toList_path (address : String) :
    (path address).toList = Draft.angled (Text.trimChars address.toList) :=
  String.toList_ofList

theorem length_trimChars_le (cs : List Char) : (Text.trimChars cs).length ≤ cs.length := by
  rw [Text.trimChars, List.length_reverse]
  refine (List.dropWhile_sublist _).length_le.trans ?_
  rw [List.length_reverse]
  exact (List.dropWhile_sublist _).length_le

/-- The line of an accepted address holds all of it. -/
theorem oneLine_mailbox {address : String} (h : isMailbox address = true) :
    Draft.oneLine address.toList = address.toList := by
  refine Draft.Plain.oneLine_eq fun c hc => ?_
  have sound := breaksPath_of_mem h hc
  simp only [breaksPath, Bool.or_eq_false_iff] at sound
  rw [Draft.isLineBreak, sound.1.1.1.1, sound.1.1.1.2]
  rfl

theorem angled_inj {a b : List Char} : Draft.angled a = Draft.angled b ↔ a = b := by
  rw [Draft.angled, Draft.angled, List.cons_append, List.cons_append, List.cons_inj_right,
    List.append_left_inj]

/-- An address in brackets is its path exactly if no white space is around it. -/
theorem angled_eq_path {address : String} :
    Draft.angled address.toList = (path address).toList ↔ Text.trim address = address := by
  rw [toList_path, angled_inj, Text.trim, ← String.toList_inj, String.toList_ofList, eq_comm]

/-- A text that ends with an address in brackets ends with its path exactly if no white space is
around the address. -/
theorem path_suffix {address : String} (h : isMailbox address = true) (lead : List Char) :
    ' ' :: (path address).toList <:+ lead ++ ' ' :: Draft.angled address.toList ↔
      Text.trim address = address := by
  rw [← angled_eq_path]
  constructor
  · intro ends
    have inner : (path address).toList <:+ Draft.angled address.toList := by
      refine List.suffix_of_suffix_length_le ((List.suffix_cons _ _).trans ends)
        ((List.suffix_cons _ _).trans (List.suffix_append lead _)) ?_
      have shorter := length_trimChars_le address.toList
      simpa [toList_path, Draft.angled] using shorter
    rcases List.suffix_cons_iff.mp inner with whole | part
    · exact whole.symm
    · -- the path would begin inside the address, but its bracket does not stand there
      have bracket : '<' ∈ address.toList ++ ['>'] := by
        refine part.subset ?_
        rw [toList_path]
        exact List.mem_cons_self
      rw [List.mem_append, or_iff_left (by decide)] at bracket
      exact absurd (breaksPath_of_mem h bracket) (by decide)
  · intro same
    rw [same]
    exact List.suffix_append lead _

end Envelope

/-! ## Letters -/

namespace Letter

open Draft (angled quotedName)

variable {l : Letter} {a : Account} {limits : Timeouts} {now : String} {tr : Transfer}

theorem angled_toList (s : String) : angled s.toList = ("<" ++ s ++ ">").toList := by
  simp [angled, String.toList_append]

/-- **The addresses of a letter**, on the envelope and in the headers. The envelope has them without
the white space around them. The headers have them as they were handed in, so a header agrees with
its path exactly if there is no such white space. -/
theorem prepare_addresses (h : l.prepare a limits now = .ok tr) :
    ∃ text forward reverse : String,
      tr.payload = some (Payload.ofString text) ∧ tr.recipients = some ⟨[forward]⟩ ∧
      tr.mailFrom = some reverse ∧
      (forward = "<" ++ Text.trim l.recipient ++ ">" ∧ reverse = "<" ++ Text.trim l.sender ++ ">") ∧
      Reader.header "To" text.toList = some ("<" ++ l.recipient ++ ">").toList ∧
      Reader.header "From" text.toList =
        some (quotedName l.senderName.toList ++ ' ' :: ("<" ++ l.sender ++ ">").toList) ∧
      (Reader.header "To" text.toList = some forward.toList ↔ Text.trim l.recipient = l.recipient) ∧
      ((∃ value, Reader.header "From" text.toList = some value ∧
          ' ' :: reverse.toList <:+ value) ↔ Text.trim l.sender = l.sender) := by
  obtain ⟨hr, hs, text, composed, ready⟩ := prepare_eq_ok h
  obtain rfl : String.ofList (Draft.render ⟨l.sender, l.senderName⟩ l.recipient l.subject l.body
    now) = text := Except.ok.inj composed
  rw [Transfer.ready?_eq_ok_iff] at ready
  have forward := Reader.header_to ⟨l.sender, l.senderName⟩ l.recipient l.subject l.body now
  have reverse := Reader.header_from ⟨l.sender, l.senderName⟩ l.recipient l.subject l.body now
  rw [Envelope.oneLine_mailbox hr] at forward
  rw [Envelope.oneLine_mailbox hs] at reverse
  refine ⟨_, _, _, by rw [ready]; rfl, by rw [ready]; rfl, by rw [ready]; rfl,
    ⟨Envelope.path_eq _, Envelope.path_eq _⟩, ?_⟩
  rw [String.toList_ofList, forward, reverse, ← angled_toList, ← angled_toList]
  refine ⟨rfl, rfl, Option.some_inj.trans Envelope.angled_eq_path, ?_⟩
  simp only [Option.some.injEq, exists_eq_left']
  exact Envelope.path_suffix hs _

/-- A letter with white space around its addresses. -/
def padded : Letter := ⟨" bob@b.example", "ann@a.example\t", "Ann", "hi", "text\n"⟩

/-- An account without credentials. -/
def anonymous : Account := ⟨"", "smtp://mx", "mx", 25, "", "", .disabled⟩

theorem prepare_addresses_padded :
    (∃ tr, padded.prepare anonymous .standard "now" = .ok tr) ∧
      ∃ text : String, Reader.header "To" text.toList = some "< bob@b.example>".toList ∧
        Reader.header "From" text.toList = some "\"Ann\" <ann@a.example\t>".toList := by
  have prepared : padded.prepare anonymous .standard "now" = .ok _ := rfl
  obtain ⟨text, _, _, -, -, -, -, forward, reverse, -⟩ := prepare_addresses prepared
  exact ⟨⟨_, prepared⟩, text, forward, reverse⟩

/-- **Header and path differ** for such a letter, both for the recipient and for the sender. -/
theorem header_disagrees :
    ∃ (tr : Transfer) (text forward reverse : String) (value : List Char),
      padded.prepare anonymous .standard "now" = .ok tr ∧
      tr.payload = some (Payload.ofString text) ∧
      tr.recipients = some ⟨[forward]⟩ ∧ Reader.header "To" text.toList ≠ some forward.toList ∧
      tr.mailFrom = some reverse ∧ Reader.header "From" text.toList = some value ∧
        ¬(' ' :: reverse.toList <:+ value) := by
  have prepared : padded.prepare anonymous .standard "now" = .ok _ := rfl
  have forward := Reader.header_to ⟨padded.sender, padded.senderName⟩ padded.recipient
    padded.subject padded.body "now"
  have reverse := Reader.header_from ⟨padded.sender, padded.senderName⟩ padded.recipient
    padded.subject padded.body "now"
  rw [← String.toList_ofList (l := Draft.render _ _ _ _ _)] at forward reverse
  refine ⟨_, _, _, _, _, prepared, rfl, rfl, fun same => ?_, rfl, reverse, by decide⟩
  exact absurd (forward.symm.trans same) (by decide)

end Letter

end Outbox
