import Mathlib.Data.List.Induction
import Outbox.Proofs.Replies
import Outbox.Proofs.Transparency
import Outbox.Proofs.Utf8

/-!
# The grammar of replies

What a reply is, said in lines and without a reader: empty lines and continuations of one code, and
then a last line of that code.

* `Reply.Line.Spelled`, `Reply.Malformed`: the forms of a line, and what is wrong with any other.
  `Line.ofBytes_eq_ok_iff` and `Line.ofBytes_eq_error_iff` say that a line is read by its form.
* `Reply.Opening`, `Reply.Whole`, `Reply.Breaks`: lines that are the beginning of a reply, a whole
  reply, or a beginning and then a line that no reply can go on with. Any lines begin in one of
  these ways (`Opening.cases`).
* `Reply.ofBytes_grammar`: **the reader finds exactly what the grammar says**, with the octets that
  a reply fills, or the fault of the first line that breaks it. Replies written one behind the other
  are found one behind the other.
-/

set_option autoImplicit false

namespace Outbox.Reply

/-! ## Forms of a line -/

/-- Three decimal digits, and the code that they spell. -/
structure SpellsCode (code : Nat) (ds : List Char) : Prop where
  length : ds.length = 3
  digits : ∀ c ∈ ds, c.isDigit = true
  value : decimal ds = code

/-- The characters of a line: a code, alone or followed by a space and text on the last line of a
reply, by a dash and text on the others. -/
inductive Line.Spelled : Line → List Char → Prop where
  | bare {code : Nat} {ds : List Char} (h : SpellsCode code ds) : Spelled ⟨code, true, ""⟩ ds
  | last {code : Nat} {ds : List Char} (h : SpellsCode code ds) (text : String) :
      Spelled ⟨code, true, text⟩ (ds ++ ' ' :: text.toList)
  | continued {code : Nat} {ds : List Char} (h : SpellsCode code ds) (text : String) :
      Spelled ⟨code, false, text⟩ (ds ++ '-' :: text.toList)

/-- What is wrong with characters that are no line: no character ends behind the third octet, there
is something other than digits before it, or something else than a space or a dash behind it. -/
inductive Malformed : List Char → ReplyFault → Prop where
  | tooShort {cs : List Char} (h : ∀ a b, cs = a ++ b → (Utf8.encodeChars a).length ≠ 3) :
      Malformed cs (.tooShort (String.ofList cs))
  | badCode {a : List Char} (h : (Utf8.encodeChars a).length = 3)
      (strange : ∃ c ∈ a, c.isDigit = false) (b : List Char) :
      Malformed (a ++ b) (.badCode (String.ofList a))
  | badSeparator {code : Nat} {ds : List Char} (h : SpellsCode code ds) {c : Char} (hs : c ≠ ' ')
      (hd : c ≠ '-') (b : List Char) : Malformed (ds ++ c :: b) (.badSeparator c)

theorem length_encodeChar_digit {c : Char} (h : c.isDigit = true) :
    (Utf8.encodeChar c).length = 1 := by
  have ascii : c.toNat < 0x80 := by
    have := (Char.isDigit_iff_toNat.mp h).2
    exact Nat.lt_of_le_of_lt this (by decide)
  rw [Utf8.encodeChar, if_pos ascii]
  rfl

theorem length_encodeChars_digits {ds : List Char} (h : ∀ c ∈ ds, c.isDigit = true) :
    (Utf8.encodeChars ds).length = ds.length := by
  induction ds with
  | nil => rfl
  | cons d ds ih =>
    rw [List.forall_mem_cons] at h
    rw [Utf8.encodeChars_cons, List.length_append, length_encodeChar_digit h.1, ih h.2,
      List.length_cons, Nat.add_comm]

theorem length_encodeChar_pos (c : Char) : 0 < (Utf8.encodeChar c).length := by
  obtain ⟨a, tl, h, -⟩ := Utf8.head_encodeChar c []
  rw [h]
  exact Nat.succ_pos _

theorem cutOctets_append (a b : List Char) :
    cutOctets (Utf8.encodeChars a).length (a ++ b) = some (a, b) := by
  induction a with
  | nil => rw [Utf8.encodeChars_nil, List.length_nil, cutOctets, List.nil_append]
  | cons c a ih =>
    obtain ⟨k, hk⟩ := Nat.exists_eq_add_one.mpr (length_encodeChar_pos c)
    have size : (Utf8.encodeChars (c :: a)).length = k + (Utf8.encodeChars a).length + 1 := by
      rw [Utf8.encodeChars_cons, List.length_append, hk, Nat.add_right_comm]
    have left : k + (Utf8.encodeChars a).length + 1 - (k + 1) = (Utf8.encodeChars a).length := by
      omega
    rw [size, List.cons_append, cutOctets]
    dsimp only
    rw [hk, if_pos (by omega), left, ih]
    rfl

/-- Characters are cut where one of them ends. -/
theorem cutOctets_eq_some_iff {n : Nat} {cs a b : List Char} :
    cutOctets n cs = some (a, b) ↔ cs = a ++ b ∧ (Utf8.encodeChars a).length = n := by
  constructor
  · intro h
    induction cs generalizing n a with
    | nil =>
      cases n with
      | zero =>
        cases h
        exact ⟨rfl, rfl⟩
      | succ n => cases h
    | cons c cs ih =>
      cases n with
      | zero =>
        cases h
        exact ⟨rfl, rfl⟩
      | succ n =>
        rw [cutOctets] at h
        dsimp only at h
        split at h
        · next fits =>
          obtain ⟨⟨a, b'⟩, cut, same⟩ := Option.map_eq_some_iff.mp h
          obtain ⟨rfl, rfl⟩ := Prod.mk.inj same
          obtain ⟨rfl, left⟩ := ih cut
          refine ⟨rfl, ?_⟩
          rw [Utf8.encodeChars_cons, List.length_append, left]
          exact Nat.add_sub_of_le fits
        · cases h
  · rintro ⟨rfl, rfl⟩
    exact cutOctets_append a b

namespace SpellsCode

variable {code : Nat} {ds : List Char}

theorem cut (h : SpellsCode code ds) (rest : List Char) :
    cutOctets 3 (ds ++ rest) = some (ds, rest) :=
  cutOctets_eq_some_iff.mpr ⟨rfl, (length_encodeChars_digits h.digits).trans h.length⟩

theorem all (h : SpellsCode code ds) : ds.all Char.isDigit = true := List.all_eq_true.mpr h.digits

/-- A code is what three octets of digits make. -/
theorem of_digits (h : (Utf8.encodeChars ds).length = 3) (digits : ds.all Char.isDigit = true) :
    SpellsCode (decimal ds) ds :=
  have digits := List.all_eq_true.mp digits
  ⟨(length_encodeChars_digits digits).symm.trans h, digits, rfl⟩

end SpellsCode

namespace Line

theorem ofChars_of_spelled {line : Line} {cs : List Char} (h : Spelled line cs) :
    ofChars cs = .ok line := by
  cases h with
  | bare h =>
    have cut := h.cut []
    rw [List.append_nil] at cut
    simp [ofChars, cut, h.all, h.value]
  | last h text => simp [ofChars, h.cut, h.all, h.value]
  | continued h text => simp [ofChars, h.cut, h.all, h.value]

theorem ofChars_of_malformed {cs : List Char} {f : ReplyFault} (h : Malformed cs f) :
    ofChars cs = .error f := by
  cases h with
  | tooShort h =>
    have uncut : cutOctets 3 cs = none := by
      cases hc : cutOctets 3 cs with
      | none => rfl
      | some r =>
        obtain ⟨hcs, three⟩ := cutOctets_eq_some_iff.mp hc
        exact absurd three (h _ _ hcs)
    rw [ofChars, uncut]
  | @badCode a h strange b =>
    have odd : a.all Char.isDigit = false := by
      rw [List.all_eq_false]
      obtain ⟨c, hc, hd⟩ := strange
      exact ⟨c, hc, by simp [hd]⟩
    rw [ofChars, cutOctets_eq_some_iff.mpr ⟨rfl, h⟩]
    simp [odd]
  | badSeparator h hs hd b => simp [ofChars, h.cut, h.all, hs, hd]

/-- Characters have the form of a line, or something is wrong with them. -/
theorem spelled_or_malformed (cs : List Char) :
    (∃ line, Spelled line cs) ∨ ∃ f, Malformed cs f := by
  cases cut : cutOctets 3 cs with
  | none =>
    refine .inr ⟨_, .tooShort fun a b hcs three => ?_⟩
    rw [cutOctets_eq_some_iff.mpr ⟨hcs, three⟩] at cut
    cases cut
  | some r =>
    obtain ⟨ds, rest⟩ := r
    obtain ⟨rfl, three⟩ := cutOctets_eq_some_iff.mp cut
    cases digits : ds.all Char.isDigit with
    | false =>
      obtain ⟨c, hc, hd⟩ := List.all_eq_false.mp digits
      exact .inr ⟨_, .badCode three ⟨c, hc, eq_false_of_ne_true hd⟩ rest⟩
    | true =>
      have code := SpellsCode.of_digits three digits
      cases rest with
      | nil =>
        rw [List.append_nil]
        exact .inl ⟨_, .bare code⟩
      | cons c text =>
        by_cases hs : c = ' '
        · subst hs
          rw [← String.toList_ofList (l := text)]
          exact .inl ⟨_, .last code _⟩
        · by_cases hd : c = '-'
          · subst hd
            rw [← String.toList_ofList (l := text)]
            exact .inl ⟨_, .continued code _⟩
          · exact .inr ⟨_, .badSeparator code hs hd text⟩

/-- The octets of a line. -/
def Sent (line : Line) (bytes : Bytes) : Prop :=
  ∃ cs, bytes = Utf8.encodeChars cs ∧ Spelled line cs

/-- What is wrong with octets that are no line: they are no text, or the text has not the form. -/
inductive Faulty : Bytes → SessionError → Prop where
  | notText {bytes : Bytes} {f : Utf8.Fault} (h : ∀ cs, bytes ≠ Utf8.encodeChars cs)
      (fault : Utf8.decodeChars bytes = .error f) : Faulty bytes (.notText f)
  | malformed {cs : List Char} {f : ReplyFault} (h : Malformed cs f) :
      Faulty (Utf8.encodeChars cs) (.badReply f)

theorem ofBytes_of_sent {line : Line} {bytes : Bytes} (h : Sent line bytes) :
    ofBytes bytes = .ok line := by
  obtain ⟨cs, hb, spelled⟩ := h
  rw [ofBytes, Utf8.decodeChars_eq_ok_iff.mpr hb]
  simp only [ofChars_of_spelled spelled]

theorem ofBytes_of_faulty {bytes : Bytes} {e : SessionError} (h : Faulty bytes e) :
    ofBytes bytes = .error e := by
  cases h with
  | notText h fault => rw [ofBytes, fault]
  | malformed h =>
    rw [ofBytes, Utf8.decodeChars_eq_ok_iff.mpr rfl]
    simp only [ofChars_of_malformed h]

theorem sent_or_faulty (bytes : Bytes) : (∃ line, Sent line bytes) ∨ ∃ e, Faulty bytes e := by
  cases text : Utf8.decodeChars bytes with
  | error f =>
    refine .inr ⟨_, .notText (fun cs hb => ?_) text⟩
    rw [Utf8.decodeChars_eq_ok_iff.mpr hb] at text
    cases text
  | ok cs =>
    obtain rfl := Utf8.decodeChars_eq_ok_iff.mp text
    rcases spelled_or_malformed cs with ⟨line, spelled⟩ | ⟨f, malformed⟩
    · exact .inl ⟨line, cs, rfl, spelled⟩
    · exact .inr ⟨_, .malformed malformed⟩

theorem length_of_sent {line : Line} {bytes : Bytes} (h : Sent line bytes) : 3 ≤ bytes.length := by
  obtain ⟨cs, rfl, spelled⟩ := h
  have three {code : Nat} {ds rest : List Char} (h : SpellsCode code ds) :
      3 ≤ (Utf8.encodeChars (ds ++ rest)).length := by
    rw [Utf8.encodeChars_append, List.length_append, length_encodeChars_digits h.digits, h.length]
    omega
  cases spelled with
  | bare h => exact List.append_nil cs ▸ three h
  | last h text => exact three h
  | continued h text => exact three h

end Line

/-! ## Lines of a reply -/

/-- Octets between line ends, each closed by LF. -/
def ended (ls : List Bytes) : Bytes := ls.flatMap (· ++ [lf])

@[simp] theorem ended_nil : ended [] = [] := rfl

theorem ended_cons (l : Bytes) (ls : List Bytes) : ended (l :: ls) = l ++ lf :: ended ls := by
  simp [ended]

theorem ended_append (ls ls' : List Bytes) : ended (ls ++ ls') = ended ls ++ ended ls' :=
  List.flatMap_append

/-- Octets are some ended lines and an open one. -/
theorem exists_lines (bytes : Bytes) :
    ∃ ls rest, bytes = ended ls ++ rest ∧ (∀ l ∈ ls, lf ∉ l) ∧ lf ∉ rest := by
  induction bytes with
  | nil => exact ⟨[], [], rfl, nofun, nofun⟩
  | cons b bytes ih =>
    obtain ⟨ls, rest, rfl, lines, hrest⟩ := ih
    by_cases hb : b = lf
    · subst hb
      refine ⟨[] :: ls, rest, rfl, ?_, hrest⟩
      rw [List.forall_mem_cons]
      exact ⟨nofun, lines⟩
    · cases ls with
      | nil => exact ⟨[], b :: rest, rfl, nofun, by simp [hrest, Ne.symm hb]⟩
      | cons l ls =>
        rw [List.forall_mem_cons] at lines
        refine ⟨(b :: l) :: ls, rest, ?_, ?_, hrest⟩
        · simp only [ended_cons, List.cons_append]
        · rw [List.forall_mem_cons]
          exact ⟨by simp [lines.1, Ne.symm hb], lines.2⟩

/-- Empty lines and continuations of one code, with the texts of the continuations. -/
inductive Opening (code : Nat) : List Bytes → List String → Prop where
  | nil : Opening code [] []
  | blank {l : Bytes} {ls : List Bytes} {ts : List String} (line : lf ∉ l)
      (content : withoutCr l = []) (rest : Opening code ls ts) : Opening code (l :: ls) ts
  | continued {l : Bytes} {ls : List Bytes} {t : String} {ts : List String} (line : lf ∉ l)
      (content : Line.Sent ⟨code, false, t⟩ (withoutCr l)) (rest : Opening code ls ts) :
      Opening code (l :: ls) (t :: ts)

/-- An opening and a last line of its code. -/
inductive Whole : Reply → List Bytes → Prop where
  | mk {code : Nat} {ls : List Bytes} {ts : List String} {l : Bytes} {t : String}
      (opening : Opening code ls ts) (line : lf ∉ l)
      (last : Line.Sent ⟨code, true, t⟩ (withoutCr l)) : Whole ⟨code, ts ++ [t]⟩ (ls ++ [l])

/-- A line that cannot follow an opening: it is no line, or it has another code than the
continuations. -/
inductive Breaks (ls : List Bytes) (bad : Bytes) : SessionError → Prop where
  | faulty {code : Nat} {ts : List String} {e : SessionError} (opening : Opening code ls ts)
      (line : lf ∉ bad) (content : withoutCr bad ≠ []) (h : Line.Faulty (withoutCr bad) e) :
      Breaks ls bad e
  | otherCode {code : Nat} {ts : List String} {l : Line} (opening : Opening code ls ts)
      (line : lf ∉ bad) (content : Line.Sent l (withoutCr bad)) (begun : ts ≠ [])
      (h : l.code ≠ code) : Breaks ls bad (.badReply (.codeMismatch code l.code))

namespace Opening

variable {code : Nat} {ls ls' : List Bytes} {ts ts' : List String}

theorem append (h : Opening code ls ts) (h' : Opening code ls' ts') :
    Opening code (ls ++ ls') (ts ++ ts') := by
  induction h with
  | nil => exact h'
  | blank line content _ ih => exact .blank line content ih
  | continued line content _ ih => exact .continued line content ih

/-- Where no line carries a code, any code will do. -/
theorem of_blank (h : Opening code ls []) (code' : Nat) : Opening code' ls [] := by
  generalize hts : ([] : List String) = ts at h
  induction h with
  | nil => exact .nil
  | blank line content _ ih => exact .blank line content (ih hts)
  | continued => cases hts

/-- Lines open a reply, or their front is a whole one, or one of them breaks it. -/
theorem cases (lines : ∀ l ∈ ls, lf ∉ l) :
    (∃ code ts, Opening code ls ts) ∨ (∃ r front rest, ls = front ++ rest ∧ Whole r front) ∨
      ∃ e front bad rest, ls = front ++ bad :: rest ∧ Breaks front bad e := by
  induction ls using List.reverseRecOn with
  | nil => exact .inl ⟨0, [], .nil⟩
  | append_singleton ls l ih =>
    rw [List.forall_mem_append, List.forall_mem_singleton] at lines
    obtain ⟨lines, line⟩ := lines
    rcases ih lines with ⟨code, ts, opening⟩ | ⟨r, front, rest, rfl, whole⟩ |
      ⟨e, front, bad, rest, rfl, breaks⟩
    · by_cases blank : withoutCr l = []
      · have more := opening.append (.blank line blank .nil)
        exact .inl ⟨code, _, more⟩
      · rcases Line.sent_or_faulty (withoutCr l) with ⟨⟨code', isLast, t⟩, sent⟩ | ⟨e, faulty⟩
        · by_cases same : ts = [] ∨ code' = code
          · -- the first line that carries a code sets it
            have opening : Opening code' ls ts := by
              rcases same with rfl | rfl
              · exact opening.of_blank code'
              · exact opening
            cases isLast with
            | true => exact .inr (.inl ⟨_, ls ++ [l], [], by simp, .mk opening line sent⟩)
            | false => exact .inl ⟨code', _, opening.append (.continued line sent .nil)⟩
          · rw [not_or] at same
            exact .inr (.inr ⟨_, ls, l, [], rfl, .otherCode opening line sent same.1 same.2⟩)
        · exact .inr (.inr ⟨e, ls, l, [], rfl, .faulty opening line blank faulty⟩)
    · exact .inr (.inl ⟨r, front, rest ++ [l], List.append_assoc .., whole⟩)
    · exact .inr (.inr ⟨e, front, bad, rest ++ [l], by simp, breaks⟩)

end Opening

/-! ## Reading lines -/

theorem dropCr_reverse (l : Bytes) : (dropCr l.reverse).reverse = withoutCr l := by
  rcases List.eq_nil_or_concat l with rfl | ⟨l, b, rfl⟩
  · rfl
  · rw [List.concat_eq_append, List.reverse_append]
    by_cases hb : b = cr
    · subst hb
      rw [withoutCr_append_cr]
      exact List.reverse_reverse l
    · have kept : dropCr ([b].reverse ++ l.reverse) = [b].reverse ++ l.reverse := by
        unfold dropCr
        split
        · next h => exact absurd (List.cons.inj h).1 hb
        · rfl
      rw [kept, withoutCr_of_ne (by simp [hb])]
      simp

section

variable {l : Bytes} (h : lf ∉ l) (line : Bytes) (seen : Partial) (consumed : Nat) (rest : Bytes)
include h

/-- Octets other than LF are gathered. -/
theorem scan_gather : scan line seen consumed (l ++ rest) =
    scan (l.reverse ++ line) seen (consumed + l.length) rest := by
  induction l generalizing line consumed with
  | nil => rfl
  | cons b l ih =>
    rw [List.mem_cons, not_or] at h
    rw [List.cons_append, scan, if_pos (Ne.symm h.1), ih h.2, List.reverse_cons, List.append_assoc,
      List.length_cons, Nat.add_assoc, Nat.add_comm 1]
    rfl

theorem scan_rest : scan line seen consumed l = .ok none := by
  have all := scan_gather h line seen consumed []
  rw [List.append_nil] at all
  rw [all, scan]

/-- A line is judged by its content once it ends. -/
theorem scan_line : scan [] seen consumed (l ++ lf :: rest) =
    if withoutCr l = [] then scan [] seen (consumed + (l.length + 1)) rest
    else match Line.ofBytes (withoutCr l) with
      | .error e => .error e
      | .ok t =>
        match seen.add t with
        | .error e => .error e
        | .ok (code, texts) =>
          if t.isLast then .ok (some (⟨code, texts.reverse⟩, consumed + (l.length + 1)))
          else scan [] (some (code, texts)) (consumed + (l.length + 1)) rest := by
  have content : (dropCr l.reverse).isEmpty = true ↔ withoutCr l = [] := by
    rw [← dropCr_reverse, List.reverse_eq_nil_iff, List.isEmpty_iff]
  rw [scan_gather h, List.append_nil, scan, if_neg (by simp), dropCr_reverse, Nat.add_assoc]
  by_cases blank : withoutCr l = []
  · rw [if_pos blank]
    exact if_pos (content.mpr blank)
  · rw [if_neg blank]
    exact if_neg (blank ∘ content.mp)

end

/-- What is remembered of an opening. -/
def noted (code : Nat) (ts : List String) : Partial :=
  if ts = [] then none else some (code, ts.reverse)

theorem add_noted (code : Nat) (ts : List String) (isLast : Bool) (t : String) :
    (noted code ts).add ⟨code, isLast, t⟩ = .ok (code, (ts ++ [t]).reverse) := by
  cases ts with
  | nil => rfl
  | cons u us => simp [noted, Partial.add]

theorem noted_append (code : Nat) (ts : List String) (t : String) :
    noted code (ts ++ [t]) = some (code, (ts ++ [t]).reverse) := if_neg (by simp)

/-- An opening is read and remembered. -/
theorem Opening.scan {code : Nat} {ls : List Bytes} {ts : List String} (h : Opening code ls ts)
    (before : List String) (consumed : Nat) (rest : Bytes) :
    Reply.scan [] (noted code before) consumed (ended ls ++ rest) =
      Reply.scan [] (noted code (before ++ ts)) (consumed + (ended ls).length) rest := by
  induction h generalizing before consumed with
  | nil => rw [List.append_nil]; rfl
  | @blank l ls ts line content _ ih =>
    rw [ended_cons, List.append_assoc, List.cons_append, scan_line line, if_pos content, ih]
    simp [Nat.add_assoc, Nat.add_comm 1]
  | @continued l ls t ts line content _ ih =>
    have some_content : withoutCr l ≠ [] := by
      intro none
      have := Line.length_of_sent content
      rw [none] at this
      cases this
    rw [ended_cons, List.append_assoc, List.cons_append, scan_line line, if_neg some_content,
      Line.ofBytes_of_sent content]
    simp only [add_noted, Bool.false_eq_true, if_false, ← noted_append, ih]
    simp [Nat.add_assoc, Nat.add_comm 1]

theorem Opening.ofBytes {code : Nat} {ls : List Bytes} {ts : List String} (h : Opening code ls ts)
    (rest : Bytes) :
    Reply.ofBytes (ended ls ++ rest) = Reply.scan [] (noted code ts) (ended ls).length rest := by
  have read := h.scan [] 0 rest
  rwa [List.nil_append, Nat.zero_add] at read

/-- An opening alone is no reply yet. -/
theorem Opening.ofBytes_rest {code : Nat} {ls : List Bytes} {ts : List String}
    (h : Opening code ls ts) {rest : Bytes} (hr : lf ∉ rest) :
    Reply.ofBytes (ended ls ++ rest) = .ok none := by
  rw [h.ofBytes, scan_rest hr]

theorem Line.Sent.ne_nil {line : Line} {bytes : Bytes} (h : Line.Sent line bytes) : bytes ≠ [] := by
  rintro rfl
  exact absurd (Line.length_of_sent h) (by decide)

/-- A whole reply is found, whatever follows it. -/
theorem Whole.ofBytes {r : Reply} {ls : List Bytes} (h : Whole r ls) (rest : Bytes) :
    Reply.ofBytes (ended ls ++ rest) = .ok (some (r, (ended ls).length)) := by
  cases h with
  | @mk code ls ts l t opening line last =>
    rw [ended_append, ended_cons, ended_nil, List.append_assoc, List.append_assoc, List.cons_append,
      List.nil_append, opening.ofBytes, scan_line line, if_neg last.ne_nil,
      Line.ofBytes_of_sent last]
    simp [add_noted]

/-- A line that breaks a reply is the fault that is found, whatever follows it. -/
theorem Breaks.ofBytes {ls : List Bytes} {bad : Bytes} {e : SessionError} (h : Breaks ls bad e)
    (rest : Bytes) : Reply.ofBytes (ended (ls ++ [bad]) ++ rest) = .error e := by
  rw [ended_append, ended_cons, ended_nil, List.append_assoc, List.append_assoc, List.cons_append,
    List.nil_append]
  cases h with
  | faulty opening line content h =>
    rw [opening.ofBytes, scan_line line, if_neg content, Line.ofBytes_of_faulty h]
  | otherCode opening line content begun h =>
    rw [opening.ofBytes, scan_line line, if_neg content.ne_nil, Line.ofBytes_of_sent content]
    simp [noted, begun, Partial.add, Ne.symm h]

/-- The front of some octets is a whole reply. -/
def Fronts (r : Reply) (n : Nat) (bytes : Bytes) : Prop :=
  n ≤ bytes.length ∧ ∃ ls, bytes.take n = ended ls ∧ Whole r ls

theorem fronts_iff {r : Reply} {n : Nat} {bytes : Bytes} : Fronts r n bytes ↔
    ∃ ls rest, bytes = ended ls ++ rest ∧ n = (ended ls).length ∧ Whole r ls := by
  constructor
  · rintro ⟨within, ls, front, whole⟩
    refine ⟨ls, bytes.drop n, ?_, ?_, whole⟩
    · rw [← front, List.take_append_drop]
    · rw [← front, List.length_take, Nat.min_eq_left within]
  · rintro ⟨ls, rest, rfl, rfl, whole⟩
    exact ⟨by rw [List.length_append]; omega, ls, List.take_left, whole⟩

/-- The code and an LF take four octets. -/
theorem Fronts.four_le {r : Reply} {n : Nat} {bytes : Bytes} (h : Fronts r n bytes) : 4 ≤ n := by
  obtain ⟨ls, rest, -, rfl, whole⟩ := fronts_iff.mp h
  cases whole with
  | @mk code ls ts l t opening line last =>
    have three := Line.length_of_sent last
    have shorter : (withoutCr l).length ≤ l.length := by
      unfold withoutCr
      split
      · exact (List.dropLast_sublist l).length_le
      · exact Nat.le_refl _
    rw [ended_append, ended_cons, List.length_append, List.length_append, List.length_cons]
    omega

theorem Fronts.ofBytes {r : Reply} {n : Nat} {bytes : Bytes} (h : Fronts r n bytes) :
    Reply.ofBytes bytes = .ok (some (r, n)) := by
  obtain ⟨ls, rest, rfl, rfl, whole⟩ := fronts_iff.mp h
  exact whole.ofBytes rest

/-- What the reader finds is there: a whole reply in front, an opening with nothing behind it, or
lines of which the last one is a fault. -/
theorem ofBytes_found (bytes : Bytes) :
    match ofBytes bytes with
    | .ok (some (r, n)) => Fronts r n bytes
    | .ok none => ∃ code ls ts rest, bytes = ended ls ++ rest ∧ lf ∉ rest ∧ Opening code ls ts
    | .error e => ∃ ls bad rest, bytes = ended (ls ++ [bad]) ++ rest ∧ Breaks ls bad e := by
  obtain ⟨ls, rest, rfl, lines, hrest⟩ := exists_lines bytes
  rcases Opening.cases lines with ⟨code, ts, opening⟩ | ⟨r, front, more, rfl, whole⟩ |
    ⟨e, front, bad, more, rfl, breaks⟩
  · rw [opening.ofBytes_rest hrest]
    exact ⟨code, ls, ts, rest, rfl, hrest, opening⟩
  · have cut : ended (front ++ more) ++ rest = ended front ++ (ended more ++ rest) := by
      rw [ended_append, List.append_assoc]
    have fronts := fronts_iff.mpr ⟨front, _, cut, rfl, whole⟩
    rw [fronts.ofBytes]
    exact fronts
  · have cut : ended (front ++ bad :: more) ++ rest =
        ended (front ++ [bad]) ++ (ended more ++ rest) := by
      simp [ended_append, ended_cons]
    rw [cut, breaks.ofBytes]
    exact ⟨front, bad, _, rfl, breaks⟩

theorem ofBytes_eq_some_iff {bytes : Bytes} {r : Reply} {n : Nat} :
    ofBytes bytes = .ok (some (r, n)) ↔ Fronts r n bytes := by
  refine ⟨fun h => ?_, Fronts.ofBytes⟩
  have found := ofBytes_found bytes
  rw [h] at found
  exact found

theorem ofBytes_eq_none_iff {bytes : Bytes} : ofBytes bytes = .ok none ↔
    ∃ code ls ts rest, bytes = ended ls ++ rest ∧ lf ∉ rest ∧ Opening code ls ts := by
  constructor
  · intro h
    have found := ofBytes_found bytes
    rw [h] at found
    exact found
  · rintro ⟨code, ls, ts, rest, rfl, hr, opening⟩
    exact opening.ofBytes_rest hr

theorem ofBytes_eq_error_iff {bytes : Bytes} {e : SessionError} : ofBytes bytes = .error e ↔
    ∃ ls bad rest, bytes = ended (ls ++ [bad]) ++ rest ∧ Breaks ls bad e := by
  constructor
  · intro h
    have found := ofBytes_found bytes
    rw [h] at found
    exact found
  · rintro ⟨ls, bad, rest, rfl, breaks⟩
    exact breaks.ofBytes rest

/-! ## Written replies -/

/-- A reply that can be written: its code has three digits, and it has lines, which are lines. -/
structure IsWritable (r : Reply) : Prop where
  code : r.code ≤ 999
  lines : r.lines ≠ []
  oneLine : ∀ t ∈ r.lines, '\n' ∉ t.toList

theorem decimal_eq (cs : List Char) : decimal cs = Nat.ofDigitChars 10 cs 0 := by
  rw [Nat.ofDigitChars_eq_foldl, decimal]
  simp only [Nat.mul_comm]
  rfl

theorem spellsCode_renderCode {code : Nat} (h : code ≤ 999) :
    SpellsCode code (renderCode code) := by
  have short : (Nat.toDigits 10 code).length ≤ 3 :=
    (Nat.length_toDigits_le_iff (by decide) (by decide)).mpr (Nat.lt_succ_of_le h)
  constructor
  · rw [renderCode, Duration.padded, List.length_append, List.length_replicate]
    omega
  · intro c hc
    rcases List.mem_append.mp hc with zero | digit
    · rw [List.eq_of_mem_replicate zero]
      rfl
    · exact Nat.isDigit_of_mem_toDigits (by decide) (by decide) digit
  · rw [decimal_eq, renderCode, Duration.padded, Nat.ofDigitChars_append,
      Nat.ofDigitChars_replicate_zero, Nat.mul_zero, Nat.ofDigitChars_ten_toDigits]

/-- A written line without its LF. -/
def row (code : Nat) (isLast : Bool) (text : String) : Bytes :=
  Utf8.encodeChars (renderCode code ++ (if isLast then ' ' else '-') :: text.toList) ++ [cr]

theorem renderLine_eq (code : Nat) (isLast : Bool) (text : String) :
    renderLine code isLast text = row code isLast text ++ [lf] := by
  rw [row, List.append_assoc]
  rfl

section

variable {code : Nat} (hc : code ≤ 999) {text : String} (ht : '\n' ∉ text.toList)
include hc

theorem sent_row (isLast : Bool) (text : String) :
    Line.Sent ⟨code, isLast, text⟩ (withoutCr (row code isLast text)) := by
  have spelled := spellsCode_renderCode hc
  rw [row, withoutCr_append_cr]
  refine ⟨_, rfl, ?_⟩
  cases isLast with
  | true => exact .last spelled text
  | false => exact .continued spelled text

include ht in
theorem lf_not_mem_row (isLast : Bool) : lf ∉ row code isLast text := by
  have digits : '\n' ∉ renderCode code := fun h =>
    absurd ((spellsCode_renderCode hc).digits _ h) (by decide)
  rw [row, List.mem_append, not_or]
  refine ⟨Utf8.lf_not_mem_encodeChars ?_, by decide⟩
  rw [List.mem_append, List.mem_cons, not_or, not_or]
  refine ⟨digits, ?_, ht⟩
  cases isLast <;> decide

end

theorem Whole.cons {code : Nat} {t : String} {ts : List String} {l : Bytes} {ls : List Bytes}
    (line : lf ∉ l) (content : Line.Sent ⟨code, false, t⟩ (withoutCr l)) (h : Whole ⟨code, ts⟩ ls) :
    Whole ⟨code, t :: ts⟩ (l :: ls) := by
  generalize hr : (⟨code, ts⟩ : Reply) = r at h
  cases h with
  | mk opening line' last =>
    cases hr
    exact .mk (.continued line content opening) line' last

/-- What is written for a reply is that reply. -/
theorem whole_renderLines {code : Nat} (hc : code ≤ 999) {ts : List String} (some_line : ts ≠ [])
    (oneLine : ∀ t ∈ ts, '\n' ∉ t.toList) :
    ∃ ls, renderLines code ts = ended ls ∧ Whole ⟨code, ts⟩ ls := by
  induction ts with
  | nil => exact absurd rfl some_line
  | cons t ts ih =>
    rw [List.forall_mem_cons] at oneLine
    cases ts with
    | nil =>
      refine ⟨[row code true t], ?_, ?_⟩
      · rw [renderLines, renderLine_eq, ended_cons, ended_nil]
      · exact .mk .nil (lf_not_mem_row hc oneLine.1 true) (sent_row hc true t)
    | cons u us =>
      obtain ⟨ls, written, whole⟩ := ih (by simp) oneLine.2
      refine ⟨row code false t :: ls, ?_, ?_⟩
      · rw [renderLines, renderLine_eq, written, ended_cons, List.append_assoc]
        · rfl
        · simp
      · exact whole.cons (lf_not_mem_row hc oneLine.1 false) (sent_row hc false t)

/-- All whole replies in front of some octets, each with the number of its octets, and what is left
behind them. -/
def series (bytes : Bytes) : List (Reply × Nat) × Bytes :=
  match _h : ofBytes bytes with
  | .ok (some (r, n)) => ((r, n) :: (series (bytes.drop n)).1, (series (bytes.drop n)).2)
  | .ok none => ([], bytes)
  | .error _ => ([], bytes)
termination_by bytes.length
decreasing_by
  all_goals
    have := ofBytes_consumed _h
    rw [List.length_drop]
    omega

theorem series_of_some {bytes : Bytes} {r : Reply} {n : Nat}
    (h : ofBytes bytes = .ok (some (r, n))) :
    series bytes = ((r, n) :: (series (bytes.drop n)).1, (series (bytes.drop n)).2) := by
  rw [series]
  split
  · next found =>
    rw [h] at found
    cases found
    rfl
  · next found =>
    rw [h] at found
    cases found
  · next found =>
    rw [h] at found
    cases found

/-- Replies written one behind the other are found one behind the other, whatever follows. -/
theorem series_render {rs : List Reply} (writable : ∀ r ∈ rs, r.IsWritable) (rest : Bytes) :
    series (rs.flatMap render ++ rest) =
      (rs.map (fun r => (r, r.render.length)) ++ (series rest).1, (series rest).2) := by
  induction rs with
  | nil => rfl
  | cons r rs ih =>
    rw [List.forall_mem_cons] at writable
    obtain ⟨first, others⟩ := writable
    obtain ⟨ls, written, whole⟩ := whole_renderLines first.code first.lines first.oneLine
    have found := whole.ofBytes (rs.flatMap render ++ rest)
    rw [← written, show renderLines r.code r.lines = r.render from rfl] at found
    rw [List.flatMap_cons, List.append_assoc, series_of_some found, List.drop_left, ih others]
    rfl

/-- **The reader of replies accepts exactly their grammar.** It finds a reply and its octets exactly
if these are the lines of that reply, so that there is one such reply at most; it waits exactly if
all ended lines are an opening; and its error is that of the first line that breaks an opening. Of
replies that are written one behind the other it finds each with its octets, and goes on with
whatever is behind them. -/
theorem ofBytes_grammar (bytes : Bytes) :
    (∀ r n, ofBytes bytes = .ok (some (r, n)) ↔ Fronts r n bytes) ∧
      (∀ r n r' n', Fronts r n bytes → Fronts r' n' bytes → r = r' ∧ n = n' ∧ 4 ≤ n) ∧
      (ofBytes bytes = .ok none ↔
        ∃ code ls ts rest, bytes = ended ls ++ rest ∧ lf ∉ rest ∧ Opening code ls ts) ∧
      (∀ e, ofBytes bytes = .error e ↔
        ∃ ls bad rest, bytes = ended (ls ++ [bad]) ++ rest ∧ Breaks ls bad e) ∧
      ∀ rs : List Reply, (∀ r ∈ rs, r.IsWritable) → series (rs.flatMap render ++ bytes) =
        (rs.map (fun r => (r, r.render.length)) ++ (series bytes).1, (series bytes).2) := by
  refine ⟨fun r n => ofBytes_eq_some_iff, fun r n r' n' h h' => ?_, ofBytes_eq_none_iff,
    fun e => ofBytes_eq_error_iff, fun rs writable => series_render writable bytes⟩
  have same := h.ofBytes.symm.trans h'.ofBytes
  simp only [Except.ok.injEq, Option.some.injEq, Prod.mk.injEq] at same
  exact ⟨same.1, same.2, h.four_le⟩

/-- A reply of two lines, one with an empty text, and the first octet of a third one. -/
theorem ofBytes_grammar_pipelined :
    let first : Reply := ⟨250, ["one", "two"]⟩
    let second : Reply := ⟨354, [""]⟩
    let rest : Bytes := [50]
    let bytes := [first, second].flatMap render ++ rest
    (∀ r ∈ [first, second], r.IsWritable) ∧ Fronts first 18 bytes ∧
      series bytes = ((first, 18) :: (second, 6) :: (series rest).1, (series rest).2) := by
  intro first second rest bytes
  have writable : ∀ r ∈ [first, second], r.IsWritable := by
    rw [List.forall_mem_cons, List.forall_mem_singleton]
    exact ⟨⟨by decide, by decide, by decide⟩, ⟨by decide, by decide, by decide⟩⟩
  have lengths : first.render.length = 18 ∧ second.render.length = 6 := by decide +kernel
  have found := (ofBytes_grammar rest).2.2.2.2 [first, second] writable
  rw [List.map_cons, List.map_singleton, lengths.1, lengths.2] at found
  exact ⟨writable, ((ofBytes_grammar bytes).1 first 18).mp (by decide +kernel), found⟩

end Outbox.Reply
