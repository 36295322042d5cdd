import Outbox.Transparency

/-!
# Transparency: what is encoded arrives

Both the encoded form and the normal form of data are read off one list of lines, `bodyLines`:

* `closed_crlfLines`: the normal form is these lines, each with its CRLF.
* `encode_bodyLines`: the encoded form is these lines, stuffed, each with its CRLF; the lone dot
  follows.
* `lines_joinLines`: a receiver that cuts at CRLF gets lines without LF back as they are.

Together: **a receiver ends up with the normal form of the data** (`message_transparent`).
-/

set_option autoImplicit false

namespace Outbox

/-! ## Lines -/

/-- Lines with their ends. -/
def joinLines (ls : List Bytes) : Bytes := ls.flatMap (· ++ [cr, lf])

@[simp] theorem joinLines_nil : joinLines [] = [] := rfl

@[simp] theorem joinLines_cons (l : Bytes) (ls : List Bytes) :
    joinLines (l :: ls) = l ++ cr :: lf :: joinLines ls := by
  simp [joinLines]

/-- A line with a second dot in front if it starts with one. -/
def stuff (line : Bytes) : Bytes := if line.head? = some dot then dot :: line else line

@[simp] theorem unstuff_stuff (line : Bytes) : Receiver.unstuff (stuff line) = line := by
  unfold stuff
  split
  · rfl
  · rename_i h
    unfold Receiver.unstuff
    split
    · exact absurd rfl h
    · rfl

theorem stuff_ne_dot (line : Bytes) : stuff line ≠ [dot] := by
  unfold stuff
  split
  · rename_i h
    rintro ⟨⟩
    simp at h
  · rename_i h
    rintro rfl
    simp at h

theorem mem_stuff {b : UInt8} {line : Bytes} (hb : b ≠ dot) : b ∈ stuff line ↔ b ∈ line := by
  unfold stuff
  split <;> simp [hb]

/-- A line that is not empty keeps its stuffing when it grows. -/
theorem stuff_append {line : Bytes} (h : line ≠ []) (more : Bytes) :
    stuff (line ++ more) = stuff line ++ more := by
  obtain ⟨b, line, rfl⟩ := List.exists_cons_of_ne_nil h
  unfold stuff
  rw [List.cons_append, List.head?_cons, List.head?_cons]
  split <;> rfl

/-- Every LF comes right behind a CR. -/
def LfBehindCr (data : Bytes) : Prop :=
  ∀ before after, data = before ++ lf :: after → before.getLast? = some cr

theorem LfBehindCr.line {l data : Bytes} (hl : lf ∉ l) (h : LfBehindCr data) :
    LfBehindCr (l ++ cr :: lf :: data) := by
  intro before after he
  rcases List.append_eq_append_iff.1 he with ⟨x, rfl, hx⟩ | ⟨x, rfl, hx⟩
  · match x, hx with
    | [], hx => exact absurd (List.cons.inj hx).1 (by decide)
    | [_], hx => simp [← (List.cons.inj hx).1]
    | _ :: _ :: x, hx =>
      obtain ⟨-, hx⟩ := List.cons.inj hx
      obtain ⟨-, hx⟩ := List.cons.inj hx
      have hlast := h x after hx
      have hne : x ≠ [] := by rintro rfl; simp at hlast
      simp [List.getLast?_append, List.getLast?_cons, hlast]
  · cases x with
    | nil => exact absurd (List.cons.inj hx).1 (by decide)
    | cons b x =>
      obtain ⟨rfl, -⟩ := List.cons.inj hx
      exact absurd (by simp) hl

theorem LfBehindCr.joinLines {ls : List Bytes} {rest : Bytes} (hl : ∀ l ∈ ls, lf ∉ l)
    (h : LfBehindCr rest) : LfBehindCr (joinLines ls ++ rest) := by
  induction ls with
  | nil => exact h
  | cons l ls ih =>
    rw [joinLines_cons, List.append_assoc]
    exact LfBehindCr.line (hl l (.head _)) (ih fun l' hm => hl l' (.tail _ hm))

/-- **Cutting at CRLF** finds a line without LF, whatever follows it. -/
theorem lines_line {l : Bytes} (hl : lf ∉ l) (start : Bytes) (found : List Bytes) (rest : Bytes) :
    Receiver.lines start found (l ++ cr :: lf :: rest) =
      Receiver.lines [] ((start.reverse ++ l) :: found) rest := by
  induction l generalizing start with
  | nil => simp [Receiver.lines, cr, lf]
  | cons b l ih =>
    have hl' : lf ∉ l := fun h => hl (.tail _ h)
    -- the octet behind `b` is no LF, so no CRLF starts at `b`
    have hnext : ∀ r, l ++ cr :: lf :: rest ≠ 10 :: r := by
      intro r he
      cases l with
      | nil => exact absurd (List.cons.inj he).1 (by decide)
      | cons c l => exact hl' (by rw [show c = lf from (List.cons.inj he).1]; exact .head _)
    rw [List.cons_append, Receiver.lines, ih hl']
    · simp
    · intro r hb he
      exact hnext r he

theorem lines_joinLines {ls : List Bytes} (hl : ∀ l ∈ ls, lf ∉ l) (found : List Bytes)
    (rest : Bytes) :
    Receiver.lines [] found (joinLines ls ++ rest) =
      Receiver.lines [] (ls.reverse ++ found) rest := by
  induction ls generalizing found with
  | nil => rfl
  | cons l ls ih =>
    rw [joinLines_cons, List.append_assoc, List.cons_append, List.cons_append,
      lines_line (hl l (.head _)), ih fun l' hm => hl l' (.tail _ hm)]
    simp

/-! ## The lines of data -/

/-- A line without the CR at its end. -/
def withoutCr (line : Bytes) : Bytes := if line.getLast? = some cr then line.dropLast else line

/-- The lines of data without their ends, `line` being the one that is open. What is left open at
the end is a line too. -/
def bodyLines (line : Bytes) : Bytes → List Bytes
  | [] => if line = [] then [] else [withoutCr line]
  | b :: rest =>
    if b = lf then withoutCr line :: bodyLines [] rest else bodyLines (line ++ [b]) rest

theorem mem_withoutCr {b : UInt8} {line : Bytes} (h : b ∈ withoutCr line) : b ∈ line := by
  unfold withoutCr at h
  split at h
  · exact (List.dropLast_sublist line).subset h
  · exact h

theorem withoutCr_append_cr (line : Bytes) : withoutCr (line ++ [cr]) = line := by
  simp [withoutCr]

theorem withoutCr_of_ne {line : Bytes} (h : line.getLast? ≠ some cr) : withoutCr line = line :=
  if_neg h

/-- A line that ends with CR in two parts. -/
theorem exists_append_cr {line : Bytes} (h : line.getLast? = some cr) :
    ∃ l, line = l ++ [cr] := List.getLast?_eq_some_iff.1 h

theorem lf_not_mem_bodyLines {line data : Bytes} (hl : lf ∉ line) :
    ∀ l ∈ bodyLines line data, lf ∉ l := by
  induction data generalizing line with
  | nil =>
    intro l hm
    unfold bodyLines at hm
    split at hm
    · cases hm
    · rw [List.mem_singleton] at hm
      subst hm
      exact fun h => hl (mem_withoutCr h)
  | cons b rest ih =>
    intro l hm
    unfold bodyLines at hm
    split at hm
    · rcases List.mem_cons.1 hm with rfl | hm
      · exact fun h => hl (mem_withoutCr h)
      · exact ih List.not_mem_nil l hm
    · rename_i hb
      refine ih (fun h => ?_) l hm
      rcases List.mem_append.1 h with h | h
      · exact hl h
      · exact hb (List.mem_singleton.1 h).symm

/-! ## The normal form -/

/-- Data whose last line is closed. -/
def closed (body : Bytes) : Bytes :=
  match body.getLast? with
  | none => []
  | some b => if b = lf then body else if b = cr then body ++ [lf] else body ++ [cr, lf]

theorem normalize_eq (data : Bytes) : normalize data = closed (crlfLines false data) := rfl

/-- Closing looks at the last octet only. -/
theorem closed_append {rest : Bytes} (h : rest ≠ []) (body : Bytes) :
    closed (body ++ rest) = body ++ closed rest := by
  obtain ⟨l, b, rfl⟩ := List.eq_nil_or_concat rest |>.resolve_left h
  unfold closed
  simp only [List.concat_eq_append, ← List.append_assoc, List.getLast?_concat]
  split
  · exact List.append_assoc ..
  · split <;> simp

theorem closed_line (line body : Bytes) :
    closed (line ++ lf :: body) = line ++ lf :: closed body := by
  rw [closed_append (by simp)]
  cases body with
  | nil => rfl
  | cons b body => rw [← List.singleton_append, closed_append (by simp)]; rfl

/-- **The normal form is the lines of the data**, each with its CRLF. -/
theorem closed_crlfLines {line : Bytes} (hl : lf ∉ line) (data : Bytes) :
    closed (line ++ crlfLines (line.getLast? == some cr) data) =
      joinLines (bodyLines line data) := by
  induction data generalizing line with
  | nil =>
    rw [crlfLines, List.append_nil]
    by_cases hn : line = []
    · subst hn; rfl
    · obtain ⟨l, b, rfl⟩ := List.eq_nil_or_concat line |>.resolve_left hn
      have hb : b ≠ lf := by rintro rfl; simp at hl
      by_cases hc : b = cr
      · subst hc
        simp [closed, bodyLines, withoutCr_append_cr, show cr ≠ lf by decide]
      · simp [closed, bodyLines, withoutCr, hb, hc]
  | cons b rest ih =>
    by_cases hb : b = lf
    · subst hb
      have hrest := ih (show lf ∉ ([] : Bytes) from List.not_mem_nil)
      rw [List.nil_append] at hrest
      by_cases hc : line.getLast? = some cr
      · obtain ⟨l, rfl⟩ := exists_append_cr hc
        simp only [crlfLines, bodyLines, hc, withoutCr_append_cr, beq_self_eq_true,
          not_true_eq_false, and_false, if_false, if_true, List.singleton_append, closed_line,
          joinLines_cons]
        rw [← hrest]
        simp [show (lf == cr) = false by decide]
      · simp only [crlfLines, bodyLines, withoutCr_of_ne hc, beq_eq_false_iff_ne.2 hc, if_true,
          Bool.false_eq_true, not_false_eq_true, and_self, joinLines_cons]
        rw [← hrest, show line ++ ([cr, lf] ++ crlfLines (lf == cr) rest) =
          (line ++ [cr]) ++ lf :: crlfLines (lf == cr) rest by simp, closed_line]
        simp [show (lf == cr) = false by decide]
    · have hline : lf ∉ line ++ [b] := by
        simp only [List.mem_append, List.mem_singleton, not_or]
        exact ⟨hl, Ne.symm hb⟩
      rw [bodyLines, if_neg hb, ← ih hline]
      simp [crlfLines, hb]

theorem normalize_bodyLines (data : Bytes) : normalize data = joinLines (bodyLines [] data) := by
  rw [← closed_crlfLines List.not_mem_nil]
  rfl

/-- A CR inside a line stays as it is. -/
theorem normalize_cr {b : UInt8} (hb : b ≠ lf) (before after : Bytes) :
    normalize (before ++ cr :: b :: after) =
      crlfLines false before ++ cr :: normalize (b :: after) := by
  have hcons : ∀ p : Bool, crlfLines p (b :: after) = b :: crlfLines (b == cr) after := by
    intro p
    simp [crlfLines, hb]
  have hsplit : ∀ p : Bool, crlfLines p (before ++ cr :: b :: after) =
      (crlfLines p before ++ [cr]) ++ crlfLines false (b :: after) := by
    induction before with
    | nil =>
      intro p
      simp [crlfLines, hb, show cr ≠ lf by decide]
    | cons c before ih =>
      intro p
      rw [List.cons_append, crlfLines, crlfLines, ih]
      simp only [List.append_assoc]
  rw [normalize_eq, normalize_eq, hsplit, closed_append (by rw [hcons]; simp)]
  simp

/-! ## The encoded form -/

namespace Encoder

theorem encodeOnto_eq (e : Encoder) (out chunk : Bytes) :
    e.encodeOnto out chunk = (out.reverse ++ (e.encode chunk).1, (e.encode chunk).2) := by
  induction chunk generalizing e out with
  | nil => simp [encode, encodeOnto]
  | cons b rest ih =>
    unfold encode
    rw [encodeOnto, encodeOnto, ih, ih]
    simp

@[simp] theorem encode_nil (e : Encoder) : e.encode [] = ([], e) := rfl

theorem encode_cons (e : Encoder) (b : UInt8) (rest : Bytes) :
    e.encode (b :: rest) =
      (e.octet b ++ ((after b).encode rest).1, ((after b).encode rest).2) := by
  conv => lhs; unfold encode
  rw [encodeOnto, encodeOnto_eq]
  simp

/-- **A chunk may be cut anywhere**: the second part goes on where the first one ends. -/
theorem encode_append (e : Encoder) (a b : Bytes) :
    e.encode (a ++ b) =
      ((e.encode a).1 ++ ((e.encode a).2.encode b).1, ((e.encode a).2.encode b).2) := by
  induction a generalizing e with
  | nil => simp
  | cons c a ih => rw [List.cons_append, encode_cons, encode_cons, ih]; simp

/-- The encoder behind an open line. -/
def behind (line : Bytes) : Encoder := ⟨line.isEmpty, line.getLast? == some cr⟩

theorem start_eq_behind : start = behind [] := rfl

theorem after_eq_behind {b : UInt8} (hb : b ≠ lf) (line : Bytes) :
    after b = behind (line ++ [b]) := by
  simp [after, behind, beq_eq_false_iff_ne.2 hb]

theorem after_lf : after lf = behind [] := by decide

/-- What an octet that ends no line adds to its line. -/
theorem stuff_octet {b : UInt8} (hb : b ≠ lf) (line : Bytes) :
    stuff line ++ (behind line).octet b = stuff (line ++ [b]) := by
  cases line with
  | nil => by_cases hd : b = dot <;> simp [behind, octet, stuff, hb, hd]
  | cons c line => rw [stuff_append (by simp)]; simp [behind, octet, hb]

/-- What an LF adds to its line, which thereby ends. -/
theorem stuff_lf (line : Bytes) :
    stuff line ++ (behind line).octet lf = stuff (withoutCr line) ++ [cr, lf] := by
  by_cases hc : line.getLast? = some cr
  · obtain ⟨l, rfl⟩ := exists_append_cr hc
    rw [withoutCr_append_cr]
    have hstuff : stuff (l ++ [cr]) = stuff l ++ [cr] := by
      cases l with
      | nil => rfl
      | cons b l => exact stuff_append (by simp) _
    simp [hstuff, behind, octet, show lf ≠ dot by decide]
  · simp [withoutCr_of_ne hc, behind, octet, show lf ≠ dot by decide, hc]

/-- What closing adds to an open line that is not empty. -/
theorem stuff_close {line : Bytes} (hn : line ≠ []) :
    stuff line ++ (behind line).close = stuff (withoutCr line) ++ [cr, lf] := by
  have hl : (behind line).close = (behind line).octet lf := by
    obtain ⟨b, line, rfl⟩ := List.exists_cons_of_ne_nil hn
    simp only [behind, close, octet, show lf ≠ dot by decide, false_and, if_false,
      List.isEmpty_cons, Bool.false_eq_true, true_and]
    split <;> simp_all
  rw [hl, stuff_lf]

/-- **The encoded form is the lines of the data**, stuffed, each with its CRLF. -/
theorem encode_bodyLines (line data : Bytes) :
    stuff line ++ ((behind line).encode data).1 ++ ((behind line).encode data).2.close =
      joinLines ((bodyLines line data).map stuff) := by
  induction data generalizing line with
  | nil =>
    rw [encode_nil, List.append_nil, bodyLines]
    split
    · rename_i hn
      subst hn
      rfl
    · rename_i hn
      rw [stuff_close hn]
      simp
  | cons b rest ih =>
    rw [encode_cons, bodyLines]
    split
    · rename_i hb
      subst hb
      rw [after_lf, ← List.append_assoc, stuff_lf, List.map_cons, joinLines_cons, ← ih []]
      simp [stuff]
    · rename_i hb
      rw [after_eq_behind hb line, ← List.append_assoc, stuff_octet hb, ih]

/-- A whole message is the lines of its data and the lone dot. -/
theorem message_eq (data : Bytes) :
    message data = joinLines ((bodyLines [] data).map stuff) ++ [dot, cr, lf] := by
  rw [← encode_bodyLines]
  simp [message, finish, start_eq_behind, stuff]

end Encoder

theorem lf_not_mem_stuffed (data : Bytes) : ∀ l ∈ (bodyLines [] data).map stuff, lf ∉ l := by
  intro l hm
  obtain ⟨k, hk, rfl⟩ := List.mem_map.1 hm
  rw [mem_stuff (by decide)]
  exact lf_not_mem_bodyLines List.not_mem_nil k hk

/-- **Data arrives as it was meant.** In the encoded form of any data every LF comes behind a CR;
cut at CRLF, it ends with the lone dot and has no other; and what a receiver makes of the lines
before that dot is the normal form of the data, in which a CR inside a line stays as it is. -/
theorem message_transparent (data : Bytes) :
    (∀ before after, Encoder.message data = before ++ lf :: after → before.getLast? = some cr) ∧
      (∃ ls, Receiver.lines [] [] (Encoder.message data) = (ls ++ [[dot]], []) ∧ [dot] ∉ ls ∧
        ls.flatMap (fun line => Receiver.unstuff line ++ [cr, lf]) = normalize data) ∧
      Receiver.ofBytes (Encoder.message data) = normalize data ∧
      ∀ before b after, data = before ++ cr :: b :: after → b ≠ lf →
        normalize data = crlfLines false before ++ cr :: normalize (b :: after) := by
  have hlf := lf_not_mem_stuffed data
  have hdot : [dot] ∉ (bodyLines [] data).map stuff := by
    intro hm
    obtain ⟨l, -, he⟩ := List.mem_map.1 hm
    exact stuff_ne_dot l he
  have hlines : Receiver.lines [] [] (Encoder.message data) =
      ((bodyLines [] data).map stuff ++ [[dot]], []) := by
    rw [Encoder.message_eq, lines_joinLines hlf]
    simp [Receiver.lines, dot, cr, lf]
  have hnormal : ((bodyLines [] data).map stuff).flatMap
      (fun line => Receiver.unstuff line ++ [cr, lf]) = normalize data := by
    rw [normalize_bodyLines, joinLines, List.flatMap_map]
    simp only [unstuff_stuff]
  refine ⟨?_, ⟨_, hlines, hdot, hnormal⟩, ?_, ?_⟩
  · rw [Encoder.message_eq]
    refine LfBehindCr.joinLines hlf ?_
    exact LfBehindCr.line (l := [dot]) (by decide) fun before after he => by simp at he
  · unfold Receiver.ofBytes
    rw [hlines]
    have htake : ((bodyLines [] data).map stuff ++ [[dot]]).takeWhile (· ≠ [dot]) =
        (bodyLines [] data).map stuff := by
      rw [List.takeWhile_append_of_pos]
      · simp
      · intro l hm
        exact decide_eq_true fun he => hdot (he ▸ hm)
    simp only [htake]
    exact hnormal
  · rintro before b after rfl hb
    exact normalize_cr hb before after

end Outbox
