import Mathlib.Algebra.Group.Nat.Defs
import Mathlib.Data.List.Forall2
import Outbox.Ron.Printer
import Outbox.Ron.Reader

/-!
# What is written is read back

The written forms of RON, each read off the front of whatever stands behind it.

* `hexDigit_digitChar`, `digits_toDigits`: digits spell the number that they were made of.
* `Reads`: a reader takes a written form for a value, up to the comma or parenthesis that ends it.
* `reads_quoted`: **a quoted text is read as that text**, whichever escapes it has. One character is
  `quotedFrom_escape`, through every state of the machine that reads it.
* `reads_number`, `reads_nothing`, `reads_something`, `reads_word`, `reads_record`: the other forms.
-/

set_option autoImplicit false

namespace Outbox.Ron

/-! ## Digits -/

theorem hexDigit_digitChar {d : Nat} (h : d < 16) : hexDigit d.digitChar = some d := by
  have all : ∀ d : Fin 16, hexDigit d.val.digitChar = some d.val := by decide
  exact all ⟨d, h⟩

theorem digitChar_ne {d : Nat} (h : d < 16) :
    d.digitChar ≠ '_' ∧ d.digitChar ≠ '"' ∧ d.digitChar ≠ '\x7d' := by
  have all : ∀ d : Fin 16, d.val.digitChar ≠ '_' ∧ d.val.digitChar ≠ '"' ∧
      d.val.digitChar ≠ '\x7d' := by decide
  exact all ⟨d, h⟩

theorem mem_toDigits {base n : Nat} {c : Char} (hb : 1 < base) (h : c ∈ Nat.toDigits base n) :
    ∃ d < base, c = d.digitChar := by
  induction n using Nat.strongRecOn with
  | _ n ih =>
    rw [Nat.toDigits_eq_if hb] at h
    split at h
    · next small => exact ⟨n, small, List.mem_singleton.mp h⟩
    · next large =>
      rcases List.mem_append.mp h with front | last
      · exact ih (n / base) (Nat.div_lt_self (by omega) hb) front
      · exact ⟨n % base, Nat.mod_lt n (by omega), List.mem_singleton.mp last⟩

theorem digits_append (base m : Nat) (xs ys : List Char) :
    digits base m (xs ++ ys) = (digits base m xs).bind fun k => digits base k ys := by
  induction xs generalizing m with
  | nil => rfl
  | cons c xs ih =>
    simp only [List.cons_append, digits]
    split
    · exact ih m
    · cases hexDigit c with
      | none => rfl
      | some d =>
        simp only
        split
        · exact ih _
        · rfl

theorem digits_digitChar {base d : Nat} (hb : base ≤ 16) (hd : d < base) (m : Nat) :
    digits base m [d.digitChar] = some (m * base + d) := by
  have gap : (d.digitChar == '_') = false := beq_eq_false_iff_ne.mpr (digitChar_ne (by omega)).1
  simp [digits, gap, hexDigit_digitChar (show d < 16 by omega), hd]

theorem digits_toDigits {base : Nat} (hb : 1 < base) (hb' : base ≤ 16) (n : Nat) :
    digits base 0 (Nat.toDigits base n) = some n := by
  induction n using Nat.strongRecOn with
  | _ n ih =>
    rw [Nat.toDigits_eq_if hb]
    split
    · next small =>
      rw [digits_digitChar hb' small, Nat.zero_mul, Nat.zero_add]
    · next large =>
      rw [digits_append, ih (n / base) (Nat.div_lt_self (by omega) hb), Option.bind_some,
        digits_digitChar hb' (Nat.mod_lt n (by omega)), Nat.div_add_mod']

/-! ## Texts -/

/-- Hexadecimal digits inside an escape, of which there are six at most. -/
theorem quotedFrom_point {ds : List Char} (hex : ∀ c ∈ ds, ∃ d < 16, c = d.digitChar)
    {count v w : Nat} (few : count + ds.length ≤ 6) (spell : digits 16 v ds = some w)
    (seen rest : List Char) :
    quotedFrom false (.point count v) seen (ds ++ rest) =
      quotedFrom false (.point (count + ds.length) w) seen rest := by
  -- `count` and `v` are what was read of the escape so far, so both go along with the digits
  induction ds generalizing count v with
  | nil =>
    obtain rfl : v = w := Option.some.inj spell
    rfl
  | cons c ds ih =>
    rw [List.forall_mem_cons] at hex
    obtain ⟨⟨d, hd, rfl⟩, hex⟩ := hex
    obtain ⟨gap, quote, close⟩ := digitChar_ne hd
    rw [List.length_cons] at few
    have value : digits 16 (v * 16 + d) ds = some w := by
      rw [← spell]
      simp [digits, gap, hexDigit_digitChar hd, hd]
    have step : Escape.step false (.point count v) d.digitChar =
        some (.point (count + 1) (v * 16 + d), none) := by
      simp [Escape.step, close, show count < 6 by omega, hexDigit_digitChar hd]
    rw [List.cons_append, quotedFrom, if_neg (by simp [quote]), step]
    simp only
    rw [ih hex (by omega) value, List.length_cons, Nat.add_assoc, Nat.add_comm 1]

theorem isScalar_toNat (c : Char) : isScalar c.toNat = true := by
  have valid : c.toNat < 0xD800 ∨ 0xDFFF < c.toNat ∧ c.toNat < 0x110000 := c.valid
  rcases valid with low | high
  · simp [isScalar, low]
  · simp [isScalar, high]

theorem quotedFrom_codePoint (c : Char) (seen rest : List Char) :
    quotedFrom false .outside seen (Text.codePoint c ++ rest) =
      quotedFrom false .outside (c :: seen) rest := by
  have below : c.toNat < 16 ^ 6 := by
    rcases (show c.toNat < 0xD800 ∨ 0xDFFF < c.toNat ∧ c.toNat < 0x110000 from c.valid) with h | h
    · omega
    · omega
  have few : (Text.hex c.toNat).length ≤ 6 :=
    (Nat.length_toDigits_le_iff (by decide) (by decide)).mpr below
  have some : 0 < (Text.hex c.toNat).length := List.length_pos_iff.mpr Nat.toDigits_ne_nil
  have opened : quotedFrom false .outside seen (Text.codePoint c ++ rest) =
      quotedFrom false (.point 0 0) seen (Text.hex c.toNat ++ ('\x7d' :: rest)) := by
    simp [Text.codePoint, quotedFrom, Escape.step, Escape.atEnd]
  have named : quotedFrom false (.point 0 0) seen (Text.hex c.toNat ++ '\x7d' :: rest) =
      quotedFrom false (.point (0 + (Text.hex c.toNat).length) c.toNat) seen ('\x7d' :: rest) :=
    quotedFrom_point (fun d hd => mem_toDigits (by decide) hd) (by rw [Nat.zero_add]; exact few)
      (digits_toDigits (by decide) (by decide) c.toNat) seen ('\x7d' :: rest)
  rw [opened, named, quotedFrom]
  simp [Escape.step, isScalar_toNat, some, Char.ofNat_toNat]

/-- Whichever way a character is escaped, it is read as itself. -/
theorem quotedFrom_escape (c : Char) (seen rest : List Char) :
    quotedFrom false .outside seen (Text.escape true c ++ rest) =
      quotedFrom false .outside (c :: seen) rest := by
  unfold Text.escape
  split
  · rfl
  · rfl
  · rfl
  · rfl
  · rfl
  · rfl
  · rfl
  · next quote slash _ =>
    split
    · exact quotedFrom_codePoint c seen rest
    · have plain : Escape.step false .outside c = some (.outside, some c) := by
        simp only [Escape.step, beq_iff_eq, if_neg slash]
      rw [List.cons_append, List.nil_append, quotedFrom,
        if_neg (by simpa [Escape.atEnd] using quote), plain]

/-- **A quoted text is read as that text.** -/
theorem text_quoted (s : String) (rest : List Char) :
    text (Printer.quoted s ++ rest) = some (s.toList, rest) := by
  have through (cs seen : List Char) :
      quotedFrom false .outside seen (cs.flatMap (Text.escape true) ++ '"' :: rest) =
        some (seen.reverse ++ cs, rest) := by
    induction cs generalizing seen with
    | nil => simp [quotedFrom, Escape.atEnd]
    | cons c cs ih =>
      rw [List.flatMap_cons, List.append_assoc, quotedFrom_escape, ih]
      simp
  have written : Printer.quoted s ++ rest =
      '"' :: (s.toList.flatMap (Text.escape true) ++ '"' :: rest) := by
    simp [Printer.quoted, Text.quoteWith]
  rw [written]
  exact through s.toList []

/-! ## Numbers -/

/-- What may stand behind a value: a comma, a closing parenthesis, or nothing. -/
def Ends (rest : List Char) : Prop := ∀ c ∈ rest.head?, c = ',' ∨ c = ')'

theorem takeWhile_ends {p : Char → Bool} {cs rest : List Char} (all : ∀ c ∈ cs, p c = true)
    (comma : p ',' = false) (close : p ')' = false) (ends : Ends rest) :
    (cs ++ rest).takeWhile p = cs ∧ (cs ++ rest).dropWhile p = rest := by
  have stops : rest.takeWhile p = [] ∧ rest.dropWhile p = rest := by
    cases rest with
    | nil => exact ⟨rfl, rfl⟩
    | cons c rest =>
      rcases ends c rfl with rfl | rfl
      · simp [comma]
      · simp [close]
  rw [List.takeWhile_append_of_pos all, List.dropWhile_append_of_pos all, stops.1, stops.2]
  exact ⟨List.append_nil cs, rfl⟩

theorem suffix_ends {rest : List Char} (ends : Ends rest) : suffix rest = none := by
  cases rest with
  | nil => rfl
  | cons c rest =>
    rcases ends c rfl with rfl | rfl
    · rfl
    · rfl

section Number

variable {n : Nat} {rest : List Char}

theorem isDigit_number {c : Char} (h : c ∈ Printer.number n) : c.isDigit = true :=
  Nat.isDigit_of_mem_toDigits (by decide) (by decide) h

theorem number_eq_cons (n : Nat) : ∃ c t, Printer.number n = c :: t :=
  List.exists_cons_of_ne_nil Nat.toDigits_ne_nil

theorem isDigitOrGap_number {c : Char} (h : c ∈ Printer.number n) : isDigitOrGap c = true := by
  obtain ⟨d, hd, rfl⟩ := mem_toDigits (by decide) h
  simp [isDigitOrGap, hexDigit_digitChar (show d < 16 by omega)]

theorem sign_number (n : Nat) (rest : List Char) :
    sign (Printer.number n ++ rest) = (false, Printer.number n ++ rest) := by
  obtain ⟨c, t, written⟩ := number_eq_cons n
  have digit : c.isDigit = true := isDigit_number (n := n) (by rw [written]; simp)
  rw [written, List.cons_append]
  unfold sign
  split
  · next same =>
    obtain ⟨rfl, -⟩ := List.cons.inj same
    exact absurd digit (by decide)
  · next same =>
    obtain ⟨rfl, -⟩ := List.cons.inj same
    exact absurd digit (by decide)
  · rfl

/-- A decimal number does not look like one in another base. -/
theorem announced_number (ends : Ends rest) :
    announced (Printer.number n ++ rest) = (10, Printer.number n ++ rest) := by
  have second {x : Char} {s : List Char} (h : Printer.number n ++ rest = '0' :: x :: s) :
      x.isDigit = true ∨ x = ',' ∨ x = ')' := by
    obtain ⟨c, t, written⟩ := number_eq_cons n
    rw [written, List.cons_append] at h
    obtain ⟨-, h⟩ := List.cons.inj h
    cases t with
    | nil =>
      rw [List.nil_append] at h
      exact .inr (ends x (by rw [h]; rfl))
    | cons d t =>
      obtain ⟨rfl, -⟩ := List.cons.inj h
      exact .inl (isDigit_number (n := n) (by rw [written]; simp))
  unfold announced
  split
  · next s same => exact absurd (second same) (by decide)
  · next s same => exact absurd (second same) (by decide)
  · next s same => exact absurd (second same) (by decide)
  · rfl

theorem integer_number (h : n < 2 ^ 64) (ends : Ends rest) :
    integer (Printer.number n ++ rest) = some (⟨false, n, none⟩, rest) := by
  obtain ⟨run, behind⟩ := takeWhile_ends (p := isDigitOrGap)
    (fun c (hc : c ∈ Printer.number n) => isDigitOrGap_number hc) (by decide) (by decide) ends
  obtain ⟨c, t, written⟩ := number_eq_cons n
  have digit : c.isDigit = true := isDigit_number (n := n) (by rw [written]; simp)
  have first : (Printer.number n).isEmpty = false ∧
      (Printer.number n).head? ≠ some '_' := by
    rw [written]
    refine ⟨rfl, fun gap => ?_⟩
    obtain rfl := Option.some.inj gap
    exact absurd digit (by decide)
  have size : magnitude (Printer.number n ++ rest) = some (n, rest) := by
    unfold magnitude
    rw [announced_number ends]
    simp only [run, behind]
    rw [if_neg (by simp [first.1, first.2]), Printer.number,
      digits_toDigits (by decide) (by decide)]
    rfl
  have fits : Width.fits ⟨false, 64⟩ false n = true := decide_eq_true h
  unfold integer
  rw [sign_number]
  simp only [size, behind, suffix_ends ends, fits, if_true]

theorem number_number (h : n < 2 ^ 64) (ends : Ends rest) :
    number (Printer.number n ++ rest) = some (some ⟨false, n, none⟩, rest) := by
  have run := (takeWhile_ends (p := isDigitOrGap)
    (fun c (hc : c ∈ Printer.number n) => isDigitOrGap_number hc) (by decide) (by decide) ends).1
  have run' := (takeWhile_ends (p := isFractionChar)
    (fun c (hc : c ∈ Printer.number n) => by simp [isFractionChar, isDigit_number hc])
    (by decide) (by decide) ends).1
  have whole : looksFractional (Printer.number n ++ rest) = false := by
    simp [looksFractional, sign_number, run, run']
  unfold number
  rw [whole, if_neg (by simp), integer_number h ends]

end Number

/-! ## Names -/

/-- A name that may be written as it is. -/
def isPlainName : List Char → Bool
  | [] => false
  | c :: cs => isFirst c && (c :: cs).all Text.isIdentTail

/-- What may stand behind a name. -/
def isBreak (c : Char) : Bool := c == ':' || c == '(' || c == ',' || c == ')'

section Name

variable {name rest : List Char}

theorem isBreak_cases {c : Char} (h : isBreak c = true) : c = ':' ∨ c = '(' ∨ c = ',' ∨ c = ')' := by
  simpa [isBreak, or_assoc] using h

theorem Ends.breaks (h : Ends rest) : ∀ c ∈ rest.head?, isBreak c = true := by
  intro c hc
  rcases h c hc with rfl | rfl
  · rfl
  · rfl

theorem takeWhile_name (all : ∀ c ∈ name, Text.isIdentTail c = true)
    (breaks : ∀ c ∈ rest.head?, isBreak c = true) :
    (name ++ rest).takeWhile Text.isIdentTail = name ∧
      (name ++ rest).dropWhile Text.isIdentTail = rest := by
  have stops : rest.takeWhile Text.isIdentTail = [] ∧ rest.dropWhile Text.isIdentTail = rest := by
    cases rest with
    | nil => exact ⟨rfl, rfl⟩
    | cons c rest =>
      rcases isBreak_cases (breaks c rfl) with rfl | rfl | rfl | rfl
      · exact ⟨rfl, rfl⟩
      · exact ⟨rfl, rfl⟩
      · exact ⟨rfl, rfl⟩
      · exact ⟨rfl, rfl⟩
  rw [List.takeWhile_append_of_pos all, List.dropWhile_append_of_pos all, stops.1, stops.2]
  exact ⟨List.append_nil name, rfl⟩

/-- Where a name goes on up to a break, no literal starts. -/
theorem startsLiteral_of_breaks {s : List Char}
    (breaks : ∀ c ∈ (s.dropWhile Text.isIdentTail).head?, isBreak c = true) :
    startsLiteral s = false := by
  -- each literal starts with letters of a name and goes on with a mark that is no break
  have no (front : List Char) (c : Char) (tail : List Char)
      (name : front.all Text.isIdentTail = true) (stop : Text.isIdentTail c = false)
      (mark : isBreak c = false) : s ≠ front ++ c :: tail := by
    rintro rfl
    have left : (front ++ c :: tail).dropWhile Text.isIdentTail = c :: tail := by
      rw [List.dropWhile_append_of_pos (List.all_eq_true.mp name),
        List.dropWhile_cons_of_neg (by simp [stop])]
    have := breaks c (by rw [left]; rfl)
    rw [mark] at this
    cases this
  unfold startsLiteral
  split
  · exact absurd rfl (no ['b'] '"' _ (by decide) (by decide) (by decide))
  · exact absurd rfl (no ['b'] '\'' _ (by decide) (by decide) (by decide))
  · exact absurd rfl (no ['b', 'r'] '"' _ (by decide) (by decide) (by decide))
  · exact absurd rfl (no ['b', 'r'] '#' _ (by decide) (by decide) (by decide))
  · exact absurd rfl (no ['r'] '"' _ (by decide) (by decide) (by decide))
  · exact absurd rfl (no ['r'] '#' _ (by decide) (by decide) (by decide))
  · exact absurd rfl (no ['r'] '#' _ (by decide) (by decide) (by decide))
  · rfl

theorem ident_name (plain : isPlainName name = true)
    (breaks : ∀ c ∈ rest.head?, isBreak c = true) :
    ident (name ++ rest) = some (⟨false, name⟩, rest) := by
  cases name with
  | nil => cases plain
  | cons c cs =>
    rw [isPlainName, Bool.and_eq_true, List.all_eq_true] at plain
    obtain ⟨first, all⟩ := plain
    obtain ⟨taken, left⟩ := takeWhile_name all breaks
    have literal : startsLiteral (c :: cs ++ rest) = false :=
      startsLiteral_of_breaks (left.symm ▸ breaks)
    have free : (rest.head?.map isSign).getD false = false := by
      cases rest with
      | nil => rfl
      | cons d rest =>
        rcases isBreak_cases (breaks d rfl) with rfl | rfl | rfl | rfl
        · rfl
        · rfl
        · rfl
        · rfl
    rw [List.cons_append] at taken left literal ⊢
    unfold ident
    simp only [first, literal, Bool.not_true, Bool.or_self, Bool.false_eq_true, if_false]
    split
    · next raw same =>
      -- behind a lone `r` the break would have to be the mark of a raw name
      rw [same] at left
      have marked : rest.head? = some '#' := by
        rw [← left]
        rfl
      exact absurd (breaks '#' marked) (by decide)
    · simp only [left, free, taken, Bool.false_eq_true, if_false]

end Name

/-! ## Written forms -/

/-- What a written form may start with: no gap starts so, and no bracket ends so. -/
def isSolid (c : Char) : Bool := c != '/' && !isSpace c && c != ')'

theorem skip_solid {c : Char} (h : isSolid c = true) (rest : List Char) :
    skip (c :: rest) = some (c :: rest) := by
  simp only [isSolid, Bool.and_eq_true, bne_iff_ne, Bool.not_eq_true', ne_eq] at h
  obtain ⟨⟨slash, space⟩, -⟩ := h
  simp [skip, skipFrom, slash, space]

theorem ne_close_of_isSolid {c : Char} (h : isSolid c = true) : c ≠ ')' := by
  simp only [isSolid, Bool.and_eq_true, bne_iff_ne, ne_eq] at h
  exact h.2

theorem isSolid_of_isFirst {c : Char} (h : isFirst c = true) : isSolid c = true := by
  have other {d : Char} (hd : isFirst d = false) : c ≠ d := by
    rintro rfl
    rw [h] at hd
    cases hd
  have solid : isSpace c = false := by
    rw [Bool.eq_false_iff]
    intro space
    have among : c.toNat ∈ [9, 10, 11, 12, 13, 0x20, 0x85, 0x200E, 0x200F, 0x2028, 0x2029] := by
      simp only [isSpace, Bool.or_eq_true, Bool.and_eq_true, decide_eq_true_eq, beq_iff_eq] at space
      simp only [List.mem_cons, List.not_mem_nil, or_false]
      omega
    have none : ∀ n ∈ [9, 10, 11, 12, 13, 0x20, 0x85, 0x200E, 0x200F, 0x2028, 0x2029],
        isFirst (Char.ofNat n) = false := by decide +kernel
    have := none _ among
    rw [Char.ofNat_toNat, h] at this
    cases this
  simp [isSolid, solid, other (show isFirst '/' = false by decide),
    other (show isFirst ')' = false by decide)]

/-- `r` takes the written form `cs` for `x`, whatever ends it. -/
structure Reads {α : Type} (r : Reader α) (cs : List Char) (x : α) : Prop where
  solid : ∃ c t, cs = c :: t ∧ isSolid c = true
  reads : ∀ rest, Ends rest → r (cs ++ rest) = some (x, rest)

theorem ends_comma (rest : List Char) : Ends (',' :: rest) := by
  intro c hc
  exact .inl (Option.some.inj hc).symm

theorem ends_close (rest : List Char) : Ends (')' :: rest) := by
  intro c hc
  exact .inr (Option.some.inj hc).symm

theorem ends_nil : Ends [] := nofun

namespace Reads

variable {α : Type} {item : Reader α} {cs : List Char} {x : α}

theorem skip_append (h : Reads item cs x) (rest : List Char) :
    skip (cs ++ rest) = some (cs ++ rest) := by
  obtain ⟨c, t, rfl, solid⟩ := h.solid
  exact skip_solid solid _

/-- An element that may come next is read, up to what ends it. -/
theorem items_cons (h : Reads item cs x) {rest : List Char} (ends : Ends rest) (fuel : Nat) :
    items item ')' (fuel + 1) true (cs ++ rest) =
      match comma rest with
      | none => none
      | some (more, s) => (items item ')' fuel more s).map fun (xs, s) => (x :: xs, s) := by
  have first := h.skip_append rest
  have read := h.reads rest ends
  obtain ⟨c, t, rfl, solid⟩ := h.solid
  have other : (c == ')') = false := beq_eq_false_iff_ne.mpr (ne_close_of_isSolid solid)
  rw [List.cons_append] at first read ⊢
  rw [items, first]
  simp only [other, read, Bool.not_true, Bool.false_eq_true, if_false]
  rcases comma rest with _ | ⟨more, s⟩
  · rfl
  · simp only
    rcases items item ')' fuel more s with _ | ⟨xs, s⟩
    · rfl
    · rfl

end Reads

/-- Written forms with commas between them. -/
def joined (css : List (List Char)) : List Char := (css.intersperse [',']).flatten

theorem joined_cons_cons (cs cs' : List Char) (css : List (List Char)) :
    joined (cs :: cs' :: css) = cs ++ ',' :: joined (cs' :: css) := by
  simp [joined]

theorem joined_cons (cs : List Char) (css : List (List Char)) :
    ∃ tail, joined (cs :: css) = cs ++ tail := by
  cases css with
  | nil => exact ⟨[], by simp [joined]⟩
  | cons cs' css => exact ⟨_, joined_cons_cons cs cs' css⟩

theorem length_le_joined {css : List (List Char)} (written : ∀ cs ∈ css, cs ≠ []) :
    css.length ≤ (joined css).length := by
  induction css with
  | nil => exact Nat.zero_le _
  | cons cs css ih =>
    rw [List.forall_mem_cons] at written
    have first : 0 < cs.length := List.length_pos_iff.mpr written.1
    cases css with
    | nil => simpa [joined, Nat.one_le_iff_ne_zero, Nat.pos_iff_ne_zero] using first
    | cons cs' css =>
      have others : (cs' :: css).length ≤ (joined (cs' :: css)).length := ih written.2
      calc (cs :: cs' :: css).length
          = (cs' :: css).length + 1 := List.length_cons
        _ ≤ cs.length + ((joined (cs' :: css)).length + 1) := by omega
        _ = (joined (cs :: cs' :: css)).length := by
          rw [joined_cons_cons, List.length_append, List.length_cons]

/-- Elements are read one by one up to the bracket that closes them. -/
theorem items_joined {α : Type} {item : Reader α} {css : List (List Char)} {xs : List α}
    (each : List.Forall₂ (Reads item) css xs) {fuel : Nat} (enough : css.length < fuel)
    (rest : List Char) :
    items item ')' fuel true (joined css ++ ')' :: rest) = some (xs, rest) := by
  have closed (fuel : Nat) (more : Bool) : items item ')' (fuel + 1) more (')' :: rest) =
      some ([], rest) := rfl
  -- one of `fuel` for each element, and one for the bracket
  induction each generalizing fuel with
  | nil =>
    obtain ⟨fuel, rfl⟩ : ∃ k, fuel = k + 1 := ⟨fuel - 1, by simp at enough; omega⟩
    exact closed fuel true
  | @cons cs x css xs first others ih =>
    obtain ⟨fuel, rfl⟩ : ∃ k, fuel = k + 1 := ⟨fuel - 1, by omega⟩
    rw [List.length_cons] at enough
    cases others with
    | nil =>
      obtain ⟨fuel, rfl⟩ : ∃ k, fuel = k + 1 := ⟨fuel - 1, by simp at enough; omega⟩
      rw [show joined [cs] = cs by simp [joined], first.items_cons (ends_close rest)]
      rfl
    | @cons cs' x' css xs second others =>
      have next : comma (',' :: (joined (cs' :: css) ++ ')' :: rest)) =
          some (true, joined (cs' :: css) ++ ')' :: rest) := by
        obtain ⟨tail, hj⟩ := joined_cons cs' css
        rw [hj, List.append_assoc]
        show (skip (cs' ++ _)).map _ = _
        rw [second.skip_append]
        rfl
      rw [joined_cons_cons, List.append_assoc, List.cons_append,
        first.items_cons (ends_comma _), next]
      simp only
      rw [ih (by omega)]
      rfl

/-! ## Values -/

theorem ident_none {c : Char} (h : isFirst c = false) (rest : List Char) :
    ident (c :: rest) = none := by
  simp [ident, h]

section Form

variable {ext : Extensions} {nested : Bool} {item content : Reader Value}

/-- What starts neither a name nor a bracket is a literal. -/
theorem form_literal {c : Char} (first : isFirst c = false) (round : c ≠ '(') (square : c ≠ '[')
    (curly : c ≠ '\x7b') (rest : List Char) :
    form ext nested item content (c :: rest) = literal (c :: rest) := by
  unfold form
  split
  · next same =>
    obtain ⟨rfl, -⟩ := List.cons.inj same
    exact absurd rfl round
  · rw [ident_none first]
    simp only
    split
    · next same =>
      obtain ⟨rfl, -⟩ := List.cons.inj same
      exact absurd rfl round
    · next same =>
      obtain ⟨rfl, -⟩ := List.cons.inj same
      exact absurd rfl square
    · next same =>
      obtain ⟨rfl, -⟩ := List.cons.inj same
      exact absurd rfl curly
    · rfl

theorem reads_quoted (s : String) :
    Reads (form ext nested item content) (Printer.quoted s) (.text s.toList) where
  solid := ⟨'"', _, by simp [Printer.quoted, Text.quoteWith]; rfl, by decide⟩
  reads rest _ := by
    obtain ⟨t, written⟩ : ∃ t, Printer.quoted s ++ rest = '"' :: t :=
      ⟨_, by simp [Printer.quoted, Text.quoteWith]; rfl⟩
    have read := text_quoted s rest
    rw [written] at read ⊢
    rw [form_literal (by decide) (by decide) (by decide) (by decide)]
    show (text ('"' :: t)).map _ = _
    rw [read]
    rfl

theorem reads_number {n : Nat} (h : n < 2 ^ 64) :
    Reads (form ext nested item content) (Printer.number n) (.integer ⟨false, n, none⟩) := by
  obtain ⟨c, t, written⟩ := number_eq_cons n
  have member : c ∈ Nat.toDigits 10 n := by
    show c ∈ Printer.number n
    rw [written]
    exact List.mem_cons_self
  obtain ⟨d, hd, rfl⟩ := mem_toDigits (by decide) member
  have digit : ∀ d : Fin 10, isFirst d.val.digitChar = false ∧ isSolid d.val.digitChar = true ∧
      d.val.digitChar ∉ ['(', '[', '\x7b', '"', 'r', '\'', 'b'] := by decide
  obtain ⟨first, solid, other⟩ := digit ⟨d, hd⟩
  simp only [List.mem_cons, List.not_mem_nil, or_false, not_or] at other
  obtain ⟨round, square, curly, double, r, single, b⟩ := other
  refine ⟨⟨_, t, written, solid⟩, fun rest ends => ?_⟩
  have read := number_number h ends
  have isDigit : d.digitChar.isDigit = true := isDigit_number member
  rw [written, List.cons_append] at read ⊢
  rw [form_literal first round square curly]
  unfold literal
  split
  · next same => exact absurd (List.cons.inj same).1 double
  · next same => exact absurd (List.cons.inj same).1 r
  · next same => exact absurd (List.cons.inj same).1 single
  · next same => exact absurd (List.cons.inj same).1 b
  · next same => exact absurd (List.cons.inj same).1 b
  · next same =>
    obtain ⟨rfl, rfl⟩ := List.cons.inj same
    rw [isDigit, Bool.true_or, if_pos rfl, read]
    rfl
  · next same => cases same

/-- A name where a value is wanted, and what stands behind it. -/
theorem form_name {name : List Char} (plain : isPlainName name = true) {rest : List Char}
    (breaks : ∀ c ∈ rest.head?, isBreak c = true) :
    form ext nested item content (name ++ rest) =
      match constants.lookup name with
      | some v => some (v, rest)
      | none =>
        if name == "Some".toList then
          if nested then option ext.unwrapVariants item content rest else none
        else match skip rest with
          | some ('(' :: rest) => if nested then body item (some name) rest else none
          | some rest => some (.word name, rest)
          | none => none := by
  unfold form
  split
  · next same =>
    cases name with
    | nil => cases plain
    | cons c name =>
      obtain ⟨rfl, -⟩ := List.cons.inj same
      rw [isPlainName, Bool.and_eq_true] at plain
      exact absurd plain.1 (by decide)
  · rw [ident_name plain breaks]
    rfl

theorem solid_name {name : List Char} (plain : isPlainName name = true) :
    ∃ c t, name = c :: t ∧ isSolid c = true := by
  cases name with
  | nil => cases plain
  | cons c t =>
    rw [isPlainName, Bool.and_eq_true] at plain
    exact ⟨c, t, rfl, isSolid_of_isFirst plain.1⟩

theorem reads_nothing :
    Reads (form ext nested item content) (Printer.option none) .nothing where
  solid := solid_name (by decide)
  reads rest ends := by
    show form ext nested item content ("None".toList ++ rest) = _
    rw [form_name (by decide) ends.breaks]
    rfl

theorem skip_ends {rest : List Char} (ends : Ends rest) : skip rest = some rest := by
  cases rest with
  | nil => rfl
  | cons c rest =>
    rcases ends c rfl with rfl | rfl
    · rfl
    · rfl

theorem reads_word {name : List Char} (plain : isPlainName name = true)
    (free : constants.lookup name = none) (other : (name == "Some".toList) = false) :
    Reads (form ext nested item content) name (.word name) where
  solid := solid_name plain
  reads rest ends := by
    rw [form_name plain ends.breaks, free]
    simp only [other, Bool.false_eq_true, if_false, skip_ends ends]
    split
    · next same =>
      obtain rfl := Option.some.inj same
      rcases ends '(' rfl with h | h
      · exact absurd h (by decide)
      · exact absurd h (by decide)
    · next _ same => rw [Option.some.inj same]
    · next same => cases same

theorem reads_something {cs : List Char} {v : Value} (h : Reads content cs v) :
    Reads (form ext true item content) (Printer.option (some cs)) (.something v) where
  solid := ⟨'S', _, rfl, by decide⟩
  reads rest ends := by
    have written :
        Printer.option (some cs) ++ rest = "Some".toList ++ '(' :: (cs ++ ')' :: rest) := by
      show "Some(".toList ++ cs ++ [')'] ++ rest = "Some(".toList ++ (cs ++ ([')'] ++ rest))
      simp only [List.append_assoc]
    rw [written, form_name (by decide) (by intro c hc; obtain rfl := Option.some.inj hc; rfl)]
    have opened : skip ('(' :: (cs ++ ')' :: rest)) = some ('(' :: (cs ++ ')' :: rest)) := rfl
    have closed : comma (')' :: rest) = some (false, ')' :: rest) := rfl
    have free : constants.lookup "Some".toList = none := by decide
    simp only [free, beq_self_eq_true, if_true, option, opened, h.skip_append,
      h.reads _ (ends_close rest), closed]

/-! ## Records -/

/-- A field is written by its name, and `item` reads its value. -/
structure ReadsField (item : Reader Value) (f : String × List Char) (g : List Char × Value) :
    Prop where
  name : g.1 = f.1.toList
  plain : isPlainName f.1.toList = true
  value : Reads item f.2 g.2

theorem ReadsField.reads {f : String × List Char} {g : List Char × Value}
    (h : ReadsField item f g) : Reads (field item) (Printer.field f) g where
  solid := by
    obtain ⟨c, t, written, solid⟩ := solid_name h.plain
    exact ⟨c, _, by rw [Printer.field, written, List.cons_append], solid⟩
  reads rest ends := by
    have behind : colon (':' :: (f.2 ++ rest)) = some (f.2 ++ rest) := h.value.skip_append rest
    rw [Printer.field, List.append_assoc, List.cons_append, field,
      ident_name h.plain (by intro c hc; obtain rfl := Option.some.inj hc; rfl)]
    simp only [behind, h.value.reads rest ends, Option.map_some, ← h.name]

/-- The first field tells a record from a tuple. -/
theorem ReadsField.startsField {f : String × List Char} {g : List Char × Value}
    (h : ReadsField item f g) (rest : List Char) :
    startsField (Printer.field f ++ rest) = true := by
  have behind : colon (':' :: (f.2 ++ rest)) = some (f.2 ++ rest) := h.value.skip_append rest
  have named : ident (f.1.toList ++ ':' :: (f.2 ++ rest)) =
      some (⟨false, f.1.toList⟩, ':' :: (f.2 ++ rest)) :=
    ident_name h.plain (by intro c hc; obtain rfl := Option.some.inj hc; rfl)
  have written : Printer.field f ++ rest = f.1.toList ++ ':' :: (f.2 ++ rest) := by
    rw [Printer.field, List.append_assoc, List.cons_append]
  have skipped := h.reads.skip_append rest
  unfold Ron.startsField
  rw [written] at skipped ⊢
  simp only [skipped, named, behind, Option.isSome_some]

theorem length_fields_lt (fields : List (String × List Char)) (rest : List Char) :
    (fields.map Printer.field).length <
      (joined (fields.map Printer.field) ++ ')' :: rest).length + 1 := by
  have written : ∀ cs ∈ fields.map Printer.field, cs ≠ [] := by
    intro cs hcs
    obtain ⟨f, -, rfl⟩ := List.mem_map.mp hcs
    simp [Printer.field]
  have := length_le_joined written
  rw [List.length_append]
  omega

variable {f : String × List Char} {fields : List (String × List Char)}
  {gs : List (List Char × Value)}

/-- What stands between the parentheses of a record. -/
theorem body_fields (each : List.Forall₂ (ReadsField item) (f :: fields) gs) (rest : List Char) :
    body item none (joined ((f :: fields).map Printer.field) ++ ')' :: rest) =
      some (.record none gs, rest) := by
  obtain ⟨g, gs', first, -, rfl⟩ := List.forall₂_cons_left_iff.mp each
  have start : startsField (joined ((f :: fields).map Printer.field) ++ ')' :: rest) = true := by
    obtain ⟨tail, front⟩ := joined_cons (Printer.field f) (fields.map Printer.field)
    rw [List.map_cons, front, List.append_assoc]
    exact first.startsField _
  have all : List.Forall₂ (Reads (field item)) ((f :: fields).map Printer.field) (g :: gs') :=
    List.forall₂_map_left_iff.mpr (each.imp fun _ _ h => h.reads)
  rw [body, start, if_pos rfl, elements, items_joined all (length_fields_lt (f :: fields) rest)]
  rfl

/-- **A record is read field by field.** -/
theorem reads_record (each : List.Forall₂ (ReadsField item) (f :: fields) gs) :
    Reads (form ext true item content) (Printer.record (f :: fields)) (.record none gs) where
  solid := ⟨'(', _, rfl, by decide⟩
  reads rest ends := by
    have written : Printer.record (f :: fields) ++ rest =
        '(' :: (joined ((f :: fields).map Printer.field) ++ ')' :: rest) := by
      simp [Printer.record, joined]
    obtain ⟨g, gs', first, -, -⟩ := List.forall₂_cons_left_iff.mp each
    obtain ⟨c, t, hc, solid⟩ := first.reads.solid
    obtain ⟨tail, front⟩ := joined_cons (Printer.field f) (fields.map Printer.field)
    have opens : joined ((f :: fields).map Printer.field) ++ ')' :: rest =
        c :: (t ++ tail ++ ')' :: rest) := by
      rw [List.map_cons, front, hc]
      rfl
    rw [written]
    unfold form
    split
    · next same =>
      -- the unit value ends where a record has its first field
      rw [List.cons.injEq, opens, List.cons.injEq] at same
      exact absurd same.2.1 (ne_close_of_isSolid solid)
    · rw [ident_none (by decide)]
      simp only [body_fields each, if_true]

end Form

/-! ## Documents -/

variable {ext : Extensions} {cs : List Char} {v : Value}

theorem value_zero : value ext 0 = form ext false (fun _ => none) (fun _ => none) := by
  funext s
  rfl

/-- Inside an option there is one level less. -/
theorem value_succ (ext : Extensions) (depth : Nat) :
    ∃ item, value ext (depth + 1) = form ext true item (value ext depth) := by
  cases depth with
  | zero => exact ⟨fun _ => none, by funext s; rfl⟩
  | succ depth => exact ⟨value ext depth, by funext s; rfl⟩

theorem value_add_two (depth : Nat) :
    value ext (depth + 2) = form ext true (value ext depth) (value ext (depth + 1)) := by
  funext s
  rfl

theorem reads_value (h : ∀ nested item content, Reads (form ext nested item content) cs v)
    (depth : Nat) : Reads (value ext depth) cs v := by
  cases depth with
  | zero =>
    rw [value_zero]
    exact h _ _ _
  | succ depth =>
    obtain ⟨item, same⟩ := value_succ ext depth
    rw [same]
    exact h _ _ _

/-- The content of an option takes one level. -/
theorem reads_value_something {depth : Nat} (h : Reads (value ext depth) cs v) :
    Reads (value ext (depth + 1)) (Printer.option (some cs)) (.something v) := by
  obtain ⟨item, same⟩ := value_succ ext depth
  rw [same]
  exact reads_something h

/-- A record and each of its fields take one level. -/
theorem reads_value_record {depth : Nat} {f : String × List Char}
    {fields : List (String × List Char)} {gs : List (List Char × Value)}
    (each : List.Forall₂ (ReadsField (value ext depth)) (f :: fields) gs) :
    Reads (value ext (depth + 2)) (Printer.record (f :: fields)) (.record none gs) := by
  rw [value_add_two]
  exact reads_record each

/-- A written form without attributes is a document of its own. -/
theorem document_of_reads (h : Reads (value Extensions.none maxDepth) cs v)
    (plain : cs.head? ≠ some '#') : document cs = some ⟨Extensions.none, v⟩ := by
  have opened := h.skip_append []
  have read := h.reads [] ends_nil
  rw [List.append_nil] at opened read
  have none : attributes (cs.length + 1) Extensions.none cs = some (Extensions.none, cs) := by
    rw [attributes, if_neg (by simpa using plain)]
  unfold document
  simp only [opened, none, read]
  rfl

end Outbox.Ron
