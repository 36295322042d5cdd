import Outbox.Proofs.Reading
import Outbox.Ron.Grammar

/-!
# Tokens are read as the grammar has them

Spacing, names and quoted literals of the grammar, each read off the front of whatever may stand
behind it.

* `skip_spacing`, `skip_lastSpacing`: spacing is skipped.
* `Follows`: what may stand behind a value.
* `ident_named`: a name is read as it was written.
* `literal_of_literal`: **a quoted literal is read as what it spells**.
-/

set_option autoImplicit false

namespace Outbox.Ron

/-- What holds of each element of a list. Deciding the quantifier itself may go through all
characters there are. -/
theorem forall_of_all {α : Type} {p : α → Prop} [DecidablePred p] {s : List α}
    (h : (s.all fun x => decide (p x)) = true) : ∀ x ∈ s, p x := by
  simpa using h

/-! ## Spacing -/

/-- What is not skipped. -/
theorem skip_token {c : Char} (space : isSpace c = false) (slash : c ≠ '/') (s : List Char) :
    skip (c :: s) = some (c :: s) := by
  simp [skip, skipFrom, slash, space]

/-- Behind what was skipped there is nothing more to skip. -/
theorem skip_of_skipFrom {g : Gap} {s d : List Char} (h : skipFrom g s = some d) :
    skip d = some d := by
  fun_induction skipFrom g s with
  | case6 c rest _ _ slash space =>
    obtain rfl := Option.some.inj h
    exact skip_token (by simpa using space) (by simpa using slash) rest
  | case1 =>
    obtain rfl := Option.some.inj h
    rfl
  | case7 =>
    obtain rfl := Option.some.inj h
    rfl
  | _ => first | exact absurd h (by simp) | (rename_i ih; exact ih h)

theorem skip_skip {s d : List Char} (h : skip s = some d) : skip d = some d := skip_of_skipFrom h

theorem skipFrom_line {t : List Char} (one : '\n' ∉ t) (s : List Char) :
    skipFrom .line (t ++ '\n' :: s) = skip s := by
  induction t with
  | nil => rfl
  | cons c t ih =>
    rw [List.mem_cons, not_or] at one
    have other : (c == '\n') = false := by simpa using Ne.symm one.1
    rw [List.cons_append, skipFrom, other]
    exact ih one.2

theorem skipFrom_lastLine {t : List Char} (one : '\n' ∉ t) : skipFrom .line t = some [] := by
  induction t with
  | nil => rfl
  | cons c t ih =>
    rw [List.mem_cons, not_or] at one
    have other : (c == '\n') = false := by simpa using Ne.symm one.1
    rw [skipFrom, other]
    exact ih one.2

theorem Comment.ne_nil {n : Nat} {t : List Char} (h : Comment n t) : t ≠ [] := by
  cases h with
  | done => exact List.cons_ne_nil _ _
  | close => exact List.cons_ne_nil _ _
  | nest => exact List.cons_ne_nil _ _
  | char => exact List.cons_ne_nil _ _

theorem skipFrom_comment {n : Nat} {t : List Char} (h : Comment n t) (s : List Char) :
    skipFrom (.block n) (t ++ s) = skip s := by
  induction h with
  | done => rfl
  | close _ ih =>
    rw [List.cons_append, List.cons_append, skipFrom]
    exact ih
  | nest _ ih =>
    rw [List.cons_append, List.cons_append, skipFrom]
    exact ih
  | @char n c t opens closes inside ih =>
    -- the second character of a mark would be one of the comment
    have mark {x y : Char} {rest : List Char} (first : c = x) (second : t ++ s = y :: rest) :
        [x, y] <+: c :: t := by
      obtain ⟨d, u, rfl⟩ := List.exists_cons_of_ne_nil inside.ne_nil
      obtain ⟨rfl, -⟩ := List.cons.inj second
      exact ⟨u, by rw [first]; rfl⟩
    rw [List.cons_append, skipFrom]
    · exact ih
    · exact fun _ first second => opens (mark first second)
    · exact fun _ _ first second => closes (mark first second)
    · exact fun _ _ _ first second => closes (mark first second)

theorem skip_spacing {g : List Char} (h : Spacing g) (s : List Char) : skip (g ++ s) = skip s := by
  induction h with
  | nil => rfl
  | @space c g space _ ih =>
    have slash : c ≠ '/' := by
      rintro rfl
      exact absurd space (by decide)
    rw [List.cons_append, skip, skipFrom]
    · rw [if_neg (by simpa using slash), if_pos space]
      exact ih
    · exact fun _ same _ => slash same
    · exact fun _ same _ => slash same
  | line one _ ih =>
    rw [List.cons_append, List.cons_append, List.append_assoc, List.cons_append]
    exact (skipFrom_line one _).trans ih
  | block comment _ ih =>
    rw [List.cons_append, List.cons_append, List.append_assoc]
    exact (skipFrom_comment comment _).trans ih

theorem skip_lastSpacing {g : List Char} (h : LastSpacing g) : skip g = some [] := by
  cases h with
  | whole h => exact (congrArg skip (List.append_nil g).symm).trans (skip_spacing h [])
  | line h one => exact (skip_spacing h _).trans (skipFrom_lastLine one)

/-! ## What stands behind a token -/

/-- The marks that end a value. -/
def marks : List Char := [',', ':', ')', ']', '\x7d']

/-- The characters that may stand right behind a value. -/
def isStop (c : Char) : Bool := isSpace c || c == '/' || marks.contains c

/-- What may stand behind a value: the end of a document, or spacing and then a mark. -/
structure Follows (rest : List Char) : Prop where
  stops : ∀ c ∈ rest.head?, isStop c = true
  next : ∃ d, skip rest = some d ∧ ∀ c ∈ d.head?, c ∈ marks

/-- What may stand behind a name: what may stand behind a value, or a parenthesis. -/
def Breaks (rest : List Char) : Prop := ∀ c ∈ rest.head?, isStop c = true ∨ c = '('

theorem Follows.breaks {rest : List Char} (h : Follows rest) : Breaks rest :=
  fun c hc => .inl (h.stops c hc)

/-- The characters of white space. -/
def spaces : List Char :=
  [9, 10, 11, 12, 13, 0x20, 0x85, 0x200E, 0x200F, 0x2028, 0x2029].map Char.ofNat

theorem mem_of_isSpace {c : Char} (h : isSpace c = true) : c ∈ spaces := by
  refine List.mem_map.mpr ⟨c.toNat, ?_, Char.ofNat_toNat c⟩
  simp only [isSpace, Bool.or_eq_true, Bool.and_eq_true, decide_eq_true_eq, beq_iff_eq] at h
  simp only [List.mem_cons, List.not_mem_nil, or_false]
  omega

/-- Marks and letters that a name or a number could go on with. -/
def joints : List Char := ['"', '\'', '#', 'i', 'u', 'f', 'b', 'o', 'x']

/-- What ends a name or a number is part of neither, and starts nothing that could go on. -/
theorem plain_of_stop {c : Char} (h : isStop c = true ∨ c = '(') :
    Text.isIdentTail c = false ∧ isRaw c = false ∧ isSign c = false ∧ isDigitOrGap c = false ∧
      isFractionChar c = false ∧ c ∉ joints := by
  have all : ∀ d ∈ spaces ++ ('/' :: '(' :: marks), Text.isIdentTail d = false ∧ isRaw d = false ∧
      isSign d = false ∧ isDigitOrGap d = false ∧ isFractionChar d = false ∧ d ∉ joints :=
    forall_of_all (by decide +kernel)
  refine all c ?_
  rw [isStop, Bool.or_eq_true, Bool.or_eq_true, beq_iff_eq, List.contains_iff_mem] at h
  rcases h with ((space | rfl) | mark) | rfl
  · exact List.mem_append_left _ (mem_of_isSpace space)
  · exact List.mem_append_right _ List.mem_cons_self
  · exact List.mem_append_right _ (List.mem_cons_of_mem _ (List.mem_cons_of_mem _ mark))
  · exact List.mem_append_right _ (List.mem_cons_of_mem _ List.mem_cons_self)

/-- A run ends where a character stands that cannot be in it. -/
theorem takeWhile_stops {p : Char → Bool} {s rest : List Char} (all : ∀ c ∈ s, p c = true)
    (stops : ∀ c ∈ rest.head?, p c = false) :
    (s ++ rest).takeWhile p = s ∧ (s ++ rest).dropWhile p = rest := by
  have none : rest.takeWhile p = [] ∧ rest.dropWhile p = rest := by
    cases rest with
    | nil => exact ⟨rfl, rfl⟩
    | cons c rest => simp [stops c rfl]
  rw [List.takeWhile_append_of_pos all, List.dropWhile_append_of_pos all, none.1, none.2]
  exact ⟨List.append_nil s, rfl⟩

/-- A name ends where something breaks it off. -/
theorem takeWhile_breaks {s rest : List Char} (all : ∀ c ∈ s, Text.isIdentTail c = true)
    (breaks : Breaks rest) : (s ++ rest).takeWhile Text.isIdentTail = s ∧
      (s ++ rest).dropWhile Text.isIdentTail = rest :=
  takeWhile_stops all fun c hc => (plain_of_stop (breaks c hc)).1

/-- Behind spacing stands a stop, or what stands behind the spacing. -/
theorem stop_of_spacing {g rest : List Char} (h : Spacing g) {c : Char}
    (hc : c ∈ (g ++ rest).head?) : isStop c = true ∨ c ∈ rest.head? := by
  cases h with
  | nil => exact .inr hc
  | space space =>
    obtain rfl := Option.some.inj hc
    exact .inl (by simp [isStop, space])
  | line =>
    obtain rfl := Option.some.inj hc
    exact .inl (by decide)
  | block =>
    obtain rfl := Option.some.inj hc
    exact .inl (by decide)

/-- Spacing and then a mark may stand behind a value. -/
theorem follows_mark {g : List Char} (h : Spacing g) {c : Char} (mark : c ∈ marks)
    (rest : List Char) : Follows (g ++ c :: rest) where
  stops d hd := by
    rcases stop_of_spacing h hd with stop | same
    · exact stop
    · obtain rfl := Option.some.inj same
      rw [isStop, List.contains_iff_mem.mpr mark, Bool.or_true]
  next := by
    have solid : ∀ d ∈ marks, isSpace d = false ∧ d ≠ '/' := forall_of_all (by decide)
    refine ⟨c :: rest, ?_, fun d hd => Option.some.inj hd ▸ mark⟩
    rw [skip_spacing h, skip_token (solid c mark).1 (solid c mark).2]

theorem follows_last {g : List Char} (h : LastSpacing g) : Follows g where
  stops c hc := by
    cases h with
    | whole h =>
      rw [← List.append_nil g] at hc
      rcases stop_of_spacing h hc with stop | none
      · exact stop
      · cases none
    | line h =>
      rcases stop_of_spacing h hc with stop | same
      · exact stop
      · obtain rfl := Option.some.inj same
        decide
  next := ⟨[], skip_lastSpacing h, nofun⟩

/-! ## Names -/

/-- Where a name goes on up to a break, no literal starts. -/
theorem startsLiteral_of_breaks_name {s rest : List Char} (all : ∀ c ∈ s, Text.isIdentTail c = true)
    (breaks : Breaks rest) : startsLiteral (s ++ rest) = false := by
  -- each literal starts with letters of a name and goes on with a mark that is no stop
  have no (front : List Char) (c : Char) (tail : List Char)
      (name : front.all Text.isIdentTail = true) (stop : Text.isIdentTail c = false)
      (mark : c ∈ joints) : s ++ rest ≠ front ++ c :: tail := by
    intro same
    have left : (front ++ c :: tail).dropWhile Text.isIdentTail = c :: tail := by
      rw [List.dropWhile_append_of_pos (List.all_eq_true.mp name),
        List.dropWhile_cons_of_neg (by simp [stop])]
    rw [← same, (takeWhile_breaks all breaks).2] at left
    exact (plain_of_stop (breaks c (by rw [left]; rfl))).2.2.2.2.2 mark
  unfold startsLiteral
  split
  · next same => exact absurd same (no ['b'] '"' _ (by decide) (by decide) (by decide))
  · next same => exact absurd same (no ['b'] '\'' _ (by decide) (by decide) (by decide))
  · next same => exact absurd same (no ['b', 'r'] '"' _ (by decide) (by decide) (by decide))
  · next same => exact absurd same (no ['b', 'r'] '#' _ (by decide) (by decide) (by decide))
  · next same => exact absurd same (no ['r'] '"' _ (by decide) (by decide) (by decide))
  · next same => exact absurd same (no ['r'] '#' _ (by decide) (by decide) (by decide))
  · next same => exact absurd same (no ['r'] '#' _ (by decide) (by decide) (by decide))
  · rfl

theorem named_plain {s : List Char} (h : isPlainName s = true) : Named s ⟨false, s⟩ := by
  cases s with
  | nil => cases h
  | cons c s =>
    rw [isPlainName, Bool.and_eq_true, List.all_eq_true] at h
    exact .plain h.1 h.2

/-- **A name is read as it was written**, plain or raw. -/
theorem ident_named {s rest : List Char} {i : Ident} (h : Named s i) (breaks : Breaks rest) :
    ident (s ++ rest) = some (i, rest) := by
  cases h with
  | @plain c s first all =>
    obtain ⟨taken, left⟩ := takeWhile_breaks all breaks
    have literal := startsLiteral_of_breaks_name all breaks
    have free : (rest.head?.map isSign).getD false = false := by
      cases rest with
      | nil => rfl
      | cons d rest => exact (plain_of_stop (breaks d rfl)).2.2.1
    rw [List.cons_append] at taken left literal ⊢
    unfold ident
    simp only [first, literal, Bool.not_true, Bool.or_self, Bool.false_eq_true, if_false]
    split
    · next raw same =>
      -- behind a lone `r` the break would have to be the mark of a raw name
      rw [same] at left
      have marked : rest.head? = some '#' := by
        rw [← left]
        rfl
      exact absurd (plain_of_stop (breaks '#' marked)).2.2.2.2.2 (by decide)
    · simp only [left, free, taken, Bool.false_eq_true, if_false]
  | @raw s some all =>
    obtain ⟨taken, left⟩ := takeWhile_stops all fun c hc => (plain_of_stop (breaks c hc)).2.1
    obtain ⟨c, t, rfl⟩ := List.exists_cons_of_ne_nil some
    have raw : isRaw c = true := all c List.mem_cons_self
    have literal : startsLiteral ('r' :: '#' :: (c :: t ++ rest)) = false := by
      have quote : c ≠ '"' := by rintro rfl; exact absurd raw (by decide)
      have sign : c ≠ '#' := by rintro rfl; exact absurd raw (by decide)
      simp [startsLiteral, quote, sign]
    have first : isFirst 'r' = true := by decide
    show ident ('r' :: '#' :: (c :: t ++ rest)) = _
    unfold ident
    simp only [first, literal, taken, left, Bool.not_true, Bool.or_self, Bool.false_eq_true,
      if_false]
    rfl

/-! ## Escapes -/

/-- The states that read an escape from `e` on, up to the character that it stands for. -/
inductive Escape.Emits (binary : Bool) : Escape → List Char → Char → Prop where
  | last {e : Escape} {x c : Char} : e.atEnd = false → e.step binary x = some (.outside, some c) →
      Emits binary e [x] c
  | more {e e' : Escape} {x c : Char} {s : List Char} : e.atEnd = false → e' ≠ .continued →
      e.step binary x = some (e', none) → Emits binary e' s c → Emits binary e (x :: s) c

namespace Escape

variable {binary : Bool} {e : Escape} {s : List Char} {c : Char}

theorem Emits.quotedFrom (h : Emits binary e s c) (seen rest : List Char) :
    quotedFrom binary e seen (s ++ rest) = quotedFrom binary .outside (c :: seen) rest := by
  induction h with
  | last inside step => simp [Ron.quotedFrom, inside, step]
  | more inside _ step _ ih =>
    rw [List.cons_append, Ron.quotedFrom, inside, step]
    simpa using ih

theorem Emits.escaped (h : Emits binary e s c) (rest : List Char) :
    escaped binary e (s ++ rest) = some (c, rest) := by
  induction h with
  | last _ step => simp [Ron.escaped, step]
  | @more e e' x c s _ other step _ ih =>
    rw [List.cons_append, Ron.escaped, step]
    cases e' with
    | continued => exact absurd rfl other
    | _ => exact ih

theorem hexDigit_lt {d : Char} {x : Nat} (h : hexDigit d = some x) : x < 16 := by
  simp only [hexDigit, Bool.and_eq_true, decide_eq_true_eq] at h
  split at h
  · obtain rfl := Option.some.inj h
    omega
  · split at h
    · obtain rfl := Option.some.inj h
      omega
    · split at h
      · obtain rfl := Option.some.inj h
        omega
      · cases h

/-- The digits of a code point, of which there are six at most. -/
theorem emits_point {ds : List Char} (hex : ∀ d ∈ ds, (hexDigit d).isSome = true) {count v n : Nat}
    (few : count + ds.length ≤ 6) (one : 0 < count + ds.length) (spell : digits 16 v ds = some n)
    (scalar : isScalar n = true) :
    Emits false (.point count v) (ds ++ ['\x7d']) (Char.ofNat n) := by
  -- `count` and `v` are what was read of the escape so far, so both go along with the digits
  induction ds generalizing count v with
  | nil =>
    obtain rfl : v = n := Option.some.inj spell
    exact .last rfl (by simp [step, scalar, show 0 < count from one])
  | cons d ds ih =>
    rw [List.forall_mem_cons] at hex
    obtain ⟨x, hx⟩ := Option.isSome_iff_exists.mp hex.1
    have gap : d ≠ '_' := by
      rintro rfl
      cases hx
    have close : d ≠ '\x7d' := by
      rintro rfl
      cases hx
    rw [List.length_cons] at few one
    have left : digits 16 (v * 16 + x) ds = some n := by
      rw [← spell]
      simp [digits, gap, hx, hexDigit_lt hx]
    have next : step false (.point count v) d = some (.point (count + 1) (v * 16 + x), none) := by
      simp [step, close, hx, show count < 6 by omega]
    exact .more rfl (by simp) next (ih hex.2 (by omega) (by omega) left)

theorem emits_escaped {e : List Char} (h : Escaped binary e c) : Emits binary .backslash e c := by
  cases h with
  | @short x _ h =>
    refine .last rfl ?_
    have other : x ≠ 'x' ∧ x ≠ 'u' ∧ x ≠ '\n' := by
      refine ⟨?_, ?_, ?_⟩
      all_goals
        rintro rfl
        cases h
    simp [step, other, h]
  | @octet x y m k hx hy small =>
    have mark : step binary .backslash 'x' = some (.octet, none) := rfl
    have high : step binary .octet x = some (.octetLow m, none) := by simp [step, hx]
    have low : step binary (.octetLow m) y = some (.outside, some (Char.ofNat (m * 16 + k))) := by
      simp [step, hy, small]
    exact .more rfl (by simp) mark (.more rfl (by simp) high (.last rfl low))
  | @point ds n text one few hex spell scalar =>
    subst text
    have mark : step false .backslash 'u' = some (.brace, none) := rfl
    have opened : step false .brace '\x7b' = some (.point 0 0, none) := rfl
    have digits : Emits false (.point 0 0) (ds ++ ['\x7d']) (Char.ofNat n) :=
      emits_point hex (by omega) (by omega) spell scalar
    exact .more rfl (by simp) mark (.more rfl (by simp) opened digits)

end Escape

/-! ## Literals -/

theorem quotedFrom_spaces {binary : Bool} {g s : List Char} (spaces : ∀ c ∈ g, isSpace c = true)
    (seen : List Char) :
    quotedFrom binary .continued seen (g ++ s) = quotedFrom binary .continued seen s := by
  induction g with
  | nil => rfl
  | cons c g ih =>
    rw [List.forall_mem_cons] at spaces
    have quote : c ≠ '"' := by
      rintro rfl
      exact absurd spaces.1 (by decide)
    rw [List.cons_append, quotedFrom]
    simpa [quote, Escape.step, spaces.1] using ih spaces.2

/-- Behind the white space of a continued line the text goes on as if there were none. -/
theorem quotedFrom_continued {binary : Bool} {s : List Char}
    (solid : ∀ c ∈ s.head?, isSpace c = false) (seen : List Char) :
    quotedFrom binary .continued seen s = quotedFrom binary .outside seen s := by
  cases s with
  | nil => rfl
  | cons c s =>
    have step : Escape.step binary .continued c = Escape.step binary .outside c := by
      simp [Escape.step, solid c rfl]
    rw [quotedFrom, quotedFrom, step]
    rfl

theorem quotedFrom_spelled {binary : Bool} {s t : List Char} (h : Spelled binary s t)
    (seen rest : List Char) :
    quotedFrom binary .outside seen (s ++ '"' :: rest) = some (seen.reverse ++ t, rest) := by
  induction h generalizing seen with
  | nil => simp [quotedFrom, Escape.atEnd]
  | @plain c s t quote slash _ ih =>
    rw [List.cons_append, quotedFrom]
    simp only [quote, slash, Escape.step, beq_iff_eq, Bool.and_eq_true, false_and, if_false]
    rw [ih]
    simp
  | @escape e s t c escaped _ ih =>
    rw [List.cons_append, List.append_assoc, quotedFrom]
    simp only [Escape.step, show ('\\' == '"') = false by decide, Bool.false_and,
      Bool.false_eq_true, if_false, beq_self_eq_true, if_true]
    rw [(Escape.emits_escaped escaped).quotedFrom, ih]
    simp
  | @continued g s t spaces solid _ ih =>
    have opened : quotedFrom binary .outside seen ('\\' :: '\n' :: (g ++ (s ++ '"' :: rest))) =
        quotedFrom binary .continued seen (g ++ (s ++ '"' :: rest)) := rfl
    rw [List.cons_append, List.cons_append, List.append_assoc, opened, quotedFrom_spaces spaces,
      quotedFrom_continued, ih]
    intro c hc
    cases s with
    | nil =>
      obtain rfl := Option.some.inj hc
      decide
    | cons d s => exact solid c hc

/-- The number signs that would end a raw text do not reach beyond its last quote. -/
theorem prefix_of_prefix_quote {n : Nat} {t s : List Char}
    (h : List.replicate n '#' <+: t ++ '"' :: s) : List.replicate n '#' <+: t := by
  induction t generalizing n with
  | nil =>
    cases n with
    | zero => exact List.nil_prefix
    | succ n => exact absurd (List.cons_prefix_cons.mp h).1 (by decide)
  | cons c t ih =>
    cases n with
    | zero => exact List.nil_prefix
    | succ n =>
      obtain ⟨same, others⟩ := List.cons_prefix_cons.mp h
      exact List.cons_prefix_cons.mpr ⟨same, ih others⟩

theorem rawFrom_fits {n : Nat} {t : List Char} (fits : FitsRaw n t) (seen rest : List Char) :
    rawFrom n seen (t ++ '"' :: (List.replicate n '#' ++ rest)) =
      some (seen.reverse ++ t, rest) := by
  induction t generalizing seen with
  | nil =>
    have drop : (List.replicate n '#' ++ rest).drop n = rest :=
      List.drop_left' List.length_replicate
    simp [rawFrom, drop]
  | cons c t ih =>
    have goes : ¬(c = '"' ∧ List.replicate n '#' <+: t ++ '"' :: (List.replicate n '#' ++ rest)) :=
      fun ⟨quote, ends⟩ => fits <| List.IsPrefix.isInfix <|
        List.cons_prefix_cons.mpr ⟨quote.symm, prefix_of_prefix_quote ends⟩
    have inner : FitsRaw n t := fun inside => fits (inside.trans (List.suffix_cons c t).isInfix)
    rw [List.cons_append, rawFrom, if_neg (by simpa using goes), ih inner]
    simp

theorem raw_fits {n : Nat} {t : List Char} (fits : FitsRaw n t) (rest : List Char) :
    raw (rawText n t ++ rest) = some (t, rest) := by
  have written : rawText n t ++ rest =
      List.replicate n '#' ++ '"' :: (t ++ '"' :: (List.replicate n '#' ++ rest)) := by
    simp [rawText]
  have marks : ((rawText n t ++ rest).takeWhile (· == '#')).length = n := by
    rw [written, List.takeWhile_append_of_pos (by simp)]
    simp
  have opened : (rawText n t ++ rest).drop n =
      '"' :: (t ++ '"' :: (List.replicate n '#' ++ rest)) := by
    rw [written]
    exact List.drop_left' List.length_replicate
  unfold raw
  simp only [marks, opened]
  exact rawFrom_fits fits [] rest

theorem quoted_spelled {binary : Bool} {s t : List Char} (h : Spelled binary s t)
    (rest : List Char) : quoted binary (s ++ '"' :: rest) = some (t, rest) :=
  quotedFrom_spelled h [] rest

theorem character_plain (binary : Bool) {c : Char} (plain : c ≠ '\\')
    (small : binary = true → c.toNat < 0x80) (rest : List Char) :
    character binary (c :: '\'' :: rest) = some rest := by
  have fits : (binary && 0x80 ≤ c.toNat) = false := by
    cases binary with
    | false => rfl
    | true => simpa using small rfl
  unfold character
  simp [fits]

theorem character_escaped {binary : Bool} {e : List Char} {c : Char} (h : Escaped binary e c)
    (rest : List Char) : character binary ('\\' :: (e ++ '\'' :: rest)) = some rest := by
  unfold character
  simp [(Escape.emits_escaped h).escaped]

/-- **A quoted literal is read as what it spells.** -/
theorem literal_of_literal {s : List Char} {v : Value} (h : Literal s v) (rest : List Char) :
    literal (s ++ rest) = some (v, rest) := by
  cases h with
  | text spelled => simp [literal, text, quoted_spelled spelled]
  | raw fits => simp [literal, text, raw_fits fits]
  | char plain => simp [literal, character_plain false plain nofun]
  | escaped h => simp [literal, character_escaped h]
  | octet plain small => simp [literal, character_plain true plain fun _ => small]
  | escapedOctet h => simp [literal, character_escaped h]
  | octets spelled => simp [literal, octets, quoted_spelled spelled]
  | rawOctets fits => simp [literal, octets, raw_fits fits]

/-- A quoted literal is no name. -/
theorem ident_literal {s : List Char} {v : Value} (h : Literal s v) (rest : List Char) :
    ident (s ++ rest) = none := by
  have marked (n : Nat) (t : List Char) : ∃ u, rawText n t ++ rest = '"' :: u ∨
      rawText n t ++ rest = '#' :: '"' :: u ∨ rawText n t ++ rest = '#' :: '#' :: u := by
    match n with
    | 0 => exact ⟨_, .inl rfl⟩
    | 1 => exact ⟨_, .inr (.inl rfl)⟩
    | n + 2 => exact ⟨_, .inr (.inr rfl)⟩
  have quote : isFirst '"' = false ∧ isFirst '\'' = false := by decide
  cases h with
  | text => simp [ident, quote.1]
  | @raw n t =>
    obtain ⟨u, same | same | same⟩ := marked n t
    all_goals simp [ident, same, startsLiteral]
  | char => simp [ident, quote.2]
  | escaped => simp [ident, quote.2]
  | octet => simp [ident, startsLiteral]
  | escapedOctet => simp [ident, startsLiteral]
  | octets => simp [ident, startsLiteral]
  | @rawOctets n t =>
    obtain ⟨u, same | same | same⟩ := marked n t
    all_goals simp [ident, same, startsLiteral]

end Outbox.Ron
