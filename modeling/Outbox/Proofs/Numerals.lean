import Outbox.Proofs.Tokens

/-!
# Numbers are read as the grammar has them

* `integer_text`: an integer is read if it fits its type, and is none otherwise.
* `fraction_finite`: the fraction at the start of a document ends where its exponent does.
* `number_fits`, `number_large`, `number_fraction`: **a number of the grammar is read as what it
  spells**, with nothing left of it.
* `number_refused`: an integer that fits no type is read in part only, and what is left of it starts
  like a name. Nothing that may stand behind a value does.
-/

set_option autoImplicit false

namespace Outbox.Ron

/-- What starts like a name, as nothing behind a value does. -/
def Obstructed (s : List Char) : Prop := ∃ c t, s = c :: t ∧ isFirst c = true

/-! ## Signs, digits, types -/

/-- Whether no sign comes first. -/
def Unsigned (s : List Char) : Prop := ∀ c ∈ s.head?, c ≠ '+' ∧ c ≠ '-'

theorem unsigned_digit {c : Char} (digit : c.isDigit = true) (s : List Char) :
    Unsigned (c :: s) := by
  intro d hd
  obtain rfl := Option.some.inj hd
  constructor
  · rintro rfl
    exact absurd digit (by decide)
  · rintro rfl
    exact absurd digit (by decide)

theorem sign_text (g : Sign) {s : List Char} (unsigned : Unsigned s) :
    sign (g.text ++ s) = (g == .minus, s) := by
  cases g with
  | plus => rfl
  | minus => rfl
  | none =>
    cases s with
    | nil => rfl
    | cons c s =>
      obtain ⟨plus, minus⟩ := unsigned c rfl
      simp [Sign.text, sign, plus, minus]

theorem isDigit_of_hexDigit {c : Char} {d : Nat} (h : hexDigit c = some d) (small : d < 10) :
    c.isDigit = true := by
  simp only [hexDigit, Bool.and_eq_true, decide_eq_true_eq] at h
  split at h
  · next range =>
    simp only [Char.isDigit, Bool.and_eq_true, decide_eq_true_eq, UInt32.le_iff_toNat_le]
    exact range
  · split at h
    · obtain rfl := Option.some.inj h
      omega
    · split at h
      · obtain rfl := Option.some.inj h
        omega
      · cases h

/-- What spells a number in a base. -/
theorem mem_of_digits {base k n : Nat} {s : List Char} (h : digits base k s = some n) {c : Char}
    (hc : c ∈ s) : c = '_' ∨ ∃ d < base, hexDigit c = some d := by
  induction s generalizing k with
  | nil => cases hc
  | cons x s ih =>
    rw [digits] at h
    rcases List.mem_cons.mp hc with rfl | hc
    · split at h
      · next gap => exact .inl (by simpa using gap)
      · split at h
        · next d hd =>
          split at h
          · next small => exact .inr ⟨d, small, hd⟩
          · cases h
        · cases h
    · split at h
      · exact ih h hc
      · split at h
        · split at h
          · exact ih h hc
          · cases h
        · cases h

/-- No name goes on behind a break. -/
theorem Breaks.ends {rest : List Char} (breaks : Breaks rest) :
    (rest.head?.map Text.isIdentTail).getD false = false := by
  cases rest with
  | nil => rfl
  | cons c rest => exact (plain_of_stop (breaks c rfl)).1

theorem suffix_named {f : List Char × Width} (h : f ∈ suffixes) {rest : List Char}
    (breaks : Breaks rest) : suffix (f.1 ++ rest) = some (f.2, rest) := by
  have ends := breaks.ends
  rw [List.head?_eq_getElem?] at ends
  simp only [suffixes, List.mem_cons, List.not_mem_nil, or_false] at h
  rcases h with rfl | rfl | rfl | rfl | rfl | rfl | rfl | rfl
  all_goals simp [suffix, suffixes, List.findSome?, ends]

theorem suffix_none {s : List Char} (other : ∀ c ∈ s.head?, c ≠ 'i' ∧ c ≠ 'u') :
    suffix s = none := by
  cases s with
  | nil => rfl
  | cons c s =>
    obtain ⟨i, u⟩ := other c rfl
    simp [suffix, suffixes, List.findSome?, Ne.symm i, Ne.symm u]

theorem Sign.isFractionChar (g : Sign) : ∀ c ∈ g.text, isFractionChar c = true := by
  cases g with
  | none => exact nofun
  | plus => exact forall_of_all (by decide)
  | minus => exact forall_of_all (by decide)

theorem IsRun.isFractionChar {w : List Char} (h : IsRun w) : ∀ c ∈ w, isFractionChar c = true := by
  obtain ⟨c, t, rfl, first, each⟩ := h
  refine List.forall_mem_cons.mpr ⟨by simp [Ron.isFractionChar, first], fun d hd => ?_⟩
  rcases each d hd with digit | rfl
  · simp [Ron.isFractionChar, digit]
  · rfl

theorem IsRun.isDigitOrGap {w : List Char} (h : IsRun w) : ∀ c ∈ w, isDigitOrGap c = true := by
  have digit {c : Char} (h : c.isDigit = true) : Ron.isDigitOrGap c = true := by
    simp only [Char.isDigit, Bool.and_eq_true, decide_eq_true_eq, UInt32.le_iff_toNat_le] at h
    have range : 0x30 ≤ c.toNat ∧ c.toNat ≤ 0x39 := h
    simp [Ron.isDigitOrGap, hexDigit, range]
  obtain ⟨c, t, rfl, first, each⟩ := h
  refine List.forall_mem_cons.mpr ⟨digit first, fun d hd => ?_⟩
  rcases each d hd with h | rfl
  · exact digit h
  · rfl

/-! ## Integers -/

theorem not_mark_of_digit {c : Char} (h : c.isDigit = true ∨ c = '_') : c ∉ ['b', 'o', 'x'] := by
  rcases h with digit | rfl
  · intro mark
    simp only [List.mem_cons, List.not_mem_nil, or_false] at mark
    rcases mark with rfl | rfl | rfl
    all_goals exact absurd digit (by decide)
  · decide

/-- A run of decimal digits does not announce another base. -/
theorem announced_run {c : Char} {t tail : List Char}
    (plain : ∀ d ∈ t ++ tail.head?.toList, d ∉ ['b', 'o', 'x']) :
    announced (c :: (t ++ tail)) = (10, c :: (t ++ tail)) := by
  have second {x : Char} {s : List Char} (h : c :: (t ++ tail) = '0' :: x :: s) :
      x ∉ ['b', 'o', 'x'] := by
    obtain ⟨-, h⟩ := List.cons.inj h
    cases t with
    | nil => exact plain x (by rw [List.nil_append] at h; rw [h]; simp)
    | cons d t =>
      obtain ⟨rfl, -⟩ := List.cons.inj h
      exact plain d (by simp)
  unfold announced
  split
  · next same => exact absurd (second same) (by decide)
  · next same => exact absurd (second same) (by decide)
  · next same => exact absurd (second same) (by decide)
  · rfl

namespace Numeral

variable {m : Numeral} {n : Nat} {rest : List Char}

/-- What stands behind the digits: a type, or what stands behind the number. -/
def tail (m : Numeral) (rest : List Char) : List Char := (m.suffix.map Prod.fst).getD [] ++ rest

/-- The number without its sign. -/
def unsigned (m : Numeral) (rest : List Char) : List Char := m.base.text ++ (m.run ++ m.tail rest)

theorem text_append (m : Numeral) (rest : List Char) :
    m.text ++ rest = m.sign.text ++ m.unsigned rest := by
  simp [text, unsigned, tail]

theorem Spells.head_tail (h : m.Spells n) (breaks : Breaks rest) {c : Char}
    (hc : c ∈ (m.tail rest).head?) : c = 'i' ∨ c = 'u' ∨ isStop c = true ∨ c = '(' := by
  rw [tail] at hc
  rcases hs : m.suffix with _ | f
  · rw [hs] at hc
    exact .inr (.inr (breaks c hc))
  · rw [hs] at hc
    have named := (h.suffix f hs).1
    simp only [suffixes, List.mem_cons, List.not_mem_nil, or_false] at named
    rcases named with rfl | rfl | rfl | rfl | rfl | rfl | rfl | rfl
    all_goals
      obtain rfl := Option.some.inj hc
      simp

/-- What stands behind the digits goes on with none of them. -/
theorem Spells.stops (h : m.Spells n) (breaks : Breaks rest) {c : Char}
    (hc : c ∈ (m.tail rest).head?) :
    isDigitOrGap c = false ∧ isFractionChar c = false ∧ c ∉ ['b', 'o', 'x'] := by
  rcases h.head_tail breaks hc with rfl | rfl | stop
  · decide
  · decide
  · obtain ⟨-, -, -, digit, fraction, other⟩ := plain_of_stop stop
    simp only [joints, List.mem_cons, not_or] at other
    exact ⟨digit, fraction, by simp [other]⟩

theorem Spells.run_digits (h : m.Spells n) {c : Char} (hc : c ∈ m.run) :
    isDigitOrGap c = true := by
  rcases mem_of_digits h.digits hc with rfl | ⟨d, -, hd⟩
  · rfl
  · simp [isDigitOrGap, hd]

theorem Spells.takeWhile_run (h : m.Spells n) (breaks : Breaks rest) :
    (m.run ++ m.tail rest).takeWhile isDigitOrGap = m.run ∧
      (m.run ++ m.tail rest).dropWhile isDigitOrGap = m.tail rest :=
  takeWhile_stops (fun _ hc => h.run_digits hc) fun _ hc => (h.stops breaks hc).1

/-- Decimal digits are digits of a fraction as well. -/
theorem Spells.isRun (h : m.Spells n) (decimal : m.base = .decimal) : IsRun m.run := by
  obtain ⟨c, t, run, first⟩ := h.first
  have each (d : Char) (hd : d ∈ m.run) : d.isDigit = true ∨ d = '_' := by
    have spelled := h.digits
    rw [decimal] at spelled
    rcases mem_of_digits spelled hd with rfl | ⟨x, small, hx⟩
    · exact .inr rfl
    · exact .inl (isDigit_of_hexDigit hx small)
  refine ⟨c, t, run, ?_, fun d hd => each d (by rw [run]; exact List.mem_cons_of_mem c hd)⟩
  exact (each c (by rw [run]; exact List.mem_cons_self)).resolve_right first

theorem Spells.announced (h : m.Spells n) (breaks : Breaks rest) :
    announced (m.unsigned rest) = (m.base.radix, m.run ++ m.tail rest) := by
  rcases hb : m.base
  case decimal =>
    obtain ⟨c, t, run, -, each⟩ := h.isRun hb
    rw [unsigned, hb, run]
    refine announced_run fun d hd => ?_
    rcases List.mem_append.mp hd with digit | behind
    · exact not_mark_of_digit (each d digit)
    · exact (h.stops breaks (Option.mem_toList.mp behind)).2.2
  all_goals
    rw [unsigned, hb]
    rfl

theorem Spells.magnitude (h : m.Spells n) (breaks : Breaks rest) :
    magnitude (m.unsigned rest) = some (n, m.tail rest) := by
  obtain ⟨run, behind⟩ := h.takeWhile_run breaks
  obtain ⟨c, t, written, first⟩ := h.first
  unfold Ron.magnitude
  rw [h.announced breaks]
  simp only [run, behind, h.digits]
  rw [if_neg (by simp [written, first])]
  rfl

/-- The type is looked for behind the first run of digits, which ends early in some bases. -/
theorem Spells.suffix_behind (h : m.Spells n) (breaks : Breaks rest) :
    Ron.suffix ((m.unsigned rest).dropWhile isDigitOrGap) = m.suffix.map fun f => (f.2, rest) := by
  have behind := (h.takeWhile_run breaks).2
  have whole (s : List Char) (digits : ∀ c ∈ s, isDigitOrGap c = true)
      (written : m.base.text = s) :
      Ron.suffix ((m.unsigned rest).dropWhile isDigitOrGap) =
        m.suffix.map fun f => (f.2, rest) := by
    rw [unsigned, written, List.dropWhile_append_of_pos digits, behind, tail]
    rcases hs : m.suffix with _ | f
    · refine suffix_none fun c hc => ?_
      have other := (plain_of_stop (breaks c hc)).2.2.2.2.2
      simp only [joints, List.mem_cons, not_or] at other
      exact ⟨other.2.2.2.1, other.2.2.2.2.1⟩
    · exact suffix_named (h.suffix f hs).1 breaks
  have early (untyped : m.base.takesSuffix = false) (c : Char) (s : List Char)
      (written : (m.unsigned rest).dropWhile isDigitOrGap = c :: s) (i : c ≠ 'i') (u : c ≠ 'u') :
      Ron.suffix ((m.unsigned rest).dropWhile isDigitOrGap) =
        m.suffix.map fun f => (f.2, rest) := by
    have none : m.suffix = .none := by
      rcases hs : m.suffix with _ | f
      · rfl
      · exact absurd (h.suffix f hs).2 (by simp [untyped])
    rw [written, none]
    refine suffix_none fun d hd => ?_
    obtain rfl := Option.some.inj hd
    exact ⟨i, u⟩
  rcases hb : m.base
  case decimal => exact whole [] (by simp) (by rw [hb]; rfl)
  case binary => exact whole ['0', 'b'] (forall_of_all (by decide)) (by rw [hb]; rfl)
  case octal =>
    exact early (by rw [hb]; rfl) 'o' _ (by rw [unsigned, hb]; rfl) (by decide) (by decide)
  case hexadecimal =>
    exact early (by rw [hb]; rfl) 'x' _ (by rw [unsigned, hb]; rfl) (by decide) (by decide)

/-- The number starts with a digit behind its sign. -/
theorem Spells.head_unsigned (h : m.Spells n) (rest : List Char) :
    ∃ c t, m.unsigned rest = c :: t ∧ c.isDigit = true := by
  rcases hb : m.base
  case decimal =>
    obtain ⟨c, t, run, digit, -⟩ := h.isRun hb
    exact ⟨c, _, by rw [unsigned, hb, run]; rfl, digit⟩
  all_goals exact ⟨'0', _, by rw [unsigned, hb]; rfl, by decide⟩

theorem Spells.sign (h : m.Spells n) (rest : List Char) :
    Ron.sign (m.text ++ rest) = (m.isNegative, m.unsigned rest) := by
  obtain ⟨c, t, written, digit⟩ := h.head_unsigned rest
  rw [text_append]
  exact sign_text m.sign (written ▸ unsigned_digit digit t)

/-- **An integer is read if it fits its type.** -/
theorem Spells.integer_text (h : m.Spells n) (breaks : Breaks rest) :
    Ron.integer (m.text ++ rest) =
      if m.width.fits m.isNegative n then some (m.integer n, rest) else none := by
  unfold Ron.integer
  rw [h.sign]
  simp only [h.magnitude breaks, h.suffix_behind breaks]
  rcases hs : m.suffix with _ | f
  · simp [width, integer, tail, hs]
  · simp [width, integer, hs]

/-- An integer does not look like a fraction. -/
theorem Spells.looksFractional (h : m.Spells n) (breaks : Breaks rest) :
    Ron.looksFractional (m.text ++ rest) = false := by
  -- behind the zero of another base a fraction would end
  have zero (x : Char) (s : List Char) (other : isFractionChar x = false) :
      (('0' :: x :: s).takeWhile isFractionChar).length ≤
        (('0' :: x :: s).takeWhile isDigitOrGap).length := by
    have digit : isFractionChar '0' = true ∧ isDigitOrGap '0' = true := by decide
    simp [List.takeWhile_cons, other, digit]
  unfold Ron.looksFractional
  rw [h.sign]
  simp only [decide_eq_false_iff_not, Nat.not_lt]
  rcases hb : m.base
  case decimal =>
    have run : (m.run ++ m.tail rest).takeWhile isFractionChar = m.run :=
      (takeWhile_stops (h.isRun hb).isFractionChar fun c hc => (h.stops breaks hc).2.1).1
    rw [unsigned, hb]
    show ((m.run ++ m.tail rest).takeWhile _).length ≤ ((m.run ++ m.tail rest).takeWhile _).length
    exact Nat.le_of_eq (by rw [run, (h.takeWhile_run breaks).1])
  all_goals
    rw [unsigned, hb]
    exact zero _ _ (by decide)

/-- **An integer that fits its type is read as it was written.** -/
theorem Spells.number_fits (h : m.Spells n) (fits : m.width.fits m.isNegative n = true)
    (breaks : Breaks rest) : number (m.text ++ rest) = some (some (m.integer n), rest) := by
  unfold number
  simp [h.looksFractional breaks, h.integer_text breaks, fits]

end Numeral

/-! ## Fractions -/

theorem Exponent.isFractionChar {e : List Char} (h : Exponent e) :
    ∀ c ∈ e, isFractionChar c = true := by
  cases h with
  | none => exact nofun
  | @some x g ds letter run =>
    have mark : Ron.isFractionChar x = true := by
      simp only [List.mem_cons, List.not_mem_nil, or_false] at letter
      rcases letter with rfl | rfl
      · rfl
      · rfl
    exact List.forall_mem_cons.mpr
      ⟨mark, List.forall_mem_append.mpr ⟨g.isFractionChar, run.isFractionChar⟩⟩

theorem Mantissa.isFractionChar {m : List Char} (h : Mantissa m) :
    ∀ c ∈ m, isFractionChar c = true := by
  have point {s : List Char} (h : ∀ c ∈ s, Ron.isFractionChar c = true) :
      ∀ c ∈ '.' :: s, Ron.isFractionChar c = true := List.forall_mem_cons.mpr ⟨rfl, h⟩
  cases h with
  | whole w => exact w.isFractionChar
  | point w => exact List.forall_mem_append.mpr ⟨w.isFractionChar, point nofun⟩
  | both w p => exact List.forall_mem_append.mpr ⟨w.isFractionChar, point p.isFractionChar⟩
  | part p => exact point p.isFractionChar

/-- Digits without underscores. -/
structure Plain (s : List Char) : Prop where
  full : s ≠ []
  digits : ∀ c ∈ s, c.isDigit = true

theorem Plain.unsigned {w : List Char} (h : Plain w) (s : List Char) : Unsigned (w ++ s) := by
  obtain ⟨c, t, rfl⟩ := List.exists_cons_of_ne_nil h.full
  exact unsigned_digit (h.digits c List.mem_cons_self) _

/-- Underscores in a run of digits are left out, and may stand behind it. -/
theorem ungrouped_run {w : List Char} (h : IsRun w) (allowed : Bool) :
    ∃ w', Plain w' ∧ ∀ s, ungrouped allowed (w ++ s) = (ungrouped true s).map (w' ++ ·) := by
  obtain ⟨c, t, rfl, first, each⟩ := h
  have gap {d : Char} (digit : d.isDigit = true) : (d == '_') = false := by
    rw [beq_eq_false_iff_ne]
    rintro rfl
    exact absurd digit (by decide)
  have others : ∃ t' : List Char, (∀ c ∈ t', c.isDigit = true) ∧
      ∀ s, ungrouped true (t ++ s) = (ungrouped true s).map (t' ++ ·) := by
    clear first
    induction t with
    | nil => exact ⟨[], nofun, fun s => by simp⟩
    | cons d t ih =>
      rw [List.forall_mem_cons] at each
      obtain ⟨t', digits, same⟩ := ih each.2
      rcases each.1 with digit | rfl
      · refine ⟨d :: t', List.forall_mem_cons.mpr ⟨digit, digits⟩, fun s => ?_⟩
        rw [List.cons_append, ungrouped, gap digit]
        simp [digit, same, Function.comp_def]
      · refine ⟨t', digits, fun s => ?_⟩
        rw [← same]
        rfl
  obtain ⟨t', digits, same⟩ := others
  refine ⟨c :: t', ⟨List.cons_ne_nil _ _, List.forall_mem_cons.mpr ⟨first, digits⟩⟩, fun s => ?_⟩
  rw [List.cons_append, ungrouped, gap first]
  simp [first, same, Function.comp_def]

/-- What stands behind the digits of a fraction, without underscores. -/
structure Behind (e : List Char) : Prop where
  exponent : isExponent e = true
  ends : ∀ c ∈ e.head?, c.isDigit = false ∧ c ≠ '.'

theorem ungrouped_exponent {e : List Char} (h : Exponent e) (allowed : Bool) :
    ∃ e', Behind e' ∧ ungrouped allowed e = some e' := by
  cases h with
  | none => exact ⟨[], ⟨rfl, nofun⟩, rfl⟩
  | @some x g ds letter run =>
    obtain ⟨ds', plain, same⟩ := ungrouped_run run true
    have mark : x.isDigit = false ∧ x ≠ '.' ∧ x ≠ '_' ∧ (x == 'e' || x == 'E') = true := by
      have all : ∀ x ∈ ['e', 'E'],
          x.isDigit = false ∧ x ≠ '.' ∧ x ≠ '_' ∧ (x == 'e' || x == 'E') = true :=
        forall_of_all (by decide)
      exact all x letter
    have inner : ungrouped true (g.text ++ ds) = some (g.text ++ ds') := by
      have digits : ungrouped true ds = some ds' := by
        simpa [ungrouped] using same []
      cases g with
      | none => exact digits
      | plus => simp [Sign.text, ungrouped, digits]
      | minus => simp [Sign.text, ungrouped, digits]
    have exponent : isExponent (x :: (g.text ++ ds')) = true := by
      have signed : sign (g.text ++ ds') = (g == .minus, ds') := by
        rw [← List.append_nil ds']
        exact sign_text g (plain.unsigned [])
      rw [isExponent, mark.2.2.2, signed]
      simpa [List.isEmpty_eq_false_iff.mpr plain.full] using plain.digits
    refine ⟨x :: (g.text ++ ds'), ⟨exponent, fun c hc => ?_⟩, ?_⟩
    · obtain rfl := Option.some.inj hc
      exact ⟨mark.1, mark.2.1⟩
    · simp [ungrouped, mark, inner]

/-- Digits and an exponent are a fraction. -/
theorem isFraction_whole {w e : List Char} (h : Plain w) (he : Behind e) :
    isFraction (w ++ e) = true := by
  obtain ⟨run, behind⟩ := takeWhile_stops h.digits fun c hc => (he.ends c hc).1
  have signed : sign (w ++ e) = (false, w ++ e) := sign_text .none (h.unsigned e)
  unfold isFraction
  simp only [signed, run, behind]
  split
  · exact absurd rfl (he.ends '.' rfl).2
  · simp [List.isEmpty_eq_false_iff.mpr h.full, he.exponent]

/-- Digits around a point and an exponent are a fraction. One side may lack its digits. -/
theorem isFraction_point {w p e : List Char} (hw : ∀ c ∈ w, c.isDigit = true)
    (hp : ∀ c ∈ p, c.isDigit = true) (full : w ≠ [] ∨ p ≠ []) (he : Behind e) :
    isFraction (w ++ '.' :: (p ++ e)) = true := by
  have point : '.'.isDigit = false := by decide
  have stops : ∀ c ∈ ('.' :: (p ++ e)).head?, c.isDigit = false := fun c hc =>
    Option.some.inj hc ▸ point
  obtain ⟨run, behind⟩ := takeWhile_stops hw stops
  obtain ⟨run', behind'⟩ := takeWhile_stops hp fun c hc => (he.ends c hc).1
  have signed : sign (w ++ '.' :: (p ++ e)) = (false, w ++ '.' :: (p ++ e)) := by
    refine sign_text .none ?_
    cases w with
    | nil => exact fun c hc => Option.some.inj hc ▸ (by decide)
    | cons c w => exact unsigned_digit (hw c List.mem_cons_self) _
  unfold isFraction
  simp only [signed, run, behind, run', behind', he.exponent, Bool.and_true]
  simpa [-not_and, ← not_and_or] using full

/-- A fraction is one without its underscores as well. -/
theorem ungrouped_finite {m e : List Char} (hm : Mantissa m) (he : Exponent e) :
    Unsigned (m ++ e) ∧ ∃ s, ungrouped false (m ++ e) = some s ∧ Unsigned s ∧
      isFraction s = true := by
  have first {w : List Char} (h : IsRun w) (s : List Char) : Unsigned (w ++ s) := by
    obtain ⟨c, t, rfl, digit, -⟩ := h
    exact unsigned_digit digit _
  have point (s : List Char) : Unsigned ('.' :: s) := fun c hc =>
    Option.some.inj hc ▸ (by decide)
  obtain ⟨e', behind, exponent⟩ := ungrouped_exponent he true
  cases hm with
  | whole w =>
    obtain ⟨w', hw, whole⟩ := ungrouped_run w false
    exact ⟨first w e, w' ++ e', by simp [whole, exponent], hw.unsigned e',
      isFraction_whole hw behind⟩
  | @point w hw =>
    obtain ⟨w', hw', whole⟩ := ungrouped_run hw false
    obtain ⟨e', behind, exponent⟩ := ungrouped_exponent he false
    have written : w ++ ['.'] ++ e = w ++ '.' :: e := by simp
    rw [written]
    exact ⟨first hw _, w' ++ '.' :: e', by simp [whole, ungrouped, exponent], hw'.unsigned _,
      isFraction_point (p := []) hw'.digits nofun (.inl hw'.full) behind⟩
  | @both w p hw hp =>
    obtain ⟨w', hw', whole⟩ := ungrouped_run hw false
    obtain ⟨p', hp', part⟩ := ungrouped_run hp false
    have written : w ++ '.' :: p ++ e = w ++ '.' :: (p ++ e) := by simp
    rw [written]
    exact ⟨first hw _, w' ++ '.' :: (p' ++ e'), by simp [whole, ungrouped, part, exponent],
      hw'.unsigned _, isFraction_point hw'.digits hp'.digits (.inl hw'.full) behind⟩
  | @part p hp =>
    obtain ⟨p', hp', part⟩ := ungrouped_run hp false
    exact ⟨point _, '.' :: (p' ++ e'), by simp [ungrouped, part, exponent], point _,
      isFraction_point (w := []) nofun hp'.digits (.inr hp'.full) behind⟩

theorem ungrouped_sign (g : Sign) (s : List Char) :
    ungrouped false (g.text ++ s) = (ungrouped false s).map (g.text ++ ·) := by
  cases g with
  | none => simp [Sign.text]
  | plus => simp [Sign.text, ungrouped]
  | minus => simp [Sign.text, ungrouped]

theorem isFraction_sign (g : Sign) {s : List Char} (h : Unsigned s) :
    isFraction (g.text ++ s) = isFraction s := by
  have none : sign s = (false, s) := sign_text .none h
  unfold isFraction
  rw [sign_text g h, none]

/-- What starts with no letter behind its sign is no infinity. -/
theorem unbounded_none (g : Sign) {s : List Char} (unsigned : Unsigned s)
    (other : ∀ c ∈ s.head?, isFractionChar c = true) : unbounded (g.text ++ s) = none := by
  have no {x y : Char} {t : List Char} (mark : x = '+' ∨ x = '-')
      (letter : isFractionChar y = false) : g.text ++ s ≠ x :: y :: t := by
    intro same
    cases g with
    | none =>
      have first := unsigned x (by rw [show s = x :: y :: t from same]; rfl)
      exact mark.elim first.1 first.2
    | plus =>
      have first := other y (by rw [show s = y :: t from (List.cons.inj same).2]; rfl)
      exact absurd first (by simp [letter])
    | minus =>
      have first := other y (by rw [show s = y :: t from (List.cons.inj same).2]; rfl)
      exact absurd first (by simp [letter])
  unfold unbounded
  split
  · next same => exact absurd same (no (.inl rfl) (by decide))
  · next same => exact absurd same (no (.inr rfl) (by decide))
  · next same => exact absurd same (no (.inl rfl) (by decide))
  · next same => exact absurd same (no (.inr rfl) (by decide))
  · rfl

/-- **A finite fraction ends where its exponent does**, or behind its type. -/
theorem fraction_finite (g : Sign) {m e tail : List Char} (hm : Mantissa m) (he : Exponent e)
    (stops : ∀ c ∈ tail.head?, isFractionChar c = false) :
    fraction (g.text ++ (m ++ (e ++ tail))) = some (dropFractionSuffix tail) := by
  obtain ⟨unsigned, s, plain, unsigned', fraction⟩ := ungrouped_finite hm he
  have chars : ∀ c ∈ g.text ++ (m ++ e), isFractionChar c = true :=
    List.forall_mem_append.mpr
      ⟨g.isFractionChar, List.forall_mem_append.mpr ⟨hm.isFractionChar, he.isFractionChar⟩⟩
  obtain ⟨run, behind⟩ := takeWhile_stops chars stops
  have written : g.text ++ (m ++ (e ++ tail)) = g.text ++ (m ++ e) ++ tail := by simp
  have finite : unbounded (g.text ++ (m ++ (e ++ tail))) = none := by
    have full : m ≠ [] := by
      cases hm with
      | whole h => obtain ⟨c, t, rfl, -⟩ := h; exact List.cons_ne_nil _ _
      | point h => simp
      | both h h' => simp
      | part h => simp
    obtain ⟨c, t, rfl⟩ := List.exists_cons_of_ne_nil full
    exact unbounded_none g unsigned fun d hd =>
      Option.some.inj hd ▸ hm.isFractionChar c List.mem_cons_self
  unfold Ron.fraction
  rw [finite, written]
  simp only [run, behind, ungrouped_sign, plain, Option.map_some, isFraction_sign g unsigned',
    fraction, if_true]

theorem dropFractionSuffix_none {s : List Char} (other : s.head? ≠ some 'f') :
    dropFractionSuffix s = s := by
  unfold dropFractionSuffix
  split
  · exact absurd rfl other
  · exact absurd rfl other
  · rfl

theorem dropFractionSuffix_named {f rest : List Char} (h : f ∈ fractionSuffixes)
    (breaks : Breaks rest) : dropFractionSuffix (f ++ rest) = rest := by
  have ends := breaks.ends
  simp only [fractionSuffixes, List.mem_cons, List.not_mem_nil, or_false] at h
  rcases h with rfl | rfl | rfl
  · refine dropFractionSuffix_none fun mark => ?_
    exact absurd (plain_of_stop (breaks 'f' mark)).2.2.2.2.2 (by decide)
  · simp [dropFractionSuffix, ends]
  · simp [dropFractionSuffix, ends]

/-! ## What does not fit its type -/

namespace Numeral

variable {m : Numeral} {n : Nat} {rest : List Char}

theorem Spells.number_fraction (h : m.Spells n) (large : m.width.fits m.isNegative n = false)
    (breaks : Breaks rest) :
    number (m.text ++ rest) = (fraction (m.text ++ rest)).map fun left => (none, left) := by
  unfold number
  simp [h.looksFractional breaks, h.integer_text breaks, large]

/-- **A decimal integer of any size is a number.** -/
theorem Spells.number_large (h : m.Spells n) (large : m.width.fits m.isNegative n = false)
    (plain : m.isPlain = true) (breaks : Breaks rest) :
    number (m.text ++ rest) = some (none, rest) := by
  simp only [isPlain, Bool.and_eq_true, beq_iff_eq, Option.isNone_iff_eq_none] at plain
  have written : m.text ++ rest = m.sign.text ++ (m.run ++ ([] ++ rest)) := by
    simp [text, plain, Base.text]
  have read := fraction_finite m.sign (.whole (h.isRun plain.1)) .none
    fun c hc => (plain_of_stop (breaks c hc)).2.2.2.2.1
  have ends : rest.head? ≠ some 'f' := fun mark =>
    absurd (plain_of_stop (breaks 'f' mark)).2.2.2.2.2 (by decide)
  rw [h.number_fraction large breaks, written, read, dropFractionSuffix_none ends]
  rfl

/-- Of another integer that fits no type something is left, and it starts like a name. -/
theorem Spells.number_refused (h : m.Spells n) (large : m.width.fits m.isNegative n = false)
    (typed : m.isPlain = false) (breaks : Breaks rest) :
    ∃ left, number (m.text ++ rest) = some (none, left) ∧ Obstructed left := by
  -- a fraction ends before the letter that announces the base, or before the type
  have stopped {w t : List Char} {c : Char} (hw : IsRun w) (letter : c ∈ ['i', 'u', 'b', 'o', 'x'])
      (written : m.unsigned rest = w ++ c :: t) :
      ∃ left, number (m.text ++ rest) = some (none, left) ∧ Obstructed left := by
    have mark : isFractionChar c = false ∧ c ≠ 'f' ∧ isFirst c = true := by
      have all : ∀ c ∈ ['i', 'u', 'b', 'o', 'x'],
          isFractionChar c = false ∧ c ≠ 'f' ∧ isFirst c = true := forall_of_all (by decide)
      exact all c letter
    have stops : ∀ d ∈ (c :: t).head?, isFractionChar d = false := fun d hd =>
      Option.some.inj hd ▸ mark.1
    have read := fraction_finite m.sign (.whole hw) .none stops
    refine ⟨c :: t, ?_, c, t, rfl, mark.2.2⟩
    rw [h.number_fraction large breaks, text_append, written]
    rw [List.nil_append] at read
    rw [read, dropFractionSuffix_none (by simpa using mark.2.1)]
    rfl
  have zero : IsRun ['0'] := ⟨'0', [], rfl, by decide, nofun⟩
  rcases hb : m.base
  case decimal =>
    rcases hs : m.suffix with _ | f
    · exact absurd typed (by simp [isPlain, hb, hs])
    · have named := (h.suffix f hs).1
      obtain ⟨c, t, letters, letter⟩ : ∃ c t, f.1 = c :: t ∧ c ∈ ['i', 'u', 'b', 'o', 'x'] := by
        simp only [suffixes, List.mem_cons, List.not_mem_nil, or_false] at named
        rcases named with rfl | rfl | rfl | rfl | rfl | rfl | rfl | rfl
        all_goals exact ⟨_, _, rfl, by decide⟩
      refine stopped (h.isRun hb) letter (t := t ++ rest) ?_
      simp [unsigned, tail, hb, hs, letters, Base.text]
  case binary => exact stopped zero (c := 'b') (by decide) (by rw [unsigned, hb]; rfl)
  case octal => exact stopped zero (c := 'o') (by decide) (by rw [unsigned, hb]; rfl)
  case hexadecimal => exact stopped zero (c := 'x') (by decide) (by rw [unsigned, hb]; rfl)

end Numeral

/-! ## What is no integer -/

/-- The letters of exponents and of the types of fractions are digits, but no decimal ones. -/
theorem hexDigit_letter {c : Char} (letter : c ∈ ['e', 'E', 'f']) :
    (∃ d, 10 ≤ d ∧ hexDigit c = some d) ∧ c ∉ ['b', 'o', 'x'] ∧ c ≠ '_' := by
  simp only [List.mem_cons, List.not_mem_nil, or_false] at letter
  rcases letter with rfl | rfl | rfl
  · exact ⟨⟨14, by decide, rfl⟩, by decide, by decide⟩
  · exact ⟨⟨14, by decide, rfl⟩, by decide, by decide⟩
  · exact ⟨⟨15, by decide, rfl⟩, by decide, by decide⟩

/-- Digits that run into such a letter have no decimal magnitude. -/
theorem magnitude_letter {w t : List Char} {c : Char} (hw : IsRun w)
    (letter : c ∈ ['e', 'E', 'f']) : magnitude (w ++ c :: t) = none := by
  obtain ⟨⟨d, large, hd⟩, other, gap⟩ := hexDigit_letter letter
  have digits := hw.isDigitOrGap
  obtain ⟨x, u, rfl, digit, each⟩ := hw
  have base : announced (x :: u ++ c :: t) = (10, x :: u ++ c :: t) := by
    refine announced_run fun y hy => ?_
    rcases List.mem_append.mp hy with hy | hy
    · exact not_mark_of_digit (each y hy)
    · obtain rfl := List.mem_singleton.mp hy
      exact other
  have run : (x :: u ++ c :: t).takeWhile isDigitOrGap =
      x :: u ++ c :: t.takeWhile isDigitOrGap := by
    rw [List.takeWhile_append_of_pos digits, List.takeWhile_cons, isDigitOrGap, hd]
    rfl
  have none : Ron.digits 10 0 (x :: u ++ c :: t.takeWhile isDigitOrGap) = .none := by
    rw [digits_append, Option.bind_eq_none_iff]
    intro k _
    simp [Ron.digits, gap, hd, Nat.not_lt.mpr large]
  have first : x ≠ '_' := by
    rintro rfl
    exact absurd digit (by decide)
  unfold magnitude
  rw [base]
  simp only [run, none]
  simp [first]

/-- Digits that run into an exponent or a type of fractions are no integer. -/
theorem integer_none (g : Sign) {w t : List Char} {c : Char} (hw : IsRun w)
    (letter : c ∈ ['e', 'E', 'f']) : integer (g.text ++ (w ++ c :: t)) = none := by
  have unsigned : Unsigned (w ++ c :: t) := by
    obtain ⟨x, u, rfl, digit, -⟩ := hw
    exact unsigned_digit digit _
  unfold integer
  rw [sign_text g unsigned]
  simp only [magnitude_letter hw letter]

/-- No integer starts with a letter that is no digit. -/
theorem integer_letter (g : Sign) {c : Char} {t : List Char}
    (letter : isDigitOrGap c = false ∧ c ≠ '+' ∧ c ≠ '-') :
    integer (g.text ++ c :: t) = none := by
  have zero : c ≠ '0' := by
    rintro rfl
    exact absurd letter.1 (by decide)
  have signed : sign (g.text ++ c :: t) = (g == .minus, c :: t) :=
    sign_text g fun d hd => Option.some.inj hd ▸ letter.2
  have size : magnitude (c :: t) = .none := by
    simp [magnitude, announced, zero, letter.1]
  unfold integer
  rw [signed]
  simp only [size]

/-- A number that goes on behind a point can only be a fraction. -/
theorem looksFractional_point (g : Sign) {w : List Char} (t : List Char)
    (digits : ∀ c ∈ w, isDigitOrGap c = true) (chars : ∀ c ∈ w, isFractionChar c = true) :
    looksFractional (g.text ++ (w ++ '.' :: t)) = true := by
  have point : isDigitOrGap '.' = false ∧ isFractionChar '.' = true := by decide
  have signed : sign (g.text ++ (w ++ '.' :: t)) = (g == .minus, w ++ '.' :: t) := by
    refine sign_text g fun c hc => ?_
    have other : c = '.' ∨ isDigitOrGap c = true := by
      cases w with
      | nil => exact .inl (Option.some.inj hc).symm
      | cons x w => exact .inr (Option.some.inj hc ▸ digits x List.mem_cons_self)
    constructor
    · rintro rfl
      exact absurd other (by decide)
    · rintro rfl
      exact absurd other (by decide)
  have stops : ∀ c ∈ ('.' :: t).head?, isDigitOrGap c = false := fun c hc =>
    Option.some.inj hc ▸ point.1
  have run := (takeWhile_stops digits stops).1
  unfold looksFractional
  rw [signed]
  simp only [run]
  rw [List.takeWhile_append_of_pos chars, List.takeWhile_cons, point.2]
  simp

/-- A finite fraction is no integer. -/
theorem finite_not_integer (g : Sign) {m e f : List Char} (hm : Mantissa m) (he : Exponent e)
    (suffix : f ∈ fractionSuffixes) (full : IsRun m → e ++ f ≠ []) (rest : List Char) :
    (if looksFractional (g.text ++ (m ++ (e ++ (f ++ rest)))) then none
      else integer (g.text ++ (m ++ (e ++ (f ++ rest))))) = none := by
  cases hm with
  | whole w =>
    refine ite_eq_left_iff.mpr fun _ => ?_
    cases he with
    | none =>
      simp only [fractionSuffixes, List.mem_cons, List.not_mem_nil, or_false] at suffix
      rcases suffix with rfl | rfl | rfl
      · exact absurd rfl (full w)
      · exact integer_none g w (by decide)
      · exact integer_none g w (by decide)
    | some letter => exact integer_none g w (List.mem_append_left ['f'] letter)
  | @point w hw =>
    rw [List.append_assoc, List.singleton_append,
      looksFractional_point g _ hw.isDigitOrGap hw.isFractionChar]
    rfl
  | @both w p hw hp =>
    rw [List.append_assoc, List.cons_append,
      looksFractional_point g _ hw.isDigitOrGap hw.isFractionChar]
    rfl
  | @part p hp =>
    exact if_pos (looksFractional_point g (p ++ (e ++ (f ++ rest))) (w := []) nofun nofun)

/-- An infinity or not-a-number ends behind its type. -/
theorem unbounded_infinite {g : Sign} {w f rest : List Char} (signed : g ≠ .none)
    (word : w ∈ ["inf".toList, "NaN".toList]) (suffix : f ∈ fractionSuffixes)
    (breaks : Breaks rest) : unbounded (g.text ++ (w ++ (f ++ rest))) = some rest := by
  have named := dropFractionSuffix_named suffix breaks
  have ends := breaks.ends
  simp only [List.mem_cons, List.not_mem_nil, or_false] at word
  cases g with
  | none => exact absurd rfl signed
  | plus =>
    rcases word with rfl | rfl
    · simp [Sign.text, unbounded, named, ends]
    · simp [Sign.text, unbounded, named, ends]
  | minus =>
    rcases word with rfl | rfl
    · simp [Sign.text, unbounded, named, ends]
    · simp [Sign.text, unbounded, named, ends]

/-- **A fraction is a number**, and no integer. -/
theorem number_fraction {s rest : List Char} (h : Fraction s) (breaks : Breaks rest) :
    number (s ++ rest) = some (none, rest) := by
  cases h with
  | @finite g m e f hm he suffix full =>
    have written : g.text ++ (m ++ (e ++ f)) ++ rest = g.text ++ (m ++ (e ++ (f ++ rest))) := by
      simp
    have stops : ∀ c ∈ (f ++ rest).head?, isFractionChar c = false := by
      intro c hc
      simp only [fractionSuffixes, List.mem_cons, List.not_mem_nil, or_false] at suffix
      rcases suffix with rfl | rfl | rfl
      · exact (plain_of_stop (breaks c hc)).2.2.2.2.1
      · exact Option.some.inj hc ▸ (by decide)
      · exact Option.some.inj hc ▸ (by decide)
    unfold number
    rw [written, finite_not_integer g hm he suffix full, fraction_finite g hm he stops,
      dropFractionSuffix_named suffix breaks]
    rfl
  | @infinite g w f signed word suffix =>
    have written : g.text ++ (w ++ f) ++ rest = g.text ++ (w ++ (f ++ rest)) := by simp
    have none : integer (g.text ++ (w ++ (f ++ rest))) = none := by
      simp only [List.mem_cons, List.not_mem_nil, or_false] at word
      rcases word with rfl | rfl
      · exact integer_letter g (by decide)
      · exact integer_letter g (by decide)
    unfold number fraction
    rw [written, none, unbounded_infinite signed word suffix breaks]
    simp

end Outbox.Ron
