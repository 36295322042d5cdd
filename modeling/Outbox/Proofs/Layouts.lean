import Outbox.Proofs.Brackets

/-!
# Documents are read as the grammar has them

However a value is laid out, the reader takes it for the value that the grammar has it spell.

* `valued_constant` up to `valued_map`: one lemma for each form of a value.
* `form_valued`: one value, given those inside it. `writes_valued` is the induction on the levels.
* `document_spells`: **a document is read as the value that it spells**.
-/

set_option autoImplicit false

namespace Outbox.Ron

/-! ## Values -/

section Forms

variable {ext : Extensions} {wide nested : Bool} {item content : Reader Value}
  {Item Content : List Char → Value → Prop}

/-- A name where a value is wanted, and what stands behind it. -/
theorem form_ident {s left : List Char} {i : Ident} (h : ident s = some (i, left)) :
    form ext nested item content s =
      match if i.raw then none else constants.lookup i.name with
      | some v => some (v, left)
      | none =>
        if !i.raw && i.name == "Some".toList then
          if nested then option ext.unwrapVariants item content left else none
        else match skip left with
          | some ('(' :: rest) => if nested then body item (some i.name) rest else none
          | some rest => some (.word i.name, rest)
          | none => none := by
  unfold form
  split
  · rw [ident_none (by decide)] at h
    cases h
  · generalize ident s = o at h ⊢
    subst h
    rfl

/-- A name without a value of its own is a word, or names what stands in a bracket. -/
theorem form_free {s left : List Char} {i : Ident} (h : ident s = some (i, left))
    (free : i.IsFree) : form ext nested item content s =
      match skip left with
      | some ('(' :: rest) => if nested then body item (some i.name) rest else none
      | some rest => some (.word i.name, rest)
      | none => none := by
  rw [form_ident h]
  cases hr : i.raw with
  | true => rfl
  | false =>
    have other : (i.name == "Some".toList) = false := beq_eq_false_iff_ne.mpr (free hr).2
    simp only [Bool.false_eq_true, if_false, (free hr).1, other, Bool.and_false]

/-- What starts neither a name nor a bracket is a literal. -/
theorem form_unnamed {s : List Char} (unnamed : ident s = none)
    (unopened : ∀ c ∈ s.head?, c ∉ ['(', '[', '\x7b']) :
    form ext nested item content s = literal s := by
  unfold form
  split
  · exact absurd (unopened '(' rfl) (by decide)
  · rw [unnamed]
    simp only
    split
    · exact absurd (unopened '(' rfl) (by decide)
    · exact absurd (unopened '[' rfl) (by decide)
    · exact absurd (unopened '\x7b' rfl) (by decide)
    · rfl

theorem nameless_of_ident {s : List Char} {i : Ident} (h : Named s i) : Nameless s := by
  intro rest follows j left same
  rw [ident_named h follows.breaks] at same
  obtain ⟨-, rfl⟩ := Prod.mk.inj (Option.some.inj same)
  exact .inl rfl

theorem nameless_of_none {s : List Char} (h : ∀ rest, Follows rest → ident (s ++ rest) = none) :
    Nameless s := by
  intro rest follows i left same
  rw [h rest follows] at same
  cases same

theorem named_constant {s : List Char} {v : Value} (h : (s, v) ∈ constants) :
    Named s ⟨false, s⟩ ∧ constants.lookup s = some v := by
  simp only [constants, List.mem_cons, Prod.mk.injEq, List.not_mem_nil, or_false] at h
  rcases h with h | h | h | h | h | h | h | h | h
  all_goals
    obtain ⟨rfl, rfl⟩ := h
    exact ⟨named_plain (by decide), rfl⟩

theorem valued_constant {s : List Char} {v : Value} (h : (s, v) ∈ constants) :
    Valued wide (form ext nested item content) s v := by
  obtain ⟨named, value⟩ := named_constant h
  refine ⟨⟨named.opens, fun rest follows => .of_eq ?_⟩, nameless_of_ident named⟩
  rw [form_ident (ident_named named follows.breaks)]
  simp only [Bool.false_eq_true, if_false, value]

theorem valued_word {s : List Char} {i : Ident} (named : Named s i) (free : i.IsFree) :
    Valued wide (form ext nested item content) s (.word i.name) := by
  refine ⟨⟨named.opens, fun rest follows => ?_⟩, nameless_of_ident named⟩
  obtain ⟨d, skipped, mark⟩ := follows.next
  refine .inl ⟨d, ?_, (skip_skip skipped).trans skipped.symm⟩
  rw [form_free (ident_named named follows.breaks) free, skipped]
  split
  · next t same =>
    obtain rfl := Option.some.inj same
    exact absurd (mark '(' rfl) (by decide)
  · next t _ same => rw [Option.some.inj same]
  · next same => cases same

theorem valued_literal {s : List Char} {v : Value} (h : Literal s v) :
    Valued wide (form ext nested item content) s v := by
  have first : ∃ c t, s = c :: t ∧ c ∈ ['"', '\'', 'r', 'b'] := by
    cases h with
    | text | raw | char | escaped | octet | escapedOctet | octets | rawOctets =>
      exact ⟨_, _, rfl, by decide⟩
  obtain ⟨c, t, written, quote⟩ := first
  have opening : isOpening c = true ∧ c ∉ ['(', '[', '\x7b'] := by
    have all : ∀ c ∈ ['"', '\'', 'r', 'b'], isOpening c = true ∧ c ∉ ['(', '[', '\x7b'] :=
      forall_of_all (by decide)
    exact all c quote
  refine ⟨⟨⟨c, t, written, opening.1⟩, fun rest _ => .of_eq ?_⟩,
    nameless_of_none fun rest _ => ident_literal h rest⟩
  have unopened : ∀ d ∈ (s ++ rest).head?, d ∉ ['(', '[', '\x7b'] := by
    rw [written]
    exact fun d hd => Option.some.inj hd ▸ opening.2
  rw [form_unnamed (ident_literal h rest) unopened, literal_of_literal h]

/-! ### Numbers -/

theorem number_start {c : Char} (h : (c.isDigit || isSign c) = true) :
    isOpening c = true ∧ isFirst c = false ∧ c ∉ ['(', '[', '\x7b', '"', 'r', '\'', 'b'] := by
  have all : ∀ c ∈ (List.range 10).map (fun d => Char.ofNat (48 + d)) ++ ['.', '+', '-'],
      isOpening c = true ∧ isFirst c = false ∧
        c ∉ ['(', '[', '\x7b', '"', 'r', '\'', 'b'] := forall_of_all (by decide +kernel)
  refine all c ?_
  rw [Bool.or_eq_true] at h
  rcases h with digit | mark
  · simp only [Char.isDigit, Bool.and_eq_true, decide_eq_true_eq, UInt32.le_iff_toNat_le] at digit
    have range : 48 ≤ c.toNat ∧ c.toNat ≤ 57 := digit
    refine List.mem_append_left _ (List.mem_map.mpr ⟨c.toNat - 48, ?_, ?_⟩)
    · exact List.mem_range.mpr (by omega)
    · rw [show 48 + (c.toNat - 48) = c.toNat by omega, Char.ofNat_toNat]
  · simp only [isSign, Bool.or_eq_true, beq_iff_eq, or_assoc] at mark
    exact List.mem_append_right _ (by simpa using mark)

theorem literal_number {c : Char} (h : (c.isDigit || isSign c) = true) (t : List Char) :
    literal (c :: t) =
      (number (c :: t)).map fun (n, s) => ((n.map Value.integer).getD .scalar, s) := by
  have other := (number_start h).2.2
  simp only [List.mem_cons, not_or] at other
  obtain ⟨-, -, -, double, r, single, b, -⟩ := other
  unfold literal
  split
  · next same => exact absurd (List.cons.inj same).1 double
  · next same => exact absurd (List.cons.inj same).1 r
  · next same => exact absurd (List.cons.inj same).1 single
  · next same => exact absurd (List.cons.inj same).1 b
  · next same => exact absurd (List.cons.inj same).1 b
  · next same =>
    obtain ⟨rfl, rfl⟩ := List.cons.inj same
    rw [if_pos h]
  · next same => cases same

/-- Whether a text starts like a number. -/
def Numeric (s : List Char) : Prop := ∃ c t, s = c :: t ∧ (c.isDigit || isSign c) = true

theorem valued_number {s : List Char} {n : Option Integer} (numeric : Numeric s)
    (read : ∀ rest, Follows rest → Settles wide n rest (number (s ++ rest))) :
    Valued wide (form ext nested item content) s ((n.map Value.integer).getD .scalar) := by
  obtain ⟨c, t, rfl, start⟩ := numeric
  obtain ⟨opening, first, other⟩ := number_start start
  have unnamed (rest : List Char) : ident (c :: t ++ rest) = none := ident_none first _
  refine ⟨⟨⟨c, t, rfl, opening⟩, fun rest follows => ?_⟩,
    nameless_of_none fun rest _ => unnamed rest⟩
  have unopened : ∀ d ∈ (c :: t ++ rest).head?, d ∉ ['(', '[', '\x7b'] := by
    intro d hd
    obtain rfl := Option.some.inj hd
    simp only [List.mem_cons, not_or] at other
    simp [other]
  rw [form_unnamed (unnamed rest) unopened, List.cons_append, literal_number start]
  exact (read rest follows).map fun n => (n.map Value.integer).getD .scalar

theorem numeric_sign {g : Sign} {s : List Char} (h : Numeric s) : Numeric (g.text ++ s) := by
  cases g with
  | none => exact h
  | plus => exact ⟨'+', s, rfl, by decide⟩
  | minus => exact ⟨'-', s, rfl, by decide⟩

theorem Numeral.Spells.numeric {m : Numeral} {n : Nat} (h : m.Spells n) : Numeric m.text := by
  obtain ⟨c, t, written, digit⟩ := h.head_unsigned []
  have signed := m.text_append []
  rw [List.append_nil] at signed
  rw [signed, written]
  exact numeric_sign ⟨c, t, rfl, by simp [digit]⟩

theorem Fraction.numeric {s : List Char} (h : Fraction s) : Numeric s := by
  have run {w : List Char} (h : IsRun w) (s : List Char) : Numeric (w ++ s) := by
    obtain ⟨c, t, rfl, digit, -⟩ := h
    exact ⟨c, t ++ s, rfl, by simp [digit]⟩
  cases h with
  | finite mantissa =>
    refine numeric_sign ?_
    cases mantissa with
    | whole w => exact run w _
    | point w =>
      rw [List.append_assoc]
      exact run w _
    | both w =>
      rw [List.append_assoc]
      exact run w _
    | part => exact ⟨'.', _, rfl, by decide⟩
  | @infinite g _ _ signed =>
    cases g with
    | none => exact absurd rfl signed
    | plus => exact ⟨'+', _, rfl, by decide⟩
    | minus => exact ⟨'-', _, rfl, by decide⟩

theorem valued_integer {m : Numeral} {n : Nat} (h : m.Spells n)
    (fits : m.width.fits m.isNegative n = true) :
    Valued wide (form ext nested item content) m.text (.integer (m.integer n)) :=
  valued_number (n := some (m.integer n)) h.numeric fun _ follows =>
    .of_eq (h.number_fits fits follows.breaks)

theorem valued_large {m : Numeral} {n : Nat} (h : m.Spells n)
    (large : m.width.fits m.isNegative n = false) (known : (wide || m.isPlain) = true) :
    Valued wide (form ext nested item content) m.text .scalar := by
  refine valued_number (n := none) h.numeric fun rest follows => ?_
  cases plain : m.isPlain with
  | true => exact .of_eq (h.number_large large plain follows.breaks)
  | false =>
    obtain ⟨left, read, stuck⟩ := h.number_refused large plain follows.breaks
    refine .inr ⟨by simpa [plain] using known, fun y left' same => ?_⟩
    rw [read] at same
    obtain ⟨-, rfl⟩ := Prod.mk.inj (Option.some.inj same)
    exact stuck

theorem valued_fraction {s : List Char} (h : Fraction s) :
    Valued wide (form ext nested item content) s .scalar :=
  valued_number (n := none) h.numeric fun _ follows => .of_eq (number_fraction h follows.breaks)

/-! ### Brackets -/

theorem breaks_open {g : List Char} (h : Spacing g) (rest : List Char) :
    Breaks (g ++ '(' :: rest) := by
  intro c hc
  rcases stop_of_spacing h hc with stop | same
  · exact .inl stop
  · exact .inr (Option.some.inj same).symm

theorem skip_open {g : List Char} (h : Spacing g) (rest : List Char) :
    skip (g ++ '(' :: rest) = some ('(' :: rest) := by
  rw [skip_spacing h, skip_token (by decide) (by decide)]

/-- Elements are nothing at all, or do not start like the bracket that ends them. -/
theorem Elements.front {α : Type} {P : List Char → α → Prop} {s : List Char} {xs : List α}
    (h : Elements P s xs) (opens : ∀ s x, P s x → Opens s) :
    (s = [] ∧ xs = []) ∨ ∃ c t, s = c :: t ∧ c ≠ ')' := by
  have spaced {g : List Char} (space : Spacing g) :
      g = [] ∨ ∃ c t, g = c :: t ∧ c ≠ ')' := by
    cases space with
    | nil => exact .inl rfl
    | space space =>
      refine .inr ⟨_, _, rfl, ?_⟩
      rintro rfl
      exact absurd space (by decide)
    | line => exact .inr ⟨_, _, rfl, by decide⟩
    | block => exact .inr ⟨_, _, rfl, by decide⟩
  have element {g s t : List Char} {x : α} (space : Spacing g) (first : P s x) :
      ∃ c u, g ++ (s ++ t) = c :: u ∧ c ≠ ')' := by
    rcases spaced space with rfl | ⟨c, u, rfl, other⟩
    · obtain ⟨c, u, rfl, opening⟩ := opens s x first
      refine ⟨c, u ++ t, rfl, ?_⟩
      rintro rfl
      exact absurd opening (by decide)
    · exact ⟨c, _, rfl, other⟩
  cases h with
  | nil space =>
    rcases spaced space with rfl | some
    · exact .inl ⟨rfl, rfl⟩
    · exact .inr some
  | last space first => exact .inr (element space first)
  | cons space first => exact .inr (element space first)

/-- What stands in front of a bracket does not change how its content is read. -/
theorem form_headed {h : List Char} {name : Option (List Char)} (header : Header h name)
    {s : List Char} (some : name = none → ∀ t, s ≠ ')' :: t) :
    form ext true item content (h ++ '(' :: s) = body item name s := by
  cases header with
  | none =>
    have unnamed : ident ('(' :: s) = none := ident_none (by decide) s
    rw [List.nil_append]
    unfold form
    split
    · next t same => exact absurd (List.cons.inj same).2 (some rfl t)
    · rw [unnamed]
      rfl
  | @some k g i named free space =>
    rw [List.append_assoc, form_free (ident_named named (breaks_open space s)) free,
      skip_open space]
    rfl

/-- Nothing, or a name and spacing. -/
inductive Front : List Char → Prop where
  | none : Front []
  | some {k g : List Char} {i : Ident} : Named k i → Spacing g → Front (k ++ g)

theorem Header.front {h : List Char} {name : Option (List Char)} (header : Header h name) :
    Front h := by
  cases header with
  | none => exact .none
  | some named _ space => exact .some named space

/-- A bracket and what stands in front of it are a value if they are read as one. -/
theorem valued_front {h s : List Char} {v : Value} (front : Front h)
    (settles : ∀ rest, Follows rest →
      Settles wide v rest (form ext nested item content (h ++ '(' :: (s ++ ')' :: rest)))) :
    Valued wide (form ext nested item content) (h ++ '(' :: (s ++ [')'])) v := by
  have written (rest : List Char) : h ++ '(' :: (s ++ [')']) ++ rest =
      h ++ '(' :: (s ++ ')' :: rest) := by simp
  refine ⟨⟨?_, fun rest follows => ?_⟩, fun rest follows i left same => ?_⟩
  · cases front with
    | none => exact ⟨'(', _, rfl, by decide⟩
    | some named =>
      obtain ⟨c, t, rfl, opening⟩ := named.opens
      exact ⟨c, _, rfl, opening⟩
  · rw [written]
    exact settles rest follows
  · rw [written] at same
    cases front with
    | none =>
      rw [List.nil_append, ident_none (by decide)] at same
      cases same
    | some named space =>
      rw [List.append_assoc, ident_named named (breaks_open space _)] at same
      obtain ⟨-, rfl⟩ := Prod.mk.inj (Option.some.inj same)
      exact .inr ⟨_, skip_open space _⟩

theorem valued_record (each : ∀ s v, Item s v → Valued wide item s v) {h s : List Char}
    {name : Option (List Char)} {f : List Char × Value} {fs : List (List Char × Value)}
    (header : Header h name) (fields : Elements (Pair FieldName Item) s (f :: fs)) :
    Valued wide (form ext true item content) (h ++ '(' :: (s ++ [')']))
      (.record name (f :: fs)) := by
  have opens : ∀ s f, Pair FieldName Item s f → Opens s := fun s f h =>
    (element_field (fun s v h => (each s v h).toElement) h).opens
  refine valued_front header.front fun rest _ => ?_
  rw [form_headed header]
  · exact body_record each fields name rest
  · rintro - t same
    rcases fields.front opens with ⟨-, none⟩ | ⟨c, u, rfl, other⟩
    · cases none
    · exact other (List.cons.inj same).1

theorem valued_tuple (each : ∀ s v, Item s v → Valued wide item s v) {h s : List Char}
    {name : Option (List Char)} {vs : List Value} (header : Header h name)
    (values : Elements Item s vs) :
    Valued wide (form ext true item content) (h ++ '(' :: (s ++ [')'])) (.tuple name vs) := by
  refine valued_front header.front fun rest _ => ?_
  by_cases unit : name = none ∧ s = []
  · -- two brackets right behind each other are read before any name is looked for
    obtain ⟨rfl, rfl⟩ := unit
    obtain rfl : vs = [] := by
      rcases values.front fun s v h => (each s v h).opens with ⟨-, none⟩ | ⟨c, u, some, -⟩
      · exact none
      · cases some
    cases header
    exact .of_eq rfl
  · rw [form_headed header]
    · exact body_tuple each values name rest
    · rintro unnamed t same
      rcases values.front fun s v h => (each s v h).opens with ⟨none, -⟩ | ⟨c, u, rfl, other⟩
      · exact unit ⟨unnamed, none⟩
      · exact other (List.cons.inj same).1

theorem valued_something (each : ∀ s v, Content s v → Valued wide content s v) {g s : List Char}
    {v : Value} (space : Spacing g) (inside : Elements Content s [v]) :
    Valued wide (form Extensions.none true item content)
      ("Some".toList ++ (g ++ '(' :: (s ++ [')']))) (.something v) := by
  have named : Named "Some".toList ⟨false, "Some".toList⟩ := named_plain (by decide)
  have other : constants.lookup "Some".toList = none := by decide
  rw [← List.append_assoc]
  refine valued_front (.some named space) fun rest _ => ?_
  rw [List.append_assoc, form_ident (ident_named named (breaks_open space _))]
  simp only [Bool.false_eq_true, if_false, other, Bool.not_false, beq_self_eq_true, Bool.and_self,
    if_true]
  exact option_something each space inside item rest

/-- A bracket of another kind is a value if what it holds is read. -/
theorem valued_bracket {opening close : Char} {s : List Char} {v : Value}
    (bracket : (opening, close) ∈ [('[', ']'), ('\x7b', '\x7d')])
    (settles : ∀ rest, Settles wide v rest
      (form ext nested item content (opening :: (s ++ close :: rest)))) :
    Valued wide (form ext nested item content) (opening :: (s ++ [close])) v := by
  have first : isOpening opening = true ∧ isFirst opening = false := by
    have all : ∀ b ∈ [('[', ']'), ('\x7b', '\x7d')],
        isOpening b.1 = true ∧ isFirst b.1 = false := forall_of_all (by decide)
    exact all _ bracket
  refine ⟨⟨⟨opening, _, rfl, first.1⟩, fun rest _ => ?_⟩,
    nameless_of_none fun rest _ => ident_none first.2 _⟩
  rw [List.cons_append, List.append_assoc]
  exact settles rest

theorem valued_list (each : ∀ s v, Item s v → Valued wide item s v) {s : List Char}
    {vs : List Value} (values : Elements Item s vs) :
    Valued wide (form ext true item content) ('[' :: (s ++ [']'])) (.list vs) := by
  refine valued_bracket (by decide) fun rest => ?_
  have read : form ext true item content ('[' :: (s ++ ']' :: rest)) =
      (elements item ']' (s ++ ']' :: rest)).map fun r => (.list r.1, r.2) := by
    unfold form
    rw [ident_none (by decide)]
    rfl
  rw [read]
  rcases elements_elements (fun s v h => (each s v h).toElement) values
    (show ']' ∈ closers by decide) rest with all | ⟨refuses, none⟩
  · exact .of_eq (by rw [all]; rfl)
  · rw [none]
    exact .of_none refuses

theorem valued_map (each : ∀ s v, Item s v → Valued wide item s v) {s : List Char}
    {es : List (Value × Value)} (entries : Elements (Pair Item Item) s es) :
    Valued wide (form ext true item content) ('\x7b' :: (s ++ ['\x7d'])) (.map es) := by
  refine valued_bracket (by decide) fun rest => ?_
  have read : form ext true item content ('\x7b' :: (s ++ '\x7d' :: rest)) =
      (elements (entry item) '\x7d' (s ++ '\x7d' :: rest)).map fun r => (.map r.1, r.2) := by
    unfold form
    rw [ident_none (by decide)]
    rfl
  rw [read]
  rcases elements_elements (fun s e h => element_entry (fun s v h => (each s v h).toElement) h)
    entries (show '\x7d' ∈ closers by decide) rest with all | ⟨refuses, none⟩
  · exact .of_eq (by rw [all]; rfl)
  · rw [none]
    exact .of_none refuses

end Forms

/-! ## Documents -/

variable {wide : Bool}

/-- **One value is read as the grammar has it**, if those inside it are. -/
theorem form_valued {nested : Bool} {item content : Reader Value}
    {Item Content : List Char → Value → Prop} (items : ∀ s v, Item s v → Valued wide item s v)
    (contents : ∀ s v, Content s v → Valued wide content s v) {s : List Char} {v : Value}
    (h : Form wide nested Item Content s v) :
    Valued wide (form Extensions.none nested item content) s v := by
  cases h with
  | constant known => exact valued_constant known
  | word named free => exact valued_word named free
  | literal quoted => exact valued_literal quoted
  | integer spelled fits => exact valued_integer spelled fits
  | large spelled large known => exact valued_large spelled large known
  | fraction spelled => exact valued_fraction spelled
  | unit => exact valued_front (s := []) .none fun rest _ => .of_eq rfl
  | something nested space inside =>
    subst nested
    exact valued_something contents space inside
  | record nested header fields =>
    subst nested
    exact valued_record items header fields
  | tuple nested header values =>
    subst nested
    exact valued_tuple items header values
  | list nested values =>
    subst nested
    exact valued_list items values
  | map nested entries =>
    subst nested
    exact valued_map items entries

/-- Every value is read within the levels that it was written in. -/
theorem writes_valued (depth : Nat) : ∀ s v, Writes wide depth s v →
    Valued wide (value Extensions.none depth) s v := by
  -- a bracket and its elements take two levels, the content of an option takes one
  induction depth using Nat.strongRecOn with
  | _ depth ih =>
    intro s v h
    match depth with
    | 0 =>
      rw [value_zero]
      exact form_valued nofun nofun h
    | 1 => exact form_valued nofun (ih 0 (by omega)) h
    | depth + 2 =>
      rw [value_add_two]
      exact form_valued (ih depth (by omega)) (ih (depth + 1) (by omega)) h

/-- **A document is read as the value that it spells.** Where `wide` is set it may be refused. -/
theorem document_spells {s : List Char} {v : Value} (h : Spells wide s v) :
    document s = some ⟨Extensions.none, v⟩ ∨ wide = true ∧ document s = none := by
  obtain ⟨space, written, space'⟩ := h
  rename_i g s g'
  have valued := writes_valued maxDepth s v written
  have opened : skip (g ++ (s ++ g')) = some (s ++ g') := by
    rw [skip_spacing space, valued.opens.skip_append]
  have plain : attributes ((s ++ g').length + 1) Extensions.none (s ++ g') =
      some (Extensions.none, s ++ g') := by
    obtain ⟨c, t, rfl, opening⟩ := valued.opens
    rw [attributes, if_neg (by simpa using (solid_opening opening).2.2.1)]
  have last := skip_lastSpacing space'
  unfold document
  simp only [opened, plain]
  rcases valued.settles g' (follows_last space') with ⟨left, read, same⟩ | ⟨refuses, stuck⟩
  · left
    simp only [read, same, last]
  · refine .inr ⟨refuses, ?_⟩
    rcases hv : value Extensions.none maxDepth (s ++ g') with _ | ⟨y, left⟩
    · rfl
    · have skipped := (stuck y left hv).skip_eq
      obtain ⟨c, t, rfl, -⟩ := stuck y left hv
      simp only [skipped]

end Outbox.Ron
