import Outbox.Proofs.Numerals

/-!
# What stands between brackets is read as the grammar has it

* `Settles`: what comes of reading a value. Where `wide` is set, a number may be refused; what is
  then left of it stops the reader.
* `Element`, `Valued`: a text that a reader takes for a value, whatever follows it.
* `items_elements`: **what stands between two brackets is read element by element.**
* `body_record`, `body_tuple`, `option_something`: the same for what follows a name.
-/

set_option autoImplicit false

namespace Outbox.Ron

/-! ## What a value starts with -/

/-- The characters that a value may start with. -/
def isOpening (c : Char) : Bool :=
  isFirst c || c.isDigit || isSign c || ['"', '\'', '(', '[', '\x7b'].contains c

theorem solid_opening {c : Char} (h : isOpening c = true) :
    isSpace c = false ∧ c ≠ '/' ∧ c ≠ '#' ∧ c ∉ marks := by
  have none : ∀ d ∈ spaces ++ '/' :: '#' :: marks, isOpening d = false :=
    forall_of_all (by decide +kernel)
  have other {d : Char} (hd : d ∈ spaces ++ '/' :: '#' :: marks) : c ≠ d := by
    rintro rfl
    exact absurd h (by simp [none c hd])
  refine ⟨?_, other (by simp), other (by simp), fun mark => ?_⟩
  · rw [← Bool.not_eq_true]
    exact fun space => other (List.mem_append_left _ (mem_of_isSpace space)) rfl
  · exact other (List.mem_append_right _ (by simp [mark])) rfl

/-- Whether a text starts like a value. -/
def Opens (s : List Char) : Prop := ∃ c t, s = c :: t ∧ isOpening c = true

theorem Opens.ne_nil {s : List Char} (h : Opens s) : s ≠ [] := by
  obtain ⟨c, t, rfl, -⟩ := h
  exact List.cons_ne_nil _ _

theorem Opens.skip_append {s : List Char} (h : Opens s) (rest : List Char) :
    skip (s ++ rest) = some (s ++ rest) := by
  obtain ⟨c, t, rfl, opening⟩ := h
  exact skip_token (solid_opening opening).1 (solid_opening opening).2.1 _

theorem Named.opens {s : List Char} {i : Ident} (h : Named s i) : Opens s := by
  cases h with
  | @plain c s first => exact ⟨c, s, rfl, by simp [isOpening, first]⟩
  | raw => exact ⟨'r', _, rfl, by decide⟩

theorem Obstructed.skip_eq {s : List Char} (h : Obstructed s) : skip s = some s := by
  obtain ⟨c, t, rfl, first⟩ := h
  have solid := solid_opening (show isOpening c = true by simp [isOpening, first])
  exact skip_token solid.1 solid.2.1 t

theorem Obstructed.ne_mark {c : Char} {s : List Char} (h : Obstructed (c :: s)) :
    c ∉ '(' :: marks := by
  obtain ⟨_, _, same, first⟩ := h
  obtain ⟨rfl, rfl⟩ := List.cons.inj same
  have round : c ≠ '(' := by
    rintro rfl
    exact absurd first (by decide)
  simpa [round] using (solid_opening (show isOpening c = true by simp [isOpening, first])).2.2.2

/-! ## What comes of reading -/

section Reading

variable {α β : Type} {wide : Bool}

/-- The reader got the value and stands where the rest starts, up to spacing. Where `wide` is set,
it may also have refused, or stand where nothing can go on. -/
def Settles (wide : Bool) (x : α) (rest : List Char) (o : Option (α × List Char)) : Prop :=
  (∃ left, o = some (x, left) ∧ skip left = skip rest) ∨
    (wide = true ∧ ∀ y left, o = some (y, left) → Obstructed left)

theorem Settles.of_eq {x : α} {rest : List Char} {o : Option (α × List Char)}
    (h : o = some (x, rest)) : Settles wide x rest o := .inl ⟨rest, h, rfl⟩

theorem Settles.of_none {x : α} {rest : List Char} (h : wide = true) :
    Settles wide x rest none := .inr ⟨h, nofun⟩

theorem Settles.map {x : α} {rest : List Char} {o : Option (α × List Char)}
    (h : Settles wide x rest o) (f : α → β) :
    Settles wide (f x) rest (o.map fun (y, left) => (f y, left)) := by
  rcases h with ⟨left, rfl, same⟩ | ⟨refuses, stuck⟩
  · exact .inl ⟨left, rfl, same⟩
  · refine .inr ⟨refuses, fun y left some => ?_⟩
    obtain ⟨⟨z, left'⟩, read, same⟩ := Option.map_eq_some_iff.mp some
    obtain ⟨-, rfl⟩ := Prod.mk.inj same
    exact stuck z left' read

/-- A text that a reader takes for `x`, whatever follows it. -/
structure Element (wide : Bool) (r : Reader α) (s : List Char) (x : α) : Prop where
  opens : Opens s
  settles : ∀ rest, Follows rest → Settles wide x rest (r (s ++ rest))

/-! ## Between brackets -/

variable {item : Reader α} {close : Char}

theorem items_skip {s t : List Char} (same : skip s = skip t) (fuel : Nat) (more : Bool) :
    items item close fuel more s = items item close fuel more t := by
  cases fuel with
  | zero => rfl
  | succ fuel => rw [items, items, same]

theorem comma_skip {s t : List Char} (same : skip s = skip t) : comma s = comma t := by
  rw [comma, comma, same]

/-- The brackets that end elements. -/
def closers : List Char := [')', ']', '\x7d']

theorem mark_of_closer {c : Char} (h : c ∈ closers) : c ∈ marks := by
  have all : ∀ c ∈ closers, c ∈ marks := forall_of_all (by decide)
  exact all c h

theorem skip_mark {g : List Char} (h : Spacing g) {c : Char} (mark : c ∈ marks)
    (rest : List Char) : skip (g ++ c :: rest) = some (c :: rest) := by
  have solid : ∀ d ∈ marks, isSpace d = false ∧ d ≠ '/' := forall_of_all (by decide)
  rw [skip_spacing h, skip_token (solid c mark).1 (solid c mark).2]

theorem comma_comma {g : List Char} (h : Spacing g) (rest : List Char) :
    comma (g ++ ',' :: rest) = (skip rest).map fun rest => (true, rest) := by
  rw [comma, skip_mark h (by decide)]
  rfl

theorem comma_close {g : List Char} (h : Spacing g) (closer : close ∈ closers)
    (rest : List Char) : comma (g ++ close :: rest) = some (false, close :: rest) := by
  have other : close ≠ ',' := by
    rintro rfl
    exact absurd closer (by decide)
  rw [comma, skip_mark h (mark_of_closer closer)]
  simp [other]

theorem items_close {g : List Char} (h : Spacing g) (mark : close ∈ marks) (fuel : Nat)
    (more : Bool) (rest : List Char) :
    items item close (fuel + 1) more (g ++ close :: rest) = some ([], rest) := by
  rw [items, skip_mark h mark]
  simp

/-- Where nothing can go on, there is no comma. -/
theorem Obstructed.comma_eq {s : List Char} (h : Obstructed s) : comma s = some (false, s) := by
  have skipped := h.skip_eq
  obtain ⟨c, t, rfl, -⟩ := id h
  have other : c ≠ ',' := by
    rintro rfl
    exact absurd h.ne_mark (by decide)
  rw [comma, skipped]
  simp [other]

/-- Where nothing can go on, no bracket closes. -/
theorem Obstructed.items_eq_none {s : List Char} (h : Obstructed s) (mark : close ∈ marks)
    (fuel : Nat) : items item close fuel false s = none := by
  cases fuel with
  | zero => rfl
  | succ fuel =>
    have skipped := h.skip_eq
    obtain ⟨c, t, rfl, -⟩ := id h
    have other : c ≠ close := by
      rintro rfl
      exact h.ne_mark (List.mem_cons_of_mem _ mark)
    rw [items, skipped]
    simp [other]

/-- What is read behind an element, from what came of reading the element. -/
def resume (item : Reader α) (close : Char) (fuel : Nat) (o : Option (α × List Char)) :
    Option (List α × List Char) :=
  o.bind fun (x, left) => (comma left).bind fun (more, left) =>
    (items item close fuel more left).map fun (xs, left) => (x :: xs, left)

theorem resume_stuck {o : Option (α × List Char)}
    (stuck : ∀ y left, o = some (y, left) → Obstructed left) (mark : close ∈ marks) (fuel : Nat) :
    resume item close fuel o = none := by
  rcases o with _ | ⟨y, left⟩
  · rfl
  · have stuck := stuck y left rfl
    simp only [resume, Option.bind_some, stuck.comma_eq, stuck.items_eq_none mark,
      Option.map_none]

/-- Reading elements from the start of one on. -/
theorem items_opens {g s : List Char} (h : Spacing g) (opens : Opens s) (mark : close ∈ marks)
    (fuel : Nat) (rest : List Char) :
    items item close (fuel + 1) true (g ++ (s ++ rest)) =
      resume item close fuel (item (s ++ rest)) := by
  have skipped : skip (g ++ (s ++ rest)) = some (s ++ rest) := by
    rw [skip_spacing h, opens.skip_append]
  obtain ⟨c, t, rfl, opening⟩ := opens
  have other : (c == close) = false := by
    rw [beq_eq_false_iff_ne]
    rintro rfl
    exact (solid_opening opening).2.2.2 mark
  rw [items, skipped, resume]
  simp only [List.cons_append, other, Bool.false_eq_true, if_false, Bool.not_true]
  rcases item (c :: (t ++ rest)) with _ | ⟨x, left⟩
  · rfl
  · simp only [Option.bind_some]
    rcases comma left with _ | ⟨more, left⟩
    · rfl
    · simp only [Option.bind_some]
      rcases items item close fuel more left with _ | ⟨xs, left⟩
      · rfl
      · rfl

variable {P : List Char → α → Prop}

/-- In front of elements there is something to read: an element, or the closing bracket. -/
theorem Elements.skips {s : List Char} {xs : List α} (h : Elements P s xs)
    (opens : ∀ s x, P s x → Opens s) (mark : close ∈ marks) (rest : List Char) :
    ∃ d, skip (s ++ close :: rest) = some d := by
  cases h with
  | nil space => exact ⟨_, skip_mark space mark rest⟩
  | last space first =>
    rw [List.append_assoc, skip_spacing space, List.append_assoc, (opens _ _ first).skip_append]
    exact ⟨_, rfl⟩
  | cons space first =>
    rw [List.append_assoc, skip_spacing space, List.append_assoc, (opens _ _ first).skip_append]
    exact ⟨_, rfl⟩

theorem Elements.length_le {s : List Char} {xs : List α} (h : Elements P s xs)
    (opens : ∀ s x, P s x → Opens s) : xs.length ≤ s.length := by
  have pos {s : List Char} {x : α} (h : P s x) : 0 < s.length :=
    List.length_pos_iff.mpr (opens s x h).ne_nil
  induction h with
  | nil => exact Nat.zero_le _
  | last _ first =>
    have := pos first
    simp only [List.length_append, List.length_singleton]
    omega
  | cons _ first _ _ ih =>
    have := pos first
    simp only [List.length_append, List.length_cons]
    omega

/-- **What stands between two brackets is read element by element.** -/
theorem items_elements (each : ∀ s x, P s x → Element wide item s x) {s : List Char} {xs : List α}
    (h : Elements P s xs) (closer : close ∈ closers) {fuel : Nat} (enough : xs.length < fuel)
    (rest : List Char) : items item close fuel true (s ++ close :: rest) = some (xs, rest) ∨
      wide = true ∧ items item close fuel true (s ++ close :: rest) = none := by
  have mark := mark_of_closer closer
  -- one of `fuel` for each element, and one for the bracket
  induction h generalizing fuel with
  | nil space =>
    obtain ⟨fuel, rfl⟩ : ∃ k, fuel = k + 1 := ⟨fuel - 1, by omega⟩
    exact .inl (items_close space mark fuel true rest)
  | @last g s g' x space first space' =>
    obtain ⟨fuel, rfl⟩ : ∃ k, fuel = k + 2 := ⟨fuel - 2, by simp at enough; omega⟩
    have element := each s x first
    have read := element.settles _ (follows_mark space' mark rest)
    have behind := comma_close space' closer rest
    rw [List.append_assoc, List.append_assoc, items_opens space element.opens mark]
    rcases read with ⟨left, read, same⟩ | ⟨refuses, stuck⟩
    · have closed : items item close (fuel + 1) false (close :: rest) = some ([], rest) :=
        items_close .nil mark fuel false rest
      left
      simp only [read, resume, Option.bind_some, comma_skip same, behind, closed, Option.map_some]
    · exact .inr ⟨refuses, resume_stuck stuck mark _⟩
  | @cons g s g' t x xs space first space' others ih =>
    obtain ⟨fuel, rfl⟩ : ∃ k, fuel = k + 1 := ⟨fuel - 1, by omega⟩
    rw [List.length_cons, Nat.add_lt_add_iff_right] at enough
    have element := each s x first
    obtain ⟨d, skipped⟩ := others.skips (fun s x h => (each s x h).opens) mark rest
    have read := element.settles _ (follows_mark space' (show ',' ∈ marks by decide)
      (t ++ close :: rest))
    have behind : comma (g' ++ ',' :: (t ++ close :: rest)) = some (true, d) := by
      rw [comma_comma space', skipped]
      rfl
    have others := ih enough
    rw [items_skip (skipped.trans (skip_skip skipped).symm)] at others
    have written : g ++ (s ++ (g' ++ ',' :: t)) ++ close :: rest =
        g ++ (s ++ (g' ++ ',' :: (t ++ close :: rest))) := by simp
    rw [written, items_opens space element.opens mark]
    rcases read with ⟨left, read, same⟩ | ⟨refuses, stuck⟩
    · simp only [read, resume, Option.bind_some, comma_skip same, behind]
      rcases others with all | ⟨refuses, none⟩
      · exact .inl (by rw [all]; rfl)
      · exact .inr ⟨refuses, by rw [none]; rfl⟩
    · exact .inr ⟨refuses, resume_stuck stuck mark _⟩

theorem elements_elements (each : ∀ s x, P s x → Element wide item s x) {s : List Char}
    {xs : List α} (h : Elements P s xs) (closer : close ∈ closers) (rest : List Char) :
    elements item close (s ++ close :: rest) = some (xs, rest) ∨
      wide = true ∧ elements item close (s ++ close :: rest) = none := by
  have few := h.length_le fun s x h => (each s x h).opens
  refine items_elements each h closer ?_ rest
  rw [List.length_append]
  omega

end Reading

/-! ## Fields and entries -/

section Fields

variable {wide : Bool} {item : Reader Value} {P : List Char → Value → Prop}

theorem colon_skip {s t : List Char} (same : skip s = skip t) : colon s = colon t := by
  rw [colon, colon, same]

theorem colon_colon {g : List Char} (h : Spacing g) (rest : List Char) :
    colon (g ++ ':' :: rest) = skip rest := by
  rw [colon, skip_mark h (by decide)]
  rfl

theorem Obstructed.colon_eq_none {s : List Char} (h : Obstructed s) : colon s = none := by
  have skipped := h.skip_eq
  obtain ⟨c, t, rfl, -⟩ := id h
  have other : c ≠ ':' := by
    rintro rfl
    exact absurd h.ne_mark (by decide)
  rw [colon, skipped]
  simp [other]

/-- A field is read by its name and its value. -/
theorem element_field (each : ∀ s v, P s v → Element wide item s v) {s : List Char}
    {f : List Char × Value} (h : Pair FieldName P s f) : Element wide (field item) s f := by
  obtain ⟨⟨i, named, rfl⟩, space, space', value⟩ := h
  rename_i k g g' s v
  obtain ⟨c, t, written, opening⟩ := named.opens
  refine ⟨⟨c, _, by rw [written]; rfl, opening⟩, fun rest follows => ?_⟩
  have element := each s v value
  have behind : colon (g ++ ':' :: (g' ++ (s ++ rest))) = some (s ++ rest) := by
    rw [colon_colon space, skip_spacing space', element.opens.skip_append]
  have written : k ++ (g ++ ':' :: (g' ++ s)) ++ rest =
      k ++ (g ++ ':' :: (g' ++ (s ++ rest))) := by simp
  rw [written, field, ident_named named (follows_mark space (by decide) _).breaks]
  simp only [behind]
  exact (element.settles rest follows).map _

/-- An entry is read by its key and its value. -/
theorem element_entry (each : ∀ s v, P s v → Element wide item s v) {s : List Char}
    {e : Value × Value} (h : Pair P P s e) : Element wide (entry item) s e := by
  obtain ⟨key, space, space', value⟩ := h
  rename_i k g g' s x v
  have first := each k x key
  have second := each s v value
  obtain ⟨c, t, written, opening⟩ := first.opens
  refine ⟨⟨c, _, by rw [written]; rfl, opening⟩, fun rest follows => ?_⟩
  have behind : colon (g ++ ':' :: (g' ++ (s ++ rest))) = some (s ++ rest) := by
    rw [colon_colon space, skip_spacing space', second.opens.skip_append]
  have written : k ++ (g ++ ':' :: (g' ++ s)) ++ rest =
      k ++ (g ++ ':' :: (g' ++ (s ++ rest))) := by simp
  have read := first.settles _ (follows_mark space (show ':' ∈ marks by decide)
    (g' ++ (s ++ rest)))
  rw [written, entry]
  rcases read with ⟨left, read, same⟩ | ⟨refuses, stuck⟩
  · simp only [read, colon_skip same, behind]
    exact (second.settles rest follows).map _
  · rcases hk : item (k ++ (g ++ ':' :: (g' ++ (s ++ rest)))) with _ | ⟨y, left⟩
    · exact .of_none refuses
    · simp only [(stuck y left hk).colon_eq_none]
      exact .of_none refuses

end Fields

/-! ## Records and tuples -/

/-- Whether behind a name that a value starts with stands nothing, or a bracket: no colon. -/
def Nameless (s : List Char) : Prop :=
  ∀ rest, Follows rest → ∀ i left, ident (s ++ rest) = some (i, left) →
    skip left = skip rest ∨ ∃ t, skip left = some ('(' :: t)

/-- A text that a reader takes for a value, and no field's name. -/
structure Valued (wide : Bool) (r : Reader Value) (s : List Char) (v : Value) : Prop
    extends Element wide r s v where
  nameless : Nameless s

section Bodies

variable {wide : Bool} {item : Reader Value} {P : List Char → Value → Prop}

/-- A record starts with a field. -/
theorem startsField_field (each : ∀ s v, P s v → Valued wide item s v) {s : List Char}
    {f : List Char × Value} {fs : List (List Char × Value)}
    (h : Elements (Pair FieldName P) s (f :: fs)) (rest : List Char) :
    startsField (s ++ ')' :: rest) = true := by
  have field {g s : List Char} (space : Spacing g) (h : Pair FieldName P s f) (rest : List Char) :
      startsField (g ++ (s ++ rest)) = true := by
    obtain ⟨⟨i, named, rfl⟩, space', space'', value⟩ := h
    rename_i k g' g'' s v
    have behind : colon (g' ++ ':' :: (g'' ++ (s ++ rest))) = some (s ++ rest) := by
      rw [colon_colon space', skip_spacing space'', (each s v value).opens.skip_append]
    have written : k ++ (g' ++ ':' :: (g'' ++ s)) ++ rest =
        k ++ (g' ++ ':' :: (g'' ++ (s ++ rest))) := by simp
    have named' := ident_named named
      (follows_mark space' (show ':' ∈ marks by decide) (g'' ++ (s ++ rest))).breaks
    rw [startsField, skip_spacing space, written, named.opens.skip_append]
    simp only [named', behind, Option.isSome_some]
  cases h with
  | last space first =>
    rw [List.append_assoc, List.append_assoc]
    exact field space first _
  | cons space first =>
    rw [List.append_assoc, List.append_assoc]
    exact field space first _

/-- A tuple does not start with a field. -/
theorem startsField_value (each : ∀ s v, P s v → Valued wide item s v) {s : List Char}
    {vs : List Value} (h : Elements P s vs) (rest : List Char) :
    startsField (s ++ ')' :: rest) = false := by
  have value {g s g' : List Char} {v : Value} {c : Char} (space : Spacing g) (h : P s v)
      (space' : Spacing g') (mark : c ∈ marks) (other : c ≠ ':') (rest : List Char) :
      startsField (g ++ (s ++ (g' ++ c :: rest))) = false := by
    have first := each s v h
    rw [startsField, skip_spacing space, first.opens.skip_append]
    rcases hi : ident (s ++ (g' ++ c :: rest)) with _ | ⟨i, left⟩
    · simp only [hi]
    · have none : colon left = none := by
        rcases first.nameless _ (follows_mark space' mark rest) i left hi with same | ⟨t, same⟩
        · rw [colon, same, skip_mark space' mark]
          simp [other]
        · rw [colon, same]
          simp
      simp only [hi, none, Option.isSome_none]
  cases h with
  | nil space =>
    rw [startsField, skip_mark space (by decide)]
    rfl
  | @last g s g' v space first space' =>
    rw [List.append_assoc, List.append_assoc]
    exact value space first space' (by decide) (by decide) rest
  | @cons g s g' t v vs space first space' others =>
    have written : g ++ (s ++ (g' ++ ',' :: t)) ++ ')' :: rest =
        g ++ (s ++ (g' ++ ',' :: (t ++ ')' :: rest))) := by simp
    rw [written]
    exact value space first space' (by decide) (by decide) _

/-- What stands between the parentheses of a record. -/
theorem body_record (each : ∀ s v, P s v → Valued wide item s v) {s : List Char}
    {f : List Char × Value} {fs : List (List Char × Value)}
    (h : Elements (Pair FieldName P) s (f :: fs)) (name : Option (List Char)) (rest : List Char) :
    Settles wide (.record name (f :: fs)) rest (body item name (s ++ ')' :: rest)) := by
  have fields : ∀ s f, Pair FieldName P s f → Element wide (field item) s f :=
    fun s f h => element_field (fun s v h => (each s v h).toElement) h
  rw [body, startsField_field each h, if_pos rfl]
  rcases elements_elements fields h (show ')' ∈ closers by decide) rest with all | ⟨refuses, none⟩
  · exact .of_eq (by rw [all]; rfl)
  · rw [none]
    exact .of_none refuses

/-- What stands between the parentheses of a tuple. -/
theorem body_tuple (each : ∀ s v, P s v → Valued wide item s v) {s : List Char}
    {vs : List Value} (h : Elements P s vs) (name : Option (List Char)) (rest : List Char) :
    Settles wide (.tuple name vs) rest (body item name (s ++ ')' :: rest)) := by
  rw [body, startsField_value each h, if_neg Bool.false_ne_true]
  rcases elements_elements (fun s v h => (each s v h).toElement) h (show ')' ∈ closers by decide)
    rest with all | ⟨refuses, none⟩
  · exact .of_eq (by rw [all]; rfl)
  · rw [none]
    exact .of_none refuses

/-- The content of an option is read if it is read itself and no other value follows it. -/
theorem option_inside {g s s' rest' : List Char} {v : Value} {more : Bool} (space : Spacing g)
    (other : Reader Value) (rest : List Char) (skipped : skip (s ++ ')' :: rest) = some s')
    (read : Settles wide v rest' (item s')) (behind : comma rest' = some (more, ')' :: rest)) :
    Settles wide (.something v) rest
      (option false other item (g ++ '(' :: (s ++ ')' :: rest))) := by
  have opened : skip (g ++ '(' :: (s ++ ')' :: rest)) = some ('(' :: (s ++ ')' :: rest)) := by
    rw [skip_spacing space, skip_token (by decide) (by decide)]
  unfold option
  rw [opened]
  simp only [skipped, Bool.false_eq_true, if_false]
  rcases read with ⟨left, read, same⟩ | ⟨refuses, stuck⟩
  · refine .of_eq ?_
    simp only [read, comma_skip same, behind]
  · rcases hs : item s' with _ | ⟨y, left⟩
    · exact .of_none refuses
    · have stuck := stuck y left hs
      have unclosed : ∀ t, left ≠ ')' :: t := by
        rintro t rfl
        exact absurd stuck.ne_mark (by decide)
      simp only [stuck.comma_eq]
      split
      · next r same =>
        split at same
        · next t closed => exact absurd (congrArg Prod.snd (Option.some.inj closed)) (unclosed t)
        · cases same
      · exact .of_none refuses

/-- What stands behind the name of an option. -/
theorem option_something (each : ∀ s v, P s v → Valued wide item s v) {g s : List Char}
    {v : Value} (space : Spacing g) (h : Elements P s [v]) (other : Reader Value)
    (rest : List Char) : Settles wide (.something v) rest
      (option false other item (g ++ '(' :: (s ++ ')' :: rest))) := by
  cases h with
  | @last g s g' _ before first behind =>
    have written : g ++ (s ++ g') ++ ')' :: rest = g ++ (s ++ (g' ++ ')' :: rest)) := by simp
    have value := each s v first
    have read := value.settles _ (follows_mark behind (show ')' ∈ marks by decide) rest)
    refine option_inside space other rest ?_ read (comma_close behind (by decide) rest)
    rw [written, skip_spacing before, value.opens.skip_append]
  | @cons g s g' t _ _ before first behind others =>
    obtain ⟨last⟩ := others
    have written : g ++ (s ++ (g' ++ ',' :: t)) ++ ')' :: rest =
        g ++ (s ++ (g' ++ ',' :: (t ++ ')' :: rest))) := by simp
    have value := each s v first
    have read := value.settles _ (follows_mark behind (show ',' ∈ marks by decide)
      (t ++ ')' :: rest))
    have closed : comma (g' ++ ',' :: (t ++ ')' :: rest)) = some (true, ')' :: rest) := by
      rw [comma_comma behind, skip_mark last (by decide)]
      rfl
    refine option_inside space other rest ?_ read closed
    rw [written, skip_spacing before, value.opens.skip_append]

end Bodies

end Outbox.Ron
