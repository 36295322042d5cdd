/-! # White space

The characters with the Unicode property `White_Space`, and texts without them at both ends:

* `isBlank`: the property, by ranges of code points. `isBlank_iff`: which characters these are.
* `trim`: what is left of a text without its leading and trailing white space, which is what
  `Trims` says.
* `isBlankText`: nothing is left.
-/

set_option autoImplicit false

namespace Outbox.Text

/-- The Unicode property `White_Space`. -/
def isBlank (c : Char) : Bool :=
  let n := c.toNat
  (9 ≤ n && n ≤ 13) || n == 0x20 || n == 0x85 || n == 0xA0 || n == 0x1680 ||
    (0x2000 ≤ n && n ≤ 0x200A) || n == 0x2028 || n == 0x2029 || n == 0x202F || n == 0x205F ||
    n == 0x3000

/-- A character string without white space at its ends. -/
def trimChars (cs : List Char) : List Char :=
  (((cs.dropWhile isBlank).reverse).dropWhile isBlank).reverse

/-- A text without white space at its ends. -/
def trim (s : String) : String := String.ofList (trimChars s.toList)

/-- Whether a text is empty or holds white space only. -/
def isBlankText (s : String) : Bool := s.toList.all isBlank

/-! ## Which characters these are -/

/-- The white space there is. -/
def blanks : List Char :=
  ['\t', '\n', '\x0b', '\x0c', '\r', ' ', '\u0085', '\u00a0', '\u1680', '\u2000', '\u2001', '\u2002',
    '\u2003', '\u2004', '\u2005', '\u2006', '\u2007', '\u2008', '\u2009', '\u200a', '\u2028',
    '\u2029', '\u202f', '\u205f', '\u3000']

theorem isBlank_iff {c : Char} : isBlank c = true ↔ c ∈ blanks := by
  have named : c ∈ blanks ↔ c.toNat ∈ blanks.map Char.toNat := by
    rw [List.mem_map]
    exact ⟨fun h => ⟨c, h, rfl⟩, fun ⟨d, h, same⟩ => Char.toNat_inj.mp same ▸ h⟩
  have codes : blanks.map Char.toNat = [9, 10, 11, 12, 13, 0x20, 0x85, 0xA0, 0x1680, 0x2000, 0x2001,
      0x2002, 0x2003, 0x2004, 0x2005, 0x2006, 0x2007, 0x2008, 0x2009, 0x200A, 0x2028, 0x2029, 0x202F,
      0x205F, 0x3000] := by decide
  rw [named, codes]
  simp only [isBlank, Bool.or_eq_true, Bool.and_eq_true, decide_eq_true_eq, beq_iff_eq,
    List.mem_cons, List.not_mem_nil, or_false]
  omega

/-- A text and what is left of it without the white space around. -/
structure Trims (s t : String) : Prop where
  around : ∃ before after : List Char, s.toList = before ++ t.toList ++ after ∧
    (∀ c ∈ before, c ∈ blanks) ∧ ∀ c ∈ after, c ∈ blanks
  first : ∀ c ∈ t.toList.head?, c ∉ blanks
  last : ∀ c ∈ t.toList.getLast?, c ∉ blanks

theorem blanks_of_takeWhile (cs : List Char) : ∀ c ∈ cs.takeWhile isBlank, c ∈ blanks :=
  fun _ h => isBlank_iff.mp (List.all_eq_true.mp List.all_takeWhile _ h)

theorem head_dropWhile (cs : List Char) : ∀ c ∈ (cs.dropWhile isBlank).head?, c ∉ blanks := by
  intro c hc
  have := List.head?_dropWhile_not isBlank cs
  rw [Option.mem_def.mp hc] at this
  rw [← isBlank_iff]
  simpa using this

/-- **Trimming** takes white space away from both ends, all of it and nothing else. -/
theorem trims_trim (s : String) : Trims s (trim s) := by
  let back := (s.toList.dropWhile isBlank).reverse.takeWhile isBlank
  have trimmed : s.toList.dropWhile isBlank = (trim s).toList ++ back.reverse := by
    rw [trim, String.toList_ofList, trimChars, ← List.reverse_append,
      List.takeWhile_append_dropWhile, List.reverse_reverse]
  refine ⟨⟨s.toList.takeWhile isBlank, back.reverse, ?_, blanks_of_takeWhile _, ?_⟩, ?_, ?_⟩
  · rw [List.append_assoc, ← trimmed, List.takeWhile_append_dropWhile]
  · intro c hc
    exact blanks_of_takeWhile _ c (List.mem_reverse.mp hc)
  · -- what is in front of the trimmed text was in front before the back went
    intro c hc
    refine head_dropWhile s.toList c ?_
    rw [trimmed, List.head?_append, Option.mem_def.mp hc]
    rfl
  · intro c hc
    rw [trim, String.toList_ofList, trimChars, List.getLast?_reverse] at hc
    exact head_dropWhile _ c hc

theorem dropWhile_blanks {front rest : List Char} (blank : ∀ c ∈ front, c ∈ blanks)
    (first : ∀ c ∈ rest.head?, c ∉ blanks) : (front ++ rest).dropWhile isBlank = rest := by
  rw [List.dropWhile_append_of_pos fun c hc => isBlank_iff.mpr (blank c hc)]
  cases rest with
  | nil => rfl
  | cons c rest =>
    rw [List.dropWhile_cons_of_neg fun h => first c rfl (isBlank_iff.mp h)]

/-- What is left is determined by the text. -/
theorem Trims.eq_trim {s t : String} (h : Trims s t) : t = trim s := by
  obtain ⟨front, back, whole, blank, blank'⟩ := h.around
  rw [← String.toList_inj, trim, String.toList_ofList, trimChars, whole, List.append_assoc]
  have last : ∀ c ∈ t.toList.reverse.head?, c ∉ blanks := by
    rw [List.head?_reverse]
    exact h.last
  by_cases empty : t.toList = []
  · -- nothing is left, so the back goes with the front
    rw [empty, List.nil_append, ← List.append_nil (front ++ back),
      dropWhile_blanks (fun c hc => (List.mem_append.mp hc).elim (blank c) (blank' c))
        (fun c hc => absurd hc (by simp))]
    rfl
  · have first : ∀ c ∈ (t.toList ++ back).head?, c ∉ blanks := by
      intro c hc
      refine h.first c ?_
      rwa [List.head?_append, Option.or_of_isSome (List.isSome_head?.mpr empty)] at hc
    rw [dropWhile_blanks blank first, List.reverse_append,
      dropWhile_blanks (fun c hc => blank' c (List.mem_reverse.mp hc)) last, List.reverse_reverse]

end Outbox.Text
