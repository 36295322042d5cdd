import Outbox.Transparency

/-!
# UTF-8 both ways

The decoder reads a lead octet and then as many octets as that asks for, each within its range. The
ranges leave exactly the octets that encoding writes:

* `Utf8.head_encodeChar`: an encoded character is read back, whatever follows it.
* `Utf8.head_eq_char`: octets that are read as a character are its encoded form.
* `Utf8.decodeChars_eq_ok_iff`: **octets are decoded to a text exactly if they are its encoded
  form**.
* `Utf8.lf_not_mem_encodeChars`: no octet of a longer character looks like a line end.
-/

set_option autoImplicit false

namespace Outbox.Utf8

@[simp] theorem encodeChars_nil : encodeChars [] = [] := rfl

theorem encodeChars_cons (c : Char) (cs : List Char) :
    encodeChars (c :: cs) = encodeChar c ++ encodeChars cs := List.flatMap_cons

theorem encodeChars_append (cs ds : List Char) :
    encodeChars (cs ++ ds) = encodeChars cs ++ encodeChars ds := List.flatMap_append

/-! ## Octets of characters -/

theorem toNat_ofNat {n : Nat} (h : n < 0x100) : (UInt8.ofNat n).toNat = n := by
  rw [UInt8.toNat_ofNat', Nat.mod_eq_of_lt h]

theorem toNat_tail (n : Nat) : (tail n).toNat = 0x80 + n % 64 := toNat_ofNat (by omega)

theorem toNat_lt (c : Char) : c.toNat < 0x110000 := by
  rcases c.valid with h | ⟨-, h⟩
  · exact Nat.lt_trans h (by decide)
  · exact h

theorem le_tail (n : Nat) : 0x80 ≤ (tail n).toNat := by
  rw [toNat_tail]
  omega

theorem le_lead {a n : Nat} (ha : 0x80 ≤ a) (h : a + n < 0x100) :
    0x80 ≤ (UInt8.ofNat (a + n)).toNat := by
  rw [toNat_ofNat h]
  omega

/-- No character is a surrogate. -/
theorem not_surrogate (c : Char) : c.toNat < 0xD800 ∨ 0xDFFF < c.toNat := by
  rcases c.valid with h | ⟨h, -⟩
  · exact .inl h
  · exact .inr h

/-- A character above U+007F has no octet below 0x80. -/
theorem le_of_mem_encodeChar {b : UInt8} {c : Char} (hc : 0x80 ≤ c.toNat)
    (hb : b ∈ encodeChar c) : 0x80 ≤ b.toNat := by
  have hlt := toNat_lt c
  rw [encodeChar, if_neg (Nat.not_lt.mpr hc)] at hb
  split at hb
  · simp only [List.mem_cons, List.not_mem_nil, or_false] at hb
    rcases hb with rfl | rfl
    · exact le_lead (by decide) (by omega)
    · exact le_tail _
  · split at hb
    · simp only [List.mem_cons, List.not_mem_nil, or_false] at hb
      rcases hb with rfl | rfl | rfl
      · exact le_lead (by decide) (by omega)
      · exact le_tail _
      · exact le_tail _
    · simp only [List.mem_cons, List.not_mem_nil, or_false] at hb
      rcases hb with rfl | rfl | rfl | rfl
      · exact le_lead (by decide) (by omega)
      · exact le_tail _
      · exact le_tail _
      · exact le_tail _

/-- A text without line feed has no LF in its encoded form. -/
theorem lf_not_mem_encodeChars {cs : List Char} (h : '\n' ∉ cs) : lf ∉ encodeChars cs := by
  intro hm
  obtain ⟨c, hc, hb⟩ := List.mem_flatMap.mp hm
  have hascii : c.toNat < 0x80 := by
    refine Nat.lt_of_not_le fun hn => ?_
    exact absurd (le_of_mem_encodeChar hn hb) (by decide)
  rw [encodeChar, if_pos hascii, List.mem_singleton] at hb
  have hten : c.toNat = 10 := by
    have := congrArg UInt8.toNat hb
    rw [toNat_ofNat (by omega)] at this
    exact this.symm
  rw [Char.ext (UInt32.toNat_inj.mp hten : c.val = '\n'.val)] at hc
  exact h hc

/-! ## Single characters -/

theorem follow_cons {n low high size bits : Nat} {b : UInt8} {rest : Bytes}
    (h : low ≤ b.toNat ∧ b.toNat ≤ high) :
    follow (n + 1) low high size bits (b :: rest) =
      follow n 0x80 0xBF (size + 1) (bits * 64 + b.toNat % 64) rest := by
  rw [follow, if_pos h]

theorem follow_tail {n k low high size bits : Nat} {rest : Bytes}
    (h : low ≤ 0x80 + k % 64 ∧ 0x80 + k % 64 ≤ high) :
    follow (n + 1) low high size bits (tail k :: rest) =
      follow n 0x80 0xBF (size + 1) (bits * 64 + k % 64) rest := by
  rw [follow_cons (by rwa [toNat_tail]), toNat_tail]
  congr 2
  omega

/-- An encoded character is read back. -/
theorem head_encodeChar (c : Char) (rest : Bytes) :
    ∃ a tl, encodeChar c = a :: tl ∧ head a (tl ++ rest) = .char c (tl.length + 1) := by
  have bound := toNat_lt c
  have valid := not_surrogate c
  have back {n : Nat} (h : n = c.toNat) : Char.ofNat n = c := h ▸ Char.ofNat_toNat c
  have tail_le (k : Nat) : 0x80 ≤ 0x80 + k % 64 ∧ 0x80 + k % 64 ≤ 0xBF := by omega
  unfold encodeChar
  dsimp only
  split
  · next one =>
    refine ⟨_, _, rfl, ?_⟩
    rw [head, toNat_ofNat (by omega), lead, if_pos one]
    simp [follow]
  · split
    · next one two =>
      refine ⟨_, _, rfl, ?_⟩
      rw [head, toNat_ofNat (by omega), lead, if_neg (by omega), if_neg (by omega),
        if_pos (by omega)]
      dsimp only [List.cons_append, List.nil_append]
      rw [follow_tail (tail_le _), follow, back (by omega)]
      rfl
    · split
      · next one two three =>
        refine ⟨_, _, rfl, ?_⟩
        rw [head, toNat_ofNat (by omega), lead, if_neg (by omega), if_neg (by omega),
          if_neg (by omega), if_pos (by omega)]
        dsimp only [List.cons_append, List.nil_append]
        rw [follow_tail (by split <;> split <;> omega), follow_tail (tail_le _), follow,
          back (by omega)]
        rfl
      · next one two three =>
        refine ⟨_, _, rfl, ?_⟩
        rw [head, toNat_ofNat (by omega), lead, if_neg (by omega), if_neg (by omega),
          if_neg (by omega), if_neg (by omega), if_pos (by omega)]
        dsimp only [List.cons_append, List.nil_append]
        rw [follow_tail (by split <;> split <;> omega), follow_tail (tail_le _),
          follow_tail (tail_le _), follow, back (by omega)]
        rfl

theorem follow_zero {low high size bits k : Nat} {c : Char} {rest : Bytes}
    (h : follow 0 low high size bits rest = .char c k) : c = Char.ofNat bits ∧ k = size := by
  rw [follow] at h
  cases h
  exact ⟨rfl, rfl⟩

theorem follow_succ {n low high size bits k : Nat} {c : Char} {rest : Bytes}
    (h : follow (n + 1) low high size bits rest = .char c k) :
    ∃ b more, rest = b :: more ∧ low ≤ b.toNat ∧ b.toNat ≤ high ∧
      follow n 0x80 0xBF (size + 1) (bits * 64 + b.toNat % 64) more = .char c k := by
  cases rest with
  | nil => cases h
  | cons b more =>
    rw [follow] at h
    split at h
    · next within => exact ⟨b, more, rfl, within.1, within.2, h⟩
    · cases h

theorem ofNat_eq {n : Nat} {b : UInt8} (h : n = b.toNat) : UInt8.ofNat n = b := by
  rw [h, UInt8.ofNat_toNat]

/-- The octets that may start a character, by how many follow. -/
theorem lead_eq_some {a : Nat} {l : Lead} (h : lead a = some l) :
    (a < 0x80 ∧ l = ⟨a, 0, 0, 0⟩) ∨
    (0xC2 ≤ a ∧ a < 0xE0 ∧ l = ⟨a - 0xC0, 1, 0x80, 0xBF⟩) ∨
    (0xE0 ≤ a ∧ a < 0xF0 ∧ ∃ low high, l = ⟨a - 0xE0, 2, low, high⟩ ∧
      0x80 ≤ low ∧ (a = 0xE0 → low = 0xA0) ∧ high ≤ 0xBF ∧ (a = 0xED → high = 0x9F)) ∨
    (0xF0 ≤ a ∧ a < 0xF5 ∧ ∃ low high, l = ⟨a - 0xF0, 3, low, high⟩ ∧
      0x80 ≤ low ∧ (a = 0xF0 → low = 0x90) ∧ high ≤ 0xBF ∧ (a = 0xF4 → high = 0x8F)) := by
  unfold lead at h
  split at h
  · next one => exact .inl ⟨one, (Option.some.inj h).symm⟩
  · split at h
    · cases h
    · next low =>
      split at h
      · next two => exact .inr (.inl ⟨by omega, two, (Option.some.inj h).symm⟩)
      · next two =>
        split at h
        · next three =>
          refine .inr (.inr (.inl ⟨by omega, three, _, _, (Option.some.inj h).symm, ?_⟩))
          split <;> split <;> omega
        · next three =>
          split at h
          · next four =>
            refine .inr (.inr (.inr ⟨by omega, four, _, _, (Option.some.inj h).symm, ?_⟩))
            split <;> split <;> omega
          · cases h

/-- What is read as a character is the encoded form of it. -/
theorem head_eq_char {a : UInt8} {rest : Bytes} {c : Char} {size : Nat}
    (h : head a rest = .char c size) :
    ∃ tl more, rest = tl ++ more ∧ encodeChar c = a :: tl ∧ size = tl.length + 1 := by
  have point {n : Nat} (valid : n < 0xD800 ∨ 0xDFFF < n ∧ n < 0x110000) :
      (Char.ofNat n).toNat = n := by
    rw [Char.ofNat, dif_pos valid]
    rfl
  unfold head at h
  split at h
  · cases h
  · next l leads =>
    rcases lead_eq_some leads with ⟨one, rfl⟩ | ⟨low, high, rfl⟩ |
      ⟨low, high, least, most, rfl, hl, hl', hm, hm'⟩ |
      ⟨low, high, least, most, rfl, hl, hl', hm, hm'⟩
    all_goals dsimp only at h
    · obtain ⟨rfl, rfl⟩ := follow_zero h
      refine ⟨[], rest, rfl, ?_, rfl⟩
      rw [encodeChar, point (by omega), if_pos one, ofNat_eq rfl]
    · obtain ⟨b, more, rfl, hb, hb', h⟩ := follow_succ h
      obtain ⟨rfl, rfl⟩ := follow_zero h
      refine ⟨[b], more, rfl, ?_, rfl⟩
      rw [encodeChar, point (by omega), if_neg (by omega), if_pos (by omega), tail,
        ofNat_eq (b := a) (by omega), ofNat_eq (b := b) (by omega)]
    · obtain ⟨b, _, rfl, hb, hb', h⟩ := follow_succ h
      obtain ⟨b', more, rfl, hc, hc', h⟩ := follow_succ h
      obtain ⟨rfl, rfl⟩ := follow_zero h
      refine ⟨[b, b'], more, rfl, ?_, rfl⟩
      rw [encodeChar, point (by omega), if_neg (by omega), if_neg (by omega), if_pos (by omega),
        tail, tail, ofNat_eq (b := a) (by omega), ofNat_eq (b := b) (by omega),
        ofNat_eq (b := b') (by omega)]
    · obtain ⟨b, _, rfl, hb, hb', h⟩ := follow_succ h
      obtain ⟨b', _, rfl, hc, hc', h⟩ := follow_succ h
      obtain ⟨b'', more, rfl, hd, hd', h⟩ := follow_succ h
      obtain ⟨rfl, rfl⟩ := follow_zero h
      refine ⟨[b, b', b''], more, rfl, ?_, rfl⟩
      rw [encodeChar, point (by omega), if_neg (by omega), if_neg (by omega), if_neg (by omega),
        tail, tail, tail, ofNat_eq (b := a) (by omega), ofNat_eq (b := b) (by omega),
        ofNat_eq (b := b') (by omega), ofNat_eq (b := b'') (by omega)]

/-! ## Texts -/

/-- The octets of a character that is read already are passed over. -/
theorem decodeFrom_skip (offset : Nat) (seen : List Char) (passed rest : Bytes) :
    decodeFrom offset passed.length seen (passed ++ rest) =
      decodeFrom (offset + passed.length) 0 seen rest := by
  induction passed generalizing offset with
  | nil => rfl
  | cons b passed ih =>
    rw [List.cons_append, List.length_cons, decodeFrom, ih, Nat.add_assoc, Nat.add_comm 1]

theorem decodeFrom_char {a : UInt8} {tl : Bytes} {c : Char} {rest : Bytes}
    (h : head a (tl ++ rest) = .char c (tl.length + 1)) (offset : Nat) (seen : List Char) :
    decodeFrom offset 0 seen (a :: (tl ++ rest)) =
      decodeFrom (offset + 1 + tl.length) 0 (c :: seen) rest := by
  rw [decodeFrom, h]
  exact decodeFrom_skip (offset + 1) (c :: seen) tl rest

theorem decodeFrom_encodeChars (cs : List Char) (offset : Nat) (seen : List Char) :
    decodeFrom offset 0 seen (encodeChars cs) = .ok (seen.reverse ++ cs) := by
  induction cs generalizing offset seen with
  | nil => rw [List.append_nil]; rfl
  | cons c cs ih =>
    obtain ⟨a, tl, hc, read⟩ := head_encodeChar c (encodeChars cs)
    rw [encodeChars_cons, hc, List.cons_append, decodeFrom_char read, ih, List.reverse_cons,
      List.append_assoc, List.singleton_append]

theorem encodeChars_of_decodeFrom {offset : Nat} {seen cs : List Char} {bytes : Bytes}
    (h : decodeFrom offset 0 seen bytes = .ok cs) :
    ∃ more, cs = seen.reverse ++ more ∧ bytes = encodeChars more := by
  induction hn : bytes.length using Nat.strongRecOn generalizing offset seen bytes with
  | _ n ih =>
    cases bytes with
    | nil => exact ⟨[], by rw [List.append_nil]; exact (Except.ok.inj h).symm, rfl⟩
    | cons a rest =>
      cases read : head a rest with
      | bad size => rw [decodeFrom, read] at h; cases h
      | cut => rw [decodeFrom, read] at h; cases h
      | char c size =>
        obtain ⟨tl, left, rfl, hc, rfl⟩ := head_eq_char read
        rw [decodeFrom_char read] at h
        have less : left.length < n := by
          rw [← hn, List.length_cons, List.length_append]
          omega
        obtain ⟨more, rfl, rfl⟩ := ih _ less h rfl
        refine ⟨c :: more, by rw [List.reverse_cons, List.append_assoc]; rfl, ?_⟩
        rw [encodeChars_cons, hc, List.cons_append]

/-- **Octets are decoded to a text exactly if they are its encoded form.** -/
theorem decodeChars_eq_ok_iff {bytes : Bytes} {cs : List Char} :
    decodeChars bytes = .ok cs ↔ bytes = encodeChars cs := by
  constructor
  · intro h
    obtain ⟨more, rfl, rfl⟩ := encodeChars_of_decodeFrom h
    rfl
  · rintro rfl
    exact decodeFrom_encodeChars cs 0 []

end Outbox.Utf8
