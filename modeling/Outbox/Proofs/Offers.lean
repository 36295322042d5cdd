import Mathlib.Data.List.Forall2
import Outbox.Delivery

/-!
# Mechanisms on offer

What a reply to EHLO has to say for a mechanism to be on offer, word by word, and that this is what
is looked for.

* `Reply.AnyCase`: a word that is a keyword up to the case of its letters.
* `Reply.Offers`: the words that offer a mechanism. `Reply.offersAuth_iff` is the agreement.
* `Delivery.offersCredentials_eq_false`: the same for the check in front of AUTH.
-/

set_option autoImplicit false

namespace Outbox

namespace Reply

/-- A word is a keyword in capitals, any of its letters being small instead. -/
def AnyCase (word : List Char) (keyword : String) : Prop :=
  List.Forall₂ (fun c k => c = k ∨ c = k.toLower) word keyword.toList

/-- Some line behind the first has AUTH as its first word and the mechanism as a later one, words
being separated by a space or an equals sign. -/
def Offers (r : Reply) (mechanism : String) : Prop :=
  ∃ line ∈ r.lines.drop 1, ∃ keyword words,
    line.toList.splitOnP (fun c => c == ' ' || c == '=') = keyword :: words ∧
      AnyCase keyword "AUTH" ∧ ∃ w ∈ words, AnyCase w mechanism

theorem split_eq_splitOnP (isSeparator : Char → Bool) (cs : List Char) :
    split isSeparator cs = cs.splitOnP isSeparator := by
  induction cs with
  | nil => exact List.splitOnP_nil.symm
  | cons c cs ih =>
    rw [split, List.splitOnP_cons_eq_if_modifyHead, ih]
    split
    · rfl
    · cases words : cs.splitOnP isSeparator with
      | nil => exact absurd words (List.splitOnP_ne_nil isSeparator cs)
      | cons w ws => rfl

theorem isUpper_iff {c : Char} : c.isUpper = true ↔ 65 ≤ c.toNat ∧ c.toNat ≤ 90 :=
  decide_eq_true_iff.trans (and_congr UInt32.le_iff_toNat_le UInt32.le_iff_toNat_le)

theorem toNat_toLower {c : Char} (capital : c.isUpper = true) :
    c.toLower.toNat = c.toNat + 32 := by
  have shifted : c.toLower.val = c.val + 32 :=
    congrArg Char.val (dif_pos (of_decide_eq_true capital))
  have bound := (isUpper_iff.mp capital).2
  rw [← Char.toNat_val, shifted, UInt32.toNat_add, Char.toNat_val]
  exact Nat.mod_eq_of_lt (by simp; omega)

theorem toLower_of_not_isUpper {c : Char} (h : ¬c.isUpper = true) : c.toLower = c :=
  dif_neg fun range => h (decide_eq_true range)

/-- Equal to a capital up to case: the capital itself, or its small form. -/
theorem toLower_eq_iff {c k : Char} (capital : k.isUpper = true) :
    c.toLower = k.toLower ↔ c = k ∨ c = k.toLower := by
  by_cases h : c.isUpper = true
  · have small : c ≠ k.toLower := by
      rintro rfl
      have high := (isUpper_iff.mp h).2
      have low := (isUpper_iff.mp capital).1
      rw [toNat_toLower capital] at high
      omega
    rw [or_iff_left small]
    refine ⟨fun same => ?_, congrArg Char.toLower⟩
    have shifted := congrArg Char.toNat same
    rw [toNat_toLower h, toNat_toLower capital] at shifted
    exact Char.toNat_inj.mp (Nat.add_right_cancel shifted)
  · have other : c ≠ k := fun same => h (same ▸ capital)
    rw [toLower_of_not_isUpper h, or_iff_right other]

theorem sameWord_iff {word : List Char} {keyword : String}
    (capitals : keyword.toList.all Char.isUpper = true) :
    sameWord word keyword.toList = true ↔ AnyCase word keyword := by
  rw [sameWord, beq_iff_eq, AnyCase]
  rw [List.all_eq_true] at capitals
  generalize keyword.toList = ks at capitals
  induction word generalizing ks with
  | nil => cases ks <;> simp
  | cons c word ih =>
    cases ks with
    | nil => simp
    | cons k ks =>
      rw [List.map_cons, List.map_cons, List.cons.injEq, List.forall₂_cons,
        toLower_eq_iff (capitals k List.mem_cons_self),
        ih ks fun k hk => capitals k (List.mem_cons_of_mem _ hk)]

/-- **What is looked for** in a reply to EHLO. -/
theorem offersAuth_iff {r : Reply} {mechanism : String}
    (capitals : mechanism.toList.all Char.isUpper = true) :
    r.offersAuth mechanism = true ↔ r.Offers mechanism := by
  have auth : "AUTH".toList.all Char.isUpper = true := by decide
  rw [offersAuth, List.any_eq_true, Offers, capabilities]
  refine exists_congr fun line => and_congr_right fun _ => ?_
  rw [lineOffersAuth, capabilityWords, split_eq_splitOnP]
  cases line.toList.splitOnP fun c => c == ' ' || c == '=' with
  | nil => simp
  | cons keyword words =>
    have named : (words.any fun w => sameWord w mechanism.toList) = true ↔
        ∃ w ∈ words, AnyCase w mechanism := by
      simp only [List.any_eq_true, sameWord_iff capitals]
    dsimp only
    rw [Bool.and_eq_true, sameWord_iff auth, named]
    constructor
    · rintro ⟨first, later⟩
      exact ⟨keyword, words, rfl, first, later⟩
    · rintro ⟨_, _, same, first, later⟩
      obtain ⟨rfl, rfl⟩ := List.cons.inj same
      exact ⟨first, later⟩

theorem offersAuth_plain {r : Reply} : r.offersAuth "PLAIN" = true ↔ r.Offers "PLAIN" :=
  offersAuth_iff (by decide)

theorem offersAuth_login {r : Reply} : r.offersAuth "LOGIN" = true ↔ r.Offers "LOGIN" :=
  offersAuth_iff (by decide)

instance (r : Reply) : Decidable (r.Offers "PLAIN") := decidable_of_iff _ offersAuth_plain

instance (r : Reply) : Decidable (r.Offers "LOGIN") := decidable_of_iff _ offersAuth_login

end Reply

theorem Delivery.offersCredentials_eq_false {reply : Reply} :
    offersCredentials reply = false ↔ ¬reply.Offers "PLAIN" ∧ ¬reply.Offers "LOGIN" := by
  rw [offersCredentials, Bool.or_eq_false_iff, ← Bool.not_eq_true, ← Bool.not_eq_true,
    Reply.offersAuth_plain, Reply.offersAuth_login]

end Outbox
