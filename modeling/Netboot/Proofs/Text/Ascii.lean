import Netboot.Address.V4

/-! Texts of seven-bit characters: numbers and addresses among them. -/

set_option autoImplicit false

namespace Netboot.Text

def IsAscii (text : String) : Prop := text.toList.all (·.toNat < 0x80) = true

instance (text : String) : Decidable (IsAscii text) := inferInstanceAs (Decidable (_ = true))

theorem isAscii_iff {text : String} : IsAscii text ↔ ∀ c ∈ text.toList, c.toNat < 0x80 := by
  simp only [IsAscii, List.all_eq_true, decide_eq_true_eq]

theorem IsAscii.length_bytes {text : String} (ascii : IsAscii text) :
    (Bytes.ofString text).length = text.toList.length := by
  rw [isAscii_iff] at ascii
  rw [Bytes.ofString, encode, List.length_flatMap]
  generalize text.toList = chars at ascii
  induction chars with
  | nil => rfl
  | cons c rest ih =>
    have small : c.toNat < 0x80 := ascii c List.mem_cons_self
    have narrow : c.val ≤ 127 := Nat.le_of_lt_succ small
    have single : (encodeChar c).length = 1 :=
      (String.length_utf8EncodeChar c).trans (Char.utf8Size_eq_one_iff.mpr narrow)
    rw [List.map_cons, List.sum_cons, ih fun d member => ascii d (.tail _ member), single,
      List.length_cons, Nat.add_comm]

theorem isAscii_append {first second : String} (left : IsAscii first) (right : IsAscii second) :
    IsAscii (first ++ second) := by
  rw [isAscii_iff] at left right ⊢
  intro c member
  rw [String.toList_append, List.mem_append] at member
  exact member.elim (left c) (right c)

theorem isAscii_natRepr (n : Nat) : IsAscii n.repr := by
  rw [isAscii_iff]
  intro c member
  rw [Nat.toList_repr] at member
  have digit := Nat.isDigit_of_mem_toDigits (by decide) (by decide) member
  simp only [Char.isDigit, Bool.and_eq_true, decide_eq_true_eq] at digit
  have below : c.toNat ≤ 57 := digit.2
  omega

theorem isAscii_intRepr (n : Int) : IsAscii n.repr := by
  cases n with
  | ofNat n => exact isAscii_natRepr n
  | negSucc n => exact isAscii_append (by decide) (isAscii_natRepr _)

theorem isAscii_intercalate {mark : String} {parts : List String} (between : IsAscii mark)
    (all : ∀ part ∈ parts, IsAscii part) : IsAscii (mark.intercalate parts) := by
  induction parts with
  | nil =>
    rw [String.intercalate_nil]
    decide
  | cons first rest ih =>
    have front := all first List.mem_cons_self
    by_cases last : rest = []
    · rwa [last, String.intercalate_singleton]
    · rw [String.intercalate_cons_of_ne_nil last]
      have back := ih fun part member => all part (.tail _ member)
      exact isAscii_append (isAscii_append front between) back

theorem isAscii_v4 (a : V4) : IsAscii a.text := by
  refine isAscii_intercalate (by decide) fun part member => ?_
  obtain ⟨octet, -, rfl⟩ := List.mem_map.mp member
  exact isAscii_natRepr octet

end Netboot.Text
