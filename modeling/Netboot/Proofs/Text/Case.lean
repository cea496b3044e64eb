import Netboot.Text.Blank
import Netboot.Text.Case

/-! Lower case and blank ends of texts in which nothing special happens to either. -/

set_option autoImplicit false

namespace Netboot.Text

theorem lowerFrom_ascii {before text : List Char} (ascii : ∀ c ∈ text, c.toNat < 0x80) :
    lowerFrom before text = text.map lowerAscii := by
  induction text generalizing before with
  | nil => rfl
  | cons c rest ih =>
    have small := ascii c List.mem_cons_self
    have sigma : c ≠ 'Σ' := by
      rintro rfl
      exact absurd small (by decide)
    rw [lowerFrom, if_neg sigma, lowerChar, if_pos small, ih fun d member => ascii d (.tail _ member)]
    rfl

theorem lower_ascii {text : List Char} (ascii : ∀ c ∈ text, c.toNat < 0x80) :
    lower text = text.map lowerAscii :=
  lowerFrom_ascii ascii

theorem dropWhile_isBlank {text : List Char} (solid : ∀ c ∈ text, isBlank c = false) :
    text.dropWhile isBlank = text := by
  cases text with
  | nil => rfl
  | cons c rest => rw [List.dropWhile_cons, solid c List.mem_cons_self, if_neg Bool.false_ne_true]

theorem strip_solid {text : List Char} (solid : ∀ c ∈ text, isBlank c = false) :
    strip text = text := by
  have backwards : ∀ c ∈ text.reverse, isBlank c = false := fun c member =>
    solid c (List.mem_reverse.mp member)
  rw [strip, dropEndWhile, dropWhile_isBlank solid, dropWhile_isBlank backwards, List.reverse_reverse]

end Netboot.Text
