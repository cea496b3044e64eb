import Netboot.Text.Digit

/-! Numbers in hexadecimal. -/

set_option autoImplicit false

namespace Netboot.Text

theorem hexValue?_digitChar : ∀ n : Fin 16, hexValue? (Nat.digitChar n) = some n := by
  decide

theorem toDigits_split {n : Nat} (large : ¬ n < 16) :
    Nat.toDigits 16 n = Nat.toDigits 16 (n / 16) ++ [Nat.digitChar (n % 16)] :=
  Nat.toDigits_of_base_le (by decide) (Nat.le_of_not_lt large)

theorem value_toDigits (n : Nat) :
    (Nat.toDigits 16 n).foldlM (fun n c => (hexValue? c).map (n * 16 + ·)) 0 = some n := by
  induction n using Nat.strongRecOn with
  | _ n ih =>
    by_cases small : n < 16
    · rw [Nat.toDigits_of_lt_base small]
      simp [hexValue?_digitChar ⟨n, small⟩]
    · have last := hexValue?_digitChar ⟨n % 16, Nat.mod_lt _ (by decide)⟩
      rw [toDigits_split small, List.foldlM_append, ih (n / 16) (by omega)]
      simp [last, Nat.div_add_mod']

theorem value_hex (width n : Nat) :
    (hex width n).foldlM (fun n c => (hexValue? c).map (n * 16 + ·)) 0 = some n := by
  have zeros (count : Nat) :
      (List.replicate count '0').foldlM (fun n c => (hexValue? c).map (n * 16 + ·)) 0 = some 0 := by
    have zero : hexValue? '0' = some 0 := by decide
    induction count with
    | zero => rfl
    | succ count ih => simpa [List.replicate_succ, zero] using ih
  rw [hex, List.foldlM_append, zeros]
  exact value_toDigits n

theorem length_hex {width n : Nat} (some_width : 0 < width) (small : n < 16 ^ width) :
    (hex width n).length = width := by
  have short := (Nat.length_toDigits_le_iff (by decide) some_width).mpr small
  simp only [hex, List.length_append, List.length_replicate]
  omega

end Netboot.Text
