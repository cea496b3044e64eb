import Netboot.Address.V4

/-! Numbers and addresses as bytes: what is written in enough bytes reads back. -/

set_option autoImplicit false

namespace Netboot

namespace Bytes

@[simp] theorem length_ofNat (width n : Nat) : (ofNat width n).length = width := by
  induction width generalizing n with
  | zero => rfl
  | succ width ih => rw [ofNat, List.length_append, ih, List.length_singleton]

theorem toNat_snoc (bytes : Bytes) (b : UInt8) : toNat (bytes ++ [b]) = toNat bytes * 256 + b.toNat := by
  rw [toNat, List.foldl_append]
  rfl

theorem toNat_ofNat {width n : Nat} (small : n < 256 ^ width) : toNat (ofNat width n) = n := by
  induction width generalizing n with
  | zero =>
    rw [Nat.pow_zero, Nat.lt_one_iff] at small
    subst small
    rfl
  | succ width ih =>
    have high : n / 256 < 256 ^ width := by
      rw [Nat.pow_succ] at small
      exact Nat.div_lt_of_lt_mul (by omega)
    rw [ofNat, toNat_snoc, ih high, UInt8.toNat_ofNat']
    exact Nat.div_add_mod' n 256

@[simp] theorem length_fit (size : Nat) (bytes : Bytes) : (fit size bytes).length = size := by
  rw [fit, List.length_append, List.length_take, List.length_replicate]
  omega

theorem fit_of_length {bytes : Bytes} {size : Nat} (full : bytes.length = size) :
    fit size bytes = bytes := by
  rw [fit, ← full, List.take_length, Nat.sub_self, List.replicate_zero, List.append_nil]

theorem fit_of_length_le {bytes : Bytes} {size : Nat} (fits : bytes.length ≤ size) :
    fit size bytes = bytes ++ List.replicate (size - bytes.length) 0 := by
  rw [fit, List.take_of_length_le fits]

end Bytes

namespace V4

@[simp] theorem length_toBytes (a : V4) : a.toBytes.length = 4 := Bytes.length_ofNat 4 _

@[simp] theorem ofBytes_toBytes (a : V4) : ofBytes a.toBytes = a := by
  have small : a.toNat < 256 ^ 4 := a.bounded
  apply V4.ext
  rw [ofBytes, toBytes, Bytes.toNat_ofNat small]
  exact Nat.mod_eq_of_lt a.bounded

end V4

end Netboot
