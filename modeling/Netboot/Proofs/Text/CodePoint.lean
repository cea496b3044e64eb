import Netboot.Proofs.Text.Utf8
import Netboot.Text.CodePoint

/-! Text of code points: its order, and the file names that it stands for. -/

set_option autoImplicit false

namespace Netboot

namespace CodePoint

variable {a b c : CodePoint}

/-- No character has the number of a surrogate. -/
theorem toNat_inj : a.toNat = b.toNat ↔ a = b := by
  refine ⟨fun same => ?_, congrArg toNat⟩
  cases a with
  | char c =>
    have valid := Text.valid_toNat c
    cases b with
    | char d => exact congrArg char (Char.toNat_inj.mp same)
    | surrogate offset =>
      have small := offset.isLt
      simp only [toNat] at same
      omega
  | surrogate offset =>
    have small := offset.isLt
    cases b with
    | char d =>
      have valid := Text.valid_toNat d
      simp only [toNat] at same
      omega
    | surrogate other =>
      simp only [toNat] at same
      exact congrArg surrogate (Fin.ext (by omega))

instance : Std.IsLinearOrder CodePoint where
  le_refl a := Nat.le_refl a.toNat
  le_trans _ _ _ := Nat.le_trans
  le_antisymm _ _ ab ba := toNat_inj.mp (Nat.le_antisymm ab ba)
  le_total a b := Nat.le_total a.toNat b.toNat

instance : Std.LawfulOrderLT CodePoint := ⟨fun _ _ => Nat.lt_iff_le_and_not_ge⟩

theorem fileBytes_ofByte (byte : UInt8) : (ofByte byte).fileBytes = [byte] := by
  simp [fileBytes, ofByte]

end CodePoint

namespace CodePoints

theorem toString?_eq_none_iff {text : CodePoints} :
    text.toString? = none ↔ ∃ offset, .surrogate offset ∈ text := by
  rw [toString?, Option.map_eq_none_iff]
  induction text with
  | nil => simp [toChars?]
  | cons point rest ih =>
    cases point with
    | char c =>
      have same : toChars? (.char c :: rest) = (toChars? rest).map (c :: ·) := by
        rw [toChars?, List.mapM_cons, ← toChars?, Option.map_eq_bind]
        rfl
      rw [same, Option.map_eq_none_iff, ih]
      simp
    | surrogate offset => simp [toChars?, List.mapM_cons, CodePoint.char?]

theorem flatMap_fileBytes (name : Bytes) : (ofFileName name).flatMap CodePoint.fileBytes = name := by
  fun_induction ofFileName name with
  | case1 => rfl
  | case2 a rest c n found ih =>
    obtain ⟨tail, bytes, front, rfl⟩ := Text.encodeChar_of_charAt found
    rw [List.flatMap_cons, ih, CodePoint.fileBytes, bytes, List.cons_append,
      List.prefix_iff_eq_append.mp front]
  | case3 a rest _ ih => rw [List.flatMap_cons, ih, CodePoint.fileBytes_ofByte, List.singleton_append]

theorem ofFileName_inj {name other : Bytes} : ofFileName name = ofFileName other ↔ name = other := by
  refine ⟨fun same => ?_, congrArg ofFileName⟩
  rw [← flatMap_fileBytes name, same, flatMap_fileBytes]

theorem ofFileName_encode (text : List Char) : ofFileName (Text.encode text) = ofChars text := by
  induction text with
  | nil => rw [Text.encode, List.flatMap_nil, ofFileName, ofChars, List.map_nil]
  | cons c text ih =>
    obtain ⟨a, tail, bytes, read⟩ := Text.charAt_encodeChar c (Text.encode text)
    rw [Text.encode_cons, bytes, List.cons_append, ofFileName, read]
    dsimp only
    rw [List.drop_left, ih]
    rfl

theorem ofFileName_ofString (text : String) : ofFileName (Bytes.ofString text) = ofString text :=
  ofFileName_encode text.toList

end CodePoints

end Netboot
