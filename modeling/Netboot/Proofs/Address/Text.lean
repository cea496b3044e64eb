import Netboot.Address.V4
import Netboot.Proofs.Result
import Netboot.Proofs.Text.Fields

/-! The text of an address reads back as the address, and no other text does. -/

set_option autoImplicit false

namespace Netboot.V4

theorem digits_of_octet : ∀ n : Fin 256,
    let digits := Nat.toDigits 10 n
    digits.isEmpty = false ∧ digits.all Text.isAsciiDigit = true ∧ digits.length ≤ 3 ∧
      (1 < digits.length && digits.head? == some '0') = false ∧ Text.asciiValue digits = n := by
  decide +kernel

theorem octet_toDigits (text : String) {n : Nat} (small : n < 256) :
    octet text (Nat.toDigits 10 n) = .ok ⟨n, small⟩ := by
  obtain ⟨given, numeral, short, plain, value⟩ := digits_of_octet ⟨n, small⟩
  simp only at given numeral short plain value
  simp [octet, given, numeral, Nat.not_lt.mpr short, plain, value, small]

theorem isDigit_of_mem_toDigits {c : Char} {n : Nat} (member : c ∈ Nat.toDigits 10 n) :
    c.isDigit = true :=
  Nat.isDigit_of_mem_toDigits (by decide) (by decide) member

theorem toList_text (a : V4) :
    a.text.toList = ['.'].intercalate (a.octets.map (Nat.toDigits 10)) := by
  rw [text, String.toList_intercalate, List.map_map]
  simp only [Function.comp_def, Nat.toList_repr]
  rfl

theorem length_text_le (a : V4) : a.text.toList.length ≤ 15 := by
  have bounded := a.bounded
  have short {n : Nat} (small : n < 256) : (Nat.toDigits 10 n).length ≤ 3 :=
    (digits_of_octet ⟨n, small⟩).2.2.1
  have first := short (n := a.toNat / 2 ^ 24) (by omega)
  have second := short (n := a.toNat / 2 ^ 16 % 256) (by omega)
  have third := short (n := a.toNat / 2 ^ 8 % 256) (by omega)
  have fourth := short (n := a.toNat % 256) (by omega)
  simp only [toList_text, octets, List.map_cons, List.map_nil, List.intercalate,
    List.intersperse_cons_cons, List.intersperse_singleton, List.flatten_cons, List.flatten_nil,
    List.length_append, List.length_singleton, List.length_nil]
  omega

theorem isDigit_or_eq_of_mem_text {a : V4} {c : Char} (member : c ∈ a.text.toList) :
    c.isDigit = true ∨ c = '.' := by
  rw [toList_text] at member
  obtain rfl | ⟨part, among, within⟩ := Text.mem_intercalate member
  · exact .inr rfl
  · obtain ⟨n, -, rfl⟩ := List.mem_map.mp among
    exact .inl (isDigit_of_mem_toDigits within)

theorem fields_text (a : V4) :
    Text.fields '.' a.text.toList = a.octets.map (Nat.toDigits 10) := by
  rw [toList_text]
  refine Text.fields_intercalate (by simp [octets]) fun field among dotted => ?_
  obtain ⟨n, -, rfl⟩ := List.mem_map.mp among
  exact absurd (isDigit_of_mem_toDigits dotted) (by decide)

theorem text_isEmpty (a : V4) : a.text.isEmpty = false := by
  rw [Bool.eq_false_iff, ne_eq, String.isEmpty_iff]
  intro empty
  have count := congrArg List.length (fields_text a)
  rw [empty, List.length_map] at count
  cases count

theorem ofQuad_text (a : V4) : ofQuad a.text = .ok a := by
  have bounded := a.bounded
  rw [ofQuad, text_isEmpty, if_neg Bool.false_ne_true, fields_text]
  simp only [octets, List.map_cons, List.map_nil]
  rw [octet_toDigits a.text (by omega), octet_toDigits a.text (by omega),
    octet_toDigits a.text (by omega), octet_toDigits a.text (by omega)]
  refine congrArg Except.ok (V4.ext ?_)
  dsimp only
  omega

theorem parse?_text (a : V4) : parse? a.text = some a := by
  have unslashed : a.text.toList.contains '/' = false := by
    rw [Bool.eq_false_iff, ne_eq, List.contains_iff_mem]
    intro slash
    exact absurd (isDigit_or_eq_of_mem_text slash) (by decide)
  rw [parse?, parse, unslashed, if_neg Bool.false_ne_true, ofQuad_text]
  rfl

variable {text : String} {digits : List Char} {a : V4}

theorem exists_fin_of_isAsciiDigit {c : Char} (digit : Text.isAsciiDigit c = true) :
    ∃ d : Fin 10, c = Char.ofNat (48 + d) := by
  simp only [Text.isAsciiDigit, Bool.and_eq_true, decide_eq_true_eq] at digit
  have low : 48 ≤ c.toNat := digit.1
  have high : c.toNat ≤ 57 := digit.2
  refine ⟨⟨c.toNat - 48, by omega⟩, ?_⟩
  rw [Nat.add_sub_cancel' low, Char.ofNat_toNat]

/-- A numeral of at most three places that begins with no superfluous zero is written like that. -/
theorem toDigits_asciiValue : ∀ a b d : Fin 10,
    let digit (n : Fin 10) := Char.ofNat (48 + n)
    Nat.toDigits 10 (Text.asciiValue [digit a]) = [digit a] ∧
      (digit a ≠ '0' → Nat.toDigits 10 (Text.asciiValue [digit a, digit b]) = [digit a, digit b] ∧
        Nat.toDigits 10 (Text.asciiValue [digit a, digit b, digit d]) =
          [digit a, digit b, digit d]) := by
  decide +kernel

theorem eq_toDigits_of_octet {n : Fin 256} (read : octet text digits = .ok n) :
    digits = Nat.toDigits 10 n := by
  unfold octet at read
  split at read
  · cases read
  next given =>
  split at read
  · cases read
  next numeral =>
  split at read
  · cases read
  next short =>
  split at read
  · cases read
  next plain =>
  split at read
  next small =>
    obtain rfl := Except.ok.inj read
    simp only [Bool.not_eq_true', Bool.not_eq_false, List.all_eq_true] at numeral
    -- What is left are at most three digits, for which all cases are decided above.
    match digits with
    | [] => exact absurd rfl given
    | [c] =>
      obtain ⟨a, rfl⟩ := exists_fin_of_isAsciiDigit (numeral c (by simp))
      exact (toDigits_asciiValue a 0 0).1.symm
    | [c, c'] =>
      obtain ⟨a, rfl⟩ := exists_fin_of_isAsciiDigit (numeral c (by simp))
      obtain ⟨b, rfl⟩ := exists_fin_of_isAsciiDigit (numeral c' (by simp))
      exact ((toDigits_asciiValue a b 0).2 (by simpa using plain)).1.symm
    | [c, c', c''] =>
      obtain ⟨a, rfl⟩ := exists_fin_of_isAsciiDigit (numeral c (by simp))
      obtain ⟨b, rfl⟩ := exists_fin_of_isAsciiDigit (numeral c' (by simp))
      obtain ⟨d, rfl⟩ := exists_fin_of_isAsciiDigit (numeral c'' (by simp))
      exact ((toDigits_asciiValue a b d).2 (by simpa using plain)).2.symm
    | _ :: _ :: _ :: _ :: _ => exact absurd (by simp) short
  · cases read

theorem eq_text_of_ofQuad (read : ofQuad text = .ok a) : text = a.text := by
  unfold ofQuad at read
  split at read
  · cases read
  split at read
  next a b c d quad =>
    obtain ⟨first, one, read⟩ := ok_of_bind read
    obtain ⟨second, two, read⟩ := ok_of_bind read
    obtain ⟨third, three, read⟩ := ok_of_bind read
    obtain ⟨fourth, four, read⟩ := ok_of_bind read
    obtain rfl := Except.ok.inj read
    apply String.toList_inj.mp
    rw [toList_text, ← Text.intercalate_fields '.' text.toList, quad, eq_toDigits_of_octet one,
      eq_toDigits_of_octet two, eq_toDigits_of_octet three, eq_toDigits_of_octet four]
    have same : octets ⟨first * 2 ^ 24 + second * 2 ^ 16 + third * 2 ^ 8 + fourth, by omega⟩ =
        [first.val, second.val, third.val, fourth.val] := by
      simp only [octets, List.cons.injEq, and_true]
      omega
    rw [same]
    rfl
  · cases read

theorem parse?_eq_some_iff : parse? text = some a ↔ parse text = .ok a := by
  rw [parse?]
  cases parse text with
  | ok b =>
    exact ⟨fun same => congrArg _ (Option.some.inj same),
      fun same => congrArg _ (Except.ok.inj same)⟩
  | error fault => exact ⟨nofun, nofun⟩

theorem parse_eq_ok_iff : parse text = .ok a ↔ text = a.text := by
  constructor
  · intro read
    unfold parse at read
    split at read
    · cases read
    · exact eq_text_of_ofQuad read
  · rintro rfl
    exact parse?_eq_some_iff.mp (parse?_text a)

end Netboot.V4
