import Netboot.Text.Ranges

/-! Digits of every script. -/

set_option autoImplicit false

namespace Netboot

-- Powers of numbers are the core's, whatever algebra a module imports.
attribute [scoped instance (high), default_instance 20000] instPowNat

end Netboot

namespace Netboot.Text

def digitValue? (c : Char) : Option Nat :=
  (decimalRanges.find? fun (first, last) => first ≤ c.toNat && c.toNat ≤ last).map
    fun (first, _) => (c.toNat - first) % 10

def isDigit (c : Char) : Bool :=
  inRanges decimalRanges c.toNat || inRanges lonelyDigitRanges c.toNat

def isDigits (text : List Char) : Bool := !text.isEmpty && text.all isDigit

def isAsciiDigit (c : Char) : Bool := '0' ≤ c && c ≤ '9'

def asciiValue (digits : List Char) : Nat :=
  digits.foldl (fun n c => n * 10 + (c.toNat - '0'.toNat)) 0

def hexValue? (c : Char) : Option Nat :=
  if '0' ≤ c ∧ c ≤ '9' then some (c.toNat - '0'.toNat)
  else if 'a' ≤ c ∧ c ≤ 'f' then some (c.toNat - 'a'.toNat + 10)
  else if 'A' ≤ c ∧ c ≤ 'F' then some (c.toNat - 'A'.toNat + 10)
  else none

def hexDigit (n : Nat) : Char :=
  if n < 10 then Char.ofNat ('0'.toNat + n) else Char.ofNat ('a'.toNat + (n - 10))

def hex (width n : Nat) : List Char :=
  let digits := (Nat.toDigits 16 n)
  List.replicate (width - digits.length) '0' ++ digits

theorem toNat_of_hexValue? {c : Char} {n : Nat} (digit : hexValue? c = some n) : c.toNat < 0x80 := by
  have upper {last : Char} (below : c ≤ last) (ascii : last.toNat < 0x80) : c.toNat < 0x80 :=
    Nat.lt_of_le_of_lt below ascii
  unfold hexValue? at digit
  split at digit
  next numeral => exact upper numeral.2 (by decide)
  next =>
    split at digit
    next small => exact upper small.2 (by decide)
    next =>
      split at digit
      next large => exact upper large.2 (by decide)
      next => cases digit

theorem forall_ascii {P : Char → Prop} (all : ∀ n ∈ List.range 0x80, P (Char.ofNat n)) {c : Char}
    (ascii : c.toNat < 0x80) : P c := by
  rw [← Char.ofNat_toNat c]
  exact all c.toNat (List.mem_range.mpr ascii)

theorem hexValue?_lt {c : Char} {n : Nat} (digit : hexValue? c = some n) : n < 16 := by
  have all : ∀ n ∈ List.range 0x80, ∀ v ∈ hexValue? (Char.ofNat n), v < 16 := by
    decide +kernel
  exact forall_ascii (P := fun c => ∀ v ∈ hexValue? c, v < 16) all (toNat_of_hexValue? digit) n digit

theorem hexValue?_hexDigit {n : Nat} (small : n < 16) : hexValue? (hexDigit n) = some n := by
  have all : ∀ m ∈ List.range 16, hexValue? (hexDigit m) = some m := by decide
  exact all n (List.mem_range.mpr small)

end Netboot.Text
