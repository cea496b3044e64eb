import Netboot.Address.V4
import Netboot.Text.Integer

/-! IPv4 addresses in the loose numeric form: one to four numbers, each decimal, octal or
hexadecimal, the last of which fills all that is left of the address. -/

set_option autoImplicit false

namespace Netboot

namespace V4

/-- A number and the rest: hexadecimal behind `0x`, octal behind any other zero, else decimal. -/
def takeNumber : List Char → Option (Nat × List Char)
  | '0' :: x :: d :: rest =>
    if (x = 'x' ∨ x = 'X') ∧ (Text.hexValue? d).isSome then some (digitsOf 16 (d :: rest))
    else some (digitsOf 8 ('0' :: x :: d :: rest))
  | '0' :: rest => some (digitsOf 8 ('0' :: rest))
  | c :: rest => if Text.isAsciiDigit c then some (digitsOf 10 (c :: rest)) else none
  | [] => none
where
  digitsOf (base : Nat) (text : List Char) : Nat × List Char :=
    let inBase (c : Char) : Bool := ((Text.hexValue? c).filter (· < base)).isSome
    (Text.ofDigitsIn base ((text.takeWhile inBase).filterMap Text.hexValue?),
      text.dropWhile inBase)

def numericFrom (done : List Nat) (parts : Nat) (text : List Char) :
    Option (List Nat × Nat × List Char) :=
  match takeNumber text, parts with
  | some (n, '.' :: rest), parts + 1 =>
    if n < 256 then numericFrom (done ++ [n]) parts rest else none
  | some (_, '.' :: _), 0 => none
  | some (n, rest), _ => some (done, n, rest)
  | none, _ => none

def takeNumeric (text : List Char) : Option (V4 × List Char) := do
  let (leading, last, rest) ← numericFrom [] 3 text
  let left := 4 - leading.length
  if last < 256 ^ left then
    return (ofNat (Text.ofDigitsIn 256 leading * 256 ^ left + last), rest)
  else none

def ofNumeric? (text : List Char) : Option V4 :=
  match takeNumeric text with
  | some (a, []) => some a
  | _ => none

def isAsciiBlank (c : Char) : Bool := c = ' ' || (0x09 ≤ c.toNat && c.toNat ≤ 0x0d)

/-- The address at the front of a text; anything may follow it behind a blank. -/
def ofNumericLine? (text : List Char) : Option V4 :=
  match takeNumeric text with
  | some (a, []) => some a
  | some (a, c :: _) => if isAsciiBlank c then some a else none
  | none => none

end V4

end Netboot
