import Netboot.Text.Blank
import Netboot.Text.Digit
import Netboot.Text.Quoted

/-! Integers as text: digits of any script, with single underscores between digits. -/

set_option autoImplicit false

namespace Netboot.Text

inductive IntegerFault where
  | malformed (base : Nat) (text : String)
  | tooLong (digits : Nat)
  deriving DecidableEq, Repr

def integerDigitLimit : Nat := 4300

/-- A message shows no more of a quoted text than this. -/
def shownLimit : Nat := 200

def IntegerFault.message : IntegerFault → String
  | .malformed base text =>
    s!"invalid literal for int() with base {base}: " ++
    .ofList ((quotedChars text.toList).take shownLimit)
  | .tooLong digits =>
    s!"Exceeds the limit ({integerDigitLimit} digits) for integer string conversion: value has " ++
    s!"{digits} digits; use sys.set_int_max_str_digits() to increase the limit"

/-- White space allowed around a numeral: the blanks other than the information separators. -/
def isNumeralBlank (c : Char) : Bool := isBlank c && !(0x1c ≤ c.toNat && c.toNat ≤ 0x1f)

def stripNumeral (text : List Char) : List Char :=
  dropEndWhile isNumeralBlank (text.dropWhile isNumeralBlank)

def takeSign : List Char → Bool × List Char
  | '-' :: rest => (true, rest)
  | '+' :: rest => (false, rest)
  | rest => (false, rest)

def digitIn? (base : Nat) (c : Char) : Option Nat :=
  ((digitValue? c).or (hexValue? c)).filter (· < base)

/-- A mark of base sixteen, which an underscore may follow. -/
def dropBaseMark (base : Nat) (text : List Char) : List Char :=
  match text with
  | '0' :: x :: rest =>
    if base = 16 ∧ (x = 'x' ∨ x = 'X') then
      match rest with
      | '_' :: more => more
      | rest => rest
    else text
  | text => text

def numeralDigits? (base : Nat) : List Char → Option (List Nat)
  | [] => none
  | c :: rest =>
    match digitIn? base c, rest with
    | some d, [] => some [d]
    | some d, '_' :: more => (numeralDigits? base more).map (d :: ·)
    | some d, more => (numeralDigits? base more).map (d :: ·)
    | none, _ => none

def ofDigitsIn (base : Nat) (digits : List Nat) : Nat := digits.foldl (fun n d => n * base + d) 0

def ofDigits (digits : List Nat) : Nat := ofDigitsIn 10 digits

/-- Whether the number of digits is limited: it is when reading them takes more than shifts. -/
def isLimited (base : Nat) : Bool := base != 16

/-- Read an integer. Too long a numeral is found out before what stands behind it. -/
def integerIn (base : Nat) (text : String) : Except IntegerFault Int :=
  let (negative, rest) := takeSign (text.toList.dropWhile isNumeralBlank)
  let body := dropBaseMark base rest
  let inNumeral (c : Char) : Bool := c = '_' || (digitIn? base c).isSome
  match numeralDigits? base (body.takeWhile inNumeral) with
  | none => .error (.malformed base text)
  | some digits =>
    if isLimited base && integerDigitLimit < digits.length then .error (.tooLong digits.length)
    else if (body.dropWhile inNumeral).all isNumeralBlank then
      let value : Int := ofDigitsIn base digits
      .ok (if negative then -value else value)
    else .error (.malformed base text)

def integer (text : String) : Except IntegerFault Int := integerIn 10 text

end Netboot.Text
