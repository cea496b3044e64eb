import Netboot.Dns.Name
import Netboot.Text.Nameprep
import Netboot.Text.Punycode

/-! Names as text: labels separated by dots. A backslash stands before three digits or before a
character that is taken as it is. In a name with characters outside ASCII each label is brought into
its common form and written in ASCII. -/

set_option autoImplicit false

namespace Netboot.Dns.Name

inductive Escape where
  | closed
  | opened
  | oneDigit (value : Nat)
  | twoDigits (value : Nat)
  deriving DecidableEq, Repr

def asciiDigit? (c : Char) : Option Nat :=
  if Text.isAsciiDigit c then some (c.toNat - '0'.toNat) else none

/-- How the text of a name is read: which characters are dots, what a character or a number behind a
backslash stands for, and what a label made of such units comes to. -/
structure Spelling (α : Type) where
  isDot : Char → Bool
  ofChar : Char → α
  ofNumber : Nat → Except Fault α
  label : List α → Except Fault Label

def isAscii (c : Char) : Bool := c.toNat < 0x80

def plain : Spelling UInt8 where
  isDot := (· == '.')
  ofChar c := UInt8.ofNat c.toNat
  ofNumber n := if n < 256 then .ok (UInt8.ofNat n) else .error .escapeRange
  label := .ok

def foreignMark : List Char := "xn--".toList

def foreignLabel? (common : List Char) : Option (List Char) :=
  if common.all isAscii then some common
  else if foreignMark.isPrefixOf common then none
  else some (foreignMark ++ Text.Punycode.encode common)

def asciiLabel? (label : List Char) : Option (List Char) :=
  (if label.all isAscii then some label
    else (Text.Nameprep.prepare? label).bind foreignLabel?).filter fun text =>
      0 < text.length && text.length ≤ maxLabel

def international : Spelling Char where
  isDot := ".\u3002\uff0e\uff61".toList.contains
  ofChar c := c
  ofNumber n := .ok (Char.ofNat n)
  label chars :=
    match asciiLabel? chars with
    | some text => .ok (text.map fun c => UInt8.ofNat c.toNat)
    | none => .error .longLabel

/-- Read labels; `label` holds the units of the current one in reverse. -/
def readLabels {α : Type} (spelling : Spelling α) (done : List Label) (label : List α)
    (escape : Escape) : List Char → Except Fault Name
  | [] => do
    if escape ≠ .closed then throw .badEscape
    if label.isEmpty then checked done.reverse true
    else checked ((← spelling.label label.reverse) :: done).reverse false
  | c :: rest => do
    match escape, asciiDigit? c with
    | .closed, _ =>
      if c = '\\' then readLabels spelling done label .opened rest
      else if !spelling.isDot c then
        readLabels spelling done (spelling.ofChar c :: label) .closed rest
      else if label.isEmpty then throw .emptyLabel
      else readLabels spelling ((← spelling.label label.reverse) :: done) [] .closed rest
    | .opened, none => readLabels spelling done (spelling.ofChar c :: label) .closed rest
    | .opened, some d => readLabels spelling done label (.oneDigit d) rest
    | .oneDigit n, some d => readLabels spelling done label (.twoDigits (n * 10 + d)) rest
    | .twoDigits n, some d =>
      readLabels spelling done ((← spelling.ofNumber (n * 10 + d)) :: label) .closed rest
    | .oneDigit _, none | .twoDigits _, none => throw .badEscape

def readWith {α : Type} (spelling : Spelling α) (text : List Char) : Except Fault Name :=
  match text with
  | [] => .ok ⟨[], false⟩
  | [c] =>
    if c = '@' then .ok ⟨[], false⟩
    else if spelling.isDot c then .ok root
    else readLabels spelling [] [] .closed [c]
  | text => readLabels spelling [] [] .closed text

/-- Read a name; it is absolute when a dot ends it. -/
def parse (text : List Char) : Except Fault Name :=
  if text.all isAscii then readWith plain text else readWith international text

end Netboot.Dns.Name
