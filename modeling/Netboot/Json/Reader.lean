import Netboot.Json

/-! Reading JSON text, with the three non-finite numbers by name. -/

set_option autoImplicit false

namespace Netboot.Json

def skipSpace (text : List Char) : List Char :=
  text.dropWhile fun c => c == ' ' || c == '\t' || c == '\n' || c == '\r'

def hex4? : List Char → Option (Nat × List Char)
  | a :: b :: c :: d :: rest => do
    let a ← Text.hexValue? a
    let b ← Text.hexValue? b
    let c ← Text.hexValue? c
    let d ← Text.hexValue? d
    return (((a * 16 + b) * 16 + c) * 16 + d, rest)
  | _ => none

inductive Unread where
  | malformed
  /-- More arrays and objects are open in one another than the reader keeps track of. -/
  | tooDeep
  deriving DecidableEq, Repr

def wellFormed {α : Type} : Option α → Except Unread α
  | some found => .ok found
  | none => .error .malformed

/-- The code point of an escape with hexadecimal digits; two surrogates in a row are one character. -/
def unicodeEscape? (text : List Char) : Option (CodePoint × List Char) := do
  let (unit, rest) ← hex4? text
  if unit < 0xd800 ∨ 0xe000 ≤ unit then return (.char (Char.ofNat unit), rest)
  else
    let alone : CodePoint := .surrogate (Fin.ofNat 0x800 (unit - 0xd800))
    match rest with
    | '\\' :: 'u' :: more =>
      if 0xdc00 ≤ unit then return (alone, rest)
      else
        let (low, after) ← hex4? more
        if 0xdc00 ≤ low ∧ low < 0xe000 then
          return (.char (Char.ofNat (0x10000 + (unit - 0xd800) * 0x400 + (low - 0xdc00))), after)
        else return (alone, rest)
    | _ => return (alone, rest)

/-- An escape behind its backslash. -/
def escape? : List Char → Option (CodePoint × List Char)
  | '"' :: rest => some (.char '"', rest)
  | '\\' :: rest => some (.char '\\', rest)
  | '/' :: rest => some (.char '/', rest)
  | 'b' :: rest => some (.char '\x08', rest)
  | 'f' :: rest => some (.char '\x0c', rest)
  | 'n' :: rest => some (.char '\n', rest)
  | 'r' :: rest => some (.char '\r', rest)
  | 't' :: rest => some (.char '\t', rest)
  | 'u' :: rest => unicodeEscape? rest
  | _ => none

def stringRest? (read : CodePoints) : (fuel : Nat) → List Char → Option (CodePoints × List Char)
  | 0, _ => none
  | _ + 1, '"' :: rest => some (read.reverse, rest)
  | fuel + 1, '\\' :: rest => do
    let (point, rest) ← escape? rest
    stringRest? (point :: read) fuel rest
  | fuel + 1, c :: rest =>
    if c.toNat < 0x20 then none else stringRest? (.char c :: read) fuel rest
  | _, [] => none

def digitsOf (text : List Char) : List Char × List Char :=
  (text.takeWhile Text.isAsciiDigit, text.dropWhile Text.isAsciiDigit)

def number? (text : List Char) : Option (Json × List Char) :=
  let (negative, body) := match text with
    | '-' :: rest => (true, rest)
    | rest => (false, rest)
  let (whole, rest) := match body with
    | '0' :: rest => (['0'], rest)
    | body => digitsOf body
  if whole.isEmpty then none
  else
    let (part, rest) := match rest with
      | '.' :: more => match digitsOf more with
        | ([], _) => ([], rest)
        | (part, after) => (part, after)
      | rest => ([], rest)
    let (power, rest) := match rest with
      | e :: more =>
        if e = 'e' ∨ e = 'E' then
          let (minus, more) := Text.takeSign more
          match digitsOf more with
          | ([], _) => (none, rest)
          | (digits, after) =>
            let n : Int := Text.asciiValue digits
            (some (if minus then -n else n), after)
        else (none, rest)
      | [] => (none, [])
    if part.isEmpty && power.isNone then
      if Text.integerDigitLimit < whole.length then none
      else
        let n : Int := Text.asciiValue whole
        some (.int (if negative then -n else n), rest)
    else
      some (.float (Decimal.nearest negative
        ⟨Text.asciiValue (whole ++ part), power.getD 0 - part.length⟩), rest)

def word? (word : String) (value : Json) (text : List Char) : Option (Json × List Char) :=
  if word.toList.isPrefixOf text then some (value, text.drop word.toList.length) else none

def scalar? (text : List Char) : Option (Json × List Char) :=
  word? "null" .null text <|> word? "true" (.bool true) text <|>
  word? "false" (.bool false) text <|> word? "NaN" (.float (0.0 / 0.0)) text <|>
  word? "Infinity" (.float (1.0 / 0.0)) text <|>
  word? "-Infinity" (.float (-1.0 / 0.0)) text <|> number? text

mutual

/-- Read a value; `fuel` bounds the number of characters that are left, and `depth` the arrays and
objects that are open in one another. -/
def readValue : (fuel depth : Nat) → List Char → Except Unread (Json × List Char)
  | 0, _, _ => .error .malformed
  | fuel + 1, _, '"' :: rest => do
    let (text, rest) ← wellFormed (stringRest? [] fuel rest)
    return (.str text, rest)
  | _ + 1, 0, '[' :: _ | _ + 1, 0, '{' :: _ => .error .tooDeep
  | fuel + 1, depth + 1, '[' :: rest =>
    match skipSpace rest with
    | ']' :: rest => .ok (.arr [], rest)
    | rest => readItems [] fuel depth rest
  | fuel + 1, depth + 1, '{' :: rest =>
    match skipSpace rest with
    | '}' :: rest => .ok (.obj [], rest)
    | rest => readFields [] fuel depth rest
  | _ + 1, _, text => wellFormed (scalar? text)

def readItems (read : List Json) : (fuel depth : Nat) → List Char → Except Unread (Json × List Char)
  | 0, _, _ => .error .malformed
  | fuel + 1, depth, text => do
    let (item, rest) ← readValue fuel depth text
    match skipSpace rest with
    | ',' :: rest => readItems (item :: read) fuel depth (skipSpace rest)
    | ']' :: rest => return (.arr (item :: read).reverse, rest)
    | _ => .error .malformed

def readFields (read : List (CodePoints × Json)) :
    (fuel depth : Nat) → List Char → Except Unread (Json × List Char)
  | 0, _, _ => .error .malformed
  | fuel + 1, depth, '"' :: rest => do
    let (name, rest) ← wellFormed (stringRest? [] fuel rest)
    match skipSpace rest with
    | ':' :: rest =>
      let (value, rest) ← readValue fuel depth (skipSpace rest)
      match skipSpace rest with
      | ',' :: rest => readFields (setField read name value) fuel depth (skipSpace rest)
      | '}' :: rest => return (.obj (setField read name value), rest)
      | _ => .error .malformed
    | _ => .error .malformed
  | _ + 1, _, _ => .error .malformed

end

/-- Read a whole text: one value and nothing but white space around it. -/
def ofChars (depth : Nat) (text : List Char) : Except Unread Json := do
  let (json, rest) ← readValue (text.length + 1) depth (skipSpace text)
  if (skipSpace rest).isEmpty then return json else .error .malformed

def ofString? (text : String) : Option Json := (ofChars text.length text.toList).toOption

end Netboot.Json
