import Netboot.Text.Digit

/-! Bytes, and text as UTF-8. -/

set_option autoImplicit false

namespace Netboot

abbrev Bytes := List UInt8

namespace Text

def encodeChar (c : Char) : Bytes := String.utf8EncodeChar c

def encode (text : List Char) : Bytes := text.flatMap encodeChar

def isContinuation (b : UInt8) : Bool := 0x80 ≤ b && b ≤ 0xbf

def joinBits (lead : Nat) (tail : List UInt8) : Char :=
  Char.ofNat (tail.foldl (fun n b => n * 64 + (b.toNat - 0x80)) lead)

/-- The second byte of a sequence: its bounds rule out long forms, surrogates and values past
the last plane. -/
def follows (a b : UInt8) : Bool :=
  if a = 0xe0 then 0xa0 ≤ b && b ≤ 0xbf
  else if a = 0xed then 0x80 ≤ b && b ≤ 0x9f
  else if a = 0xf0 then 0x90 ≤ b && b ≤ 0xbf
  else if a = 0xf4 then 0x80 ≤ b && b ≤ 0x8f
  else isContinuation b

def charAt (a : UInt8) (rest : Bytes) : Option (Char × Nat) :=
  if a < 0x80 then some (Char.ofNat a.toNat, 0)
  else if 0xc2 ≤ a && a ≤ 0xdf then
    match rest with
    | b :: _ => if follows a b then some (joinBits (a.toNat - 0xc0) [b], 1) else none
    | _ => none
  else if 0xe0 ≤ a && a ≤ 0xef then
    match rest with
    | b :: c :: _ =>
      if follows a b && isContinuation c then some (joinBits (a.toNat - 0xe0) [b, c], 2) else none
    | _ => none
  else if 0xf0 ≤ a && a ≤ 0xf4 then
    match rest with
    | b :: c :: d :: _ =>
      if follows a b && isContinuation c && isContinuation d then
        some (joinBits (a.toNat - 0xf0) [b, c, d], 3)
      else none
    | _ => none
  else none

def decode? : Bytes → Option (List Char)
  | [] => some []
  | a :: rest =>
    match charAt a rest with
    | some (c, n) => (decode? (rest.drop n)).map (c :: ·)
    | none => none
termination_by bytes => bytes.length
decreasing_by simp only [List.length_drop, List.length_cons]; omega

/-- Decode and leave out every byte that is not part of a character. -/
def decodeValid : Bytes → List Char
  | [] => []
  | a :: rest =>
    match charAt a rest with
    | some (c, n) => c :: decodeValid (rest.drop n)
    | none => decodeValid rest
termination_by bytes => bytes.length
decreasing_by
  · simp only [List.length_drop, List.length_cons]; omega
  · simp

end Text

def Bytes.ofString (text : String) : Bytes := Text.encode text.toList

def Bytes.toString? (bytes : Bytes) : Option String := (Text.decode? bytes).map .ofList

def Bytes.toHex (bytes : Bytes) : String :=
  .ofList (bytes.flatMap fun b => [Text.hexDigit (b.toNat / 16), Text.hexDigit (b.toNat % 16)])

def Bytes.ofHexDigits? : List Char → Option Bytes
  | [] => some []
  | [_] => none
  | a :: b :: rest => do
    let high ← Text.hexValue? a
    let low ← Text.hexValue? b
    return UInt8.ofNat (high * 16 + low) :: (← ofHexDigits? rest)

def Bytes.ofHex? (text : String) : Option Bytes := Bytes.ofHexDigits? text.toList

def Bytes.toNat (bytes : Bytes) : Nat := bytes.foldl (fun n b => n * 256 + b.toNat) 0

def Bytes.ofNat : (width : Nat) → Nat → Bytes
  | 0, _ => []
  | width + 1, n => Bytes.ofNat width (n / 256) ++ [UInt8.ofNat n]

def Bytes.fit (size : Nat) (bytes : Bytes) : Bytes :=
  bytes.take size ++ List.replicate (size - bytes.length) 0

end Netboot
