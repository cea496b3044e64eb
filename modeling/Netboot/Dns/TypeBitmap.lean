import Netboot.Text.Utf8

/-! Sets of numbers as bitmaps, and sets of record types as bitmaps in windows of 256 types. -/

set_option autoImplicit false

namespace Netboot.Dns

def bitmap (numbers : List Nat) (size : Nat) : Bytes := (List.range size).map fun i =>
  numbers.foldl (fun byte n => if n / 8 = i then byte ||| (0x80 >>> UInt8.ofNat (n % 8)) else byte) 0

def shortestBitmap (numbers : List Nat) : Bytes :=
  bitmap numbers ((numbers.map fun n => n / 8 + 1).foldl max 0)

namespace TypeBitmap

def window (types : List Nat) (number : Nat) : Bytes :=
  match types.filter (· / 256 == number) with
  | [] => []
  | types =>
    let bits := shortestBitmap (types.map (· % 256))
    UInt8.ofNat number :: UInt8.ofNat bits.length :: bits

def ofTypes (types : List Nat) : Bytes := (List.range 256).flatMap (window types)

/-- Whether bytes are windows in ascending order, of one to 32 bytes each; `next` is the least
number that the first may have. -/
def isValid (next : Nat) (windows : Bytes) : Bool :=
  match windows with
  | [] => true
  | [_] => false
  | number :: size :: rest =>
    next ≤ number.toNat && 1 ≤ size.toNat && size.toNat ≤ 32 && size.toNat ≤ rest.length &&
      isValid (number.toNat + 1) (rest.drop size.toNat)
termination_by windows.length
decreasing_by simp only [List.length_drop, List.length_cons]; omega

end TypeBitmap

end Netboot.Dns
