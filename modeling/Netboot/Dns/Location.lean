import Netboot.Text.Utf8

/-! Where on earth a host is. Angles are in thousandths of a second and lengths in
centimetres. -/

set_option autoImplicit false

namespace Netboot.Dns

structure Angle where
  degrees : Nat
  minutes : Nat
  thousandths : Nat
  ahead : Bool
  deriving DecidableEq, Repr

namespace Angle

def zeroWord : Nat := 2 ^ 31

def isValid (limit : Nat) (angle : Angle) : Bool :=
  angle.degrees ≤ limit && angle.minutes < 60 && angle.thousandths < 60000

def total (angle : Angle) : Nat :=
  angle.degrees * 3600000 + angle.minutes * 60000 + angle.thousandths

def toBytes (angle : Angle) : Bytes :=
  Bytes.ofNat 4 (if angle.ahead then zeroWord + angle.total else zeroWord - angle.total)

def isWord (limit : Nat) (word : Nat) : Bool :=
  zeroWord ≤ word + limit * 3600000 && word ≤ zeroWord + limit * 3600000

end Angle

structure Location where
  size : Nat
  horizontal : Nat
  vertical : Nat
  latitude : Angle
  longitude : Angle
  altitude : Int
  deriving DecidableEq, Repr

namespace Location

def latitudeLimit : Nat := 90
def longitudeLimit : Nat := 180

def lengthLimit : Nat := 10 ^ 10

/-- A length as its first digit and the number of those behind it. -/
def lengthByte (length : Nat) : UInt8 :=
  let places := (Nat.toDigits 10 length).length - 1
  UInt8.ofNat (length / 10 ^ places * 16 + places)

def lowest : Int := -10000000

def altitudeWord? (altitude : Int) : Option Nat :=
  if lowest ≤ altitude ∧ altitude < lowest + 2 ^ 32 then some (altitude - lowest).toNat else none

def version : UInt8 := 0

def toBytes? (location : Location) : Option Bytes :=
  (altitudeWord? location.altitude).map fun altitude =>
    [version, lengthByte location.size, lengthByte location.horizontal,
      lengthByte location.vertical] ++
    location.latitude.toBytes ++ location.longitude.toBytes ++ Bytes.ofNat 4 altitude

def readLength? (byte : UInt8) : Option UInt8 :=
  let digit := byte.toNat / 16
  if 9 < digit ∨ 9 < byte.toNat % 16 then none else some (if digit = 0 then 0 else byte)

def normalize? : Bytes → Option Bytes
  | first :: size :: horizontal :: vertical :: rest => do
    let size ← readLength? size
    let horizontal ← readLength? horizontal
    let vertical ← readLength? vertical
    if first = version && Angle.isWord latitudeLimit (Bytes.toNat (rest.take 4)) &&
        Angle.isWord longitudeLimit (Bytes.toNat ((rest.drop 4).take 4)) && rest.length = 12 then
      return first :: size :: horizontal :: vertical :: rest
    else none
  | _ => none

end Location

end Netboot.Dns
