import Netboot.Decimal
import Netboot.Dns.Location
import Netboot.Dns.ZoneText

/-! Locations as zone files write them: `d [m [s]] N`, the same with E or W, an altitude, and up to
three lengths. -/

set_option autoImplicit false

namespace Netboot.Dns.ZoneText

/-- Thousandths of a second, from seconds with up to three places behind a point. -/
def thousandths? (text : List Char) : Option Nat :=
  match Text.fields '.' text with
  | [whole] => (numberOf? whole).map (· * 1000)
  | [whole, part] => do
    let seconds ← numberOf? whole
    let fraction ← numberOf? part
    if part.length ≤ 3 then return seconds * 1000 + fraction * 10 ^ (3 - part.length) else none
  | _ => none

def angle (ahead behind : Char) : Reader Angle := do
  let degrees ← number
  let first ← string
  let finish (minutes thousandths : Nat) (side : List Char) : Reader Angle := do
    require (side == [ahead] || side == [behind])
    return ⟨degrees, minutes, thousandths, side == [ahead]⟩
  match numberOf? first with
  | none => finish 0 0 first
  | some minutes =>
    let second ← string
    if second.contains '.' || (numberOf? second).isSome then
      let thousandths ← required (thousandths? second)
      finish minutes thousandths (← string)
    else finish minutes 0 second

def centimetres (text : List Char) : Except Fault Float := do
  require !text.isEmpty
  let metres := if text.getLast? = some 'm' then text.dropLast else text
  match Decimal.read (.ofList metres) with
  | .ok value => return value * 100.0
  | .error _ => throw .malformed

def length (token : Token) : Except Fault Nat := do
  let value ← centimetres (← tokenChars token)
  match Decimal.truncate? value with
  | some whole =>
    require (0 ≤ whole && whole < Location.lengthLimit)
    return whole.toNat
  | none => throw .malformed

def wholeAltitude (altitude : Float) : Except Fault Int :=
  match Decimal.truncate? altitude with
  | some whole => .ok whole
  | none => .error (if altitude.isNaN then .noAltitude else .infiniteAltitude)

def defaultSize : Nat := 100
def defaultHorizontal : Nat := 1000000
def defaultVertical : Nat := 1000

/-- A location. Whether its altitude fits is seen to after everything else. -/
def location : Reader Bytes := do
  let latitude ← angle 'N' 'S'
  let longitude ← angle 'E' 'W'
  let altitude ← centimetres (← string)
  let lengths ← (← upTo 3).mapM fun token => (length token : Except Fault Nat)
  require (latitude.isValid Location.latitudeLimit && longitude.isValid Location.longitudeLimit)
  endOfLine
  let altitude ← wholeAltitude altitude
  let bytes? := Location.toBytes? ⟨lengths[0]?.getD defaultSize,
    lengths[1]?.getD defaultHorizontal, lengths[2]?.getD defaultVertical, latitude, longitude,
    altitude⟩
  match bytes? with
  | some bytes => return bytes
  | none => throw .altitudeRange

end Netboot.Dns.ZoneText
