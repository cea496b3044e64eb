import Netboot.Decimal
import Netboot.Text.Utf8

/-! Positions on earth as decimal texts. -/

set_option autoImplicit false

namespace Netboot.Dns.Position

def isFraction (text : List Char) : Bool :=
  let digits := match text with
    | '-' :: rest | '+' :: rest => rest
    | text => text
  match Text.fields '.' digits with
  | [whole] => !whole.isEmpty && whole.all Text.isAsciiDigit
  | [whole, part] => !(whole ++ part).isEmpty && (whole ++ part).all Text.isDigit
  | _ => false

def isFractionWithin (limit : Float) (content : Bytes) : Bool :=
  match Text.decode? content with
  | some text =>
    isFraction text && match Decimal.read (.ofList text) with
      | .ok value => -limit ≤ value && value ≤ limit
      | .error _ => false
  | none => false

def isValid (latitude longitude altitude : Bytes) : Bool :=
  isFractionWithin 90.0 latitude && isFractionWithin 180.0 longitude &&
    (Text.decode? altitude).any isFraction

end Netboot.Dns.Position
