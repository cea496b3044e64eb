import Netboot.Text.Blank
import Netboot.Text.Case
import Netboot.Text.Quoted
import Netboot.Text.Utf8

/-! Query strings: fields between ampersands, each a key and a value around its first equals sign,
both percent-encoded UTF-8 with plus signs for spaces. -/

set_option autoImplicit false

namespace Netboot.Query

inductive Fault where
  | notUtf8
  | field (text : String)
  deriving DecidableEq, Repr

def Fault.message : Fault → String
  | .notUtf8 => "invalid UTF-8"
  | .field text => s!"bad query field: {Text.quoted text}"

def hexByte? (a b : UInt8) : Option UInt8 := do
  let high ← Text.hexValue? (Char.ofNat a.toNat)
  let low ← Text.hexValue? (Char.ofNat b.toNat)
  return UInt8.ofNat (high * 16 + low)

/-- Replace every `%XX`; a percent sign without two hexadecimal digits stands for itself. -/
def unescape : Bytes → Bytes
  | 0x25 :: a :: b :: rest =>
    match hexByte? a b with
    | some byte => byte :: unescape rest
    | none => 0x25 :: unescape (a :: b :: rest)
  | byte :: rest => byte :: unescape rest
  | [] => []

def spaced (text : List Char) : List Char := text.map fun c => if c = '+' then ' ' else c

def component (text : List Char) : Except Fault String :=
  match Text.decode? (unescape (Text.encode (spaced text))) with
  | some decoded => .ok (.ofList decoded)
  | none => .error .notUtf8

def field (text : List Char) : Except Fault (String × String) :=
  match Text.cut? '=' text with
  | none => .error (.field (.ofList text))
  | some (key, value) => do
    let key ← component key
    let value ← component value
    return (key, value)

/-- The keys and values of a query, in order. -/
def pairsOfChars (text : List Char) : Except Fault (List (String × String)) :=
  if text.isEmpty then .ok [] else (Text.fields '&' text).mapM field

def pairs (query : Bytes) : Except Fault (List (String × String)) :=
  match Text.decode? query with
  | some text => pairsOfChars text
  | none => .error .notUtf8

/-- The value of the last field with a key, empty when there is none. -/
def lastValue (pairs : List (String × String)) (key : String) : String :=
  (pairs.reverse.lookup key).getD ""

def escapeByte (b : UInt8) : List Char := '%' :: (Text.hex 2 b.toNat).flatMap Text.upperAscii

/-- Decode and write every byte that is not part of a character as `%XX`. -/
def decodeEscaping : Bytes → List Char
  | [] => []
  | a :: rest =>
    match Text.charAt a rest with
    | some (c, n) => c :: decodeEscaping (rest.drop n)
    | none => escapeByte a ++ decodeEscaping rest
termination_by bytes => bytes.length
decreasing_by
  · simp only [List.length_drop, List.length_cons]; omega
  · simp

def lenientComponent (text : List Char) : String :=
  .ofList (decodeEscaping (unescape (Text.encode (spaced text))))

def lenientField (text : List Char) : String × String :=
  match Text.cut? '=' text with
  | none => (lenientComponent text, "")
  | some (key, value) => (lenientComponent key, lenientComponent value)

def firstOfEach (pairs : List (String × String)) : List (String × String) :=
  pairs.foldl (fun kept pair => if (kept.lookup pair.1).isSome then kept else kept ++ [pair]) []

/-- The labels in a query: no field is refused, and the first of several equal keys counts. -/
def labels? (query : Bytes) : Option (List (String × String)) :=
  (Text.decode? query).map fun text =>
    firstOfEach (((Text.fields '&' text).filter (!·.isEmpty)).map lenientField)

end Netboot.Query
