import Netboot.Text.Blank
import Netboot.Text.Case
import Netboot.Text.Quoted
import Netboot.Text.Utf8

/-! Text of code points. Besides characters it may hold surrogates, which stand for nothing on their
own and have no encoding: escapes in documents write them, and file names that are not UTF-8 are read
with them.
-/

set_option autoImplicit false

namespace Netboot

inductive CodePoint where
  | char (c : Char)
  | surrogate (offset : Fin 0x800)
  deriving DecidableEq, Repr

namespace CodePoint

def toNat : CodePoint → Nat
  | .char c => c.toNat
  | .surrogate offset => 0xd800 + offset

instance : LE CodePoint := ⟨fun a b => a.toNat ≤ b.toNat⟩

instance : LT CodePoint := ⟨fun a b => a.toNat < b.toNat⟩

instance : DecidableLT CodePoint := fun a b => inferInstanceAs (Decidable (a.toNat < b.toNat))

def char? : CodePoint → Option Char
  | .char c => some c
  | .surrogate _ => none

def isBlank : CodePoint → Bool
  | .char c => Text.isBlank c
  | .surrogate _ => false

def isHigh : CodePoint → Bool
  | .char _ => false
  | .surrogate offset => offset.val < 0x400

def isLow : CodePoint → Bool
  | .char _ => false
  | .surrogate offset => 0x400 ≤ offset.val

/-- A byte that is not part of a character, where it stands in a file name. -/
def ofByte (b : UInt8) : CodePoint := .surrogate ⟨0x400 + b.toNat, by have := b.toNat_lt; omega⟩

/-- The bytes of a character, or the byte that a surrogate stands for in a file name. -/
def fileBytes : CodePoint → Bytes
  | .char c => Text.encodeChar c
  | .surrogate offset => [UInt8.ofNat (offset - 0x400)]

end CodePoint

abbrev CodePoints := List CodePoint

namespace CodePoints

def ofChars (text : List Char) : CodePoints := text.map .char

def ofString (text : String) : CodePoints := ofChars text.toList

instance : Coe String CodePoints := ⟨ofString⟩

theorem ofString_append (first second : String) :
    ofString (first ++ second) = ofString first ++ ofString second := by
  rw [ofString, String.toList_append, ofChars, List.map_append]
  rfl

def toChars? (text : CodePoints) : Option (List Char) := text.mapM CodePoint.char?

def toString? (text : CodePoints) : Option String := text.toChars?.map .ofList

@[simp] theorem toChars?_ofChars (text : List Char) : (ofChars text).toChars? = some text := by
  induction text with
  | nil => rfl
  | cons c rest ih =>
    rw [toChars?, ofChars, List.map_cons, List.mapM_cons, ← ofChars, ← toChars?, ih]
    rfl

@[simp] theorem toString?_ofString (text : String) : (ofString text).toString? = some text := by
  rw [toString?, ofString, toChars?_ofChars, Option.map_some, String.ofList_toList]

theorem toChars?_eq_some_iff {text : CodePoints} {chars : List Char} :
    text.toChars? = some chars ↔ text = ofChars chars := by
  refine ⟨fun read => ?_, fun same => same ▸ toChars?_ofChars chars⟩
  induction text generalizing chars with
  | nil =>
    cases read
    rfl
  | cons point rest ih =>
    rw [toChars?, List.mapM_cons, ← toChars?] at read
    obtain ⟨c, here, read⟩ := Option.bind_eq_some_iff.mp read
    obtain ⟨others, later, read⟩ := Option.bind_eq_some_iff.mp read
    cases read
    cases point with
    | char d =>
      cases here
      rw [ih later]
      rfl
    | surrogate offset => cases here

theorem toString?_eq_some_iff {text : CodePoints} {string : String} :
    text.toString? = some string ↔ text = ofString string := by
  rw [toString?, Option.map_eq_some_iff]
  constructor
  · rintro ⟨chars, read, rfl⟩
    rw [ofString, String.toList_ofList, toChars?_eq_some_iff.mp read]
  · rintro rfl
    exact ⟨string.toList, toChars?_ofChars _, String.ofList_toList⟩

theorem ofString_inj {first second : String} : ofString first = ofString second ↔ first = second := by
  refine ⟨fun same => ?_, congrArg ofString⟩
  have back := congrArg toString? same
  rwa [toString?_ofString, toString?_ofString, Option.some.injEq] at back

def strip (text : CodePoints) : CodePoints :=
  Text.dropEndWhile CodePoint.isBlank (text.dropWhile CodePoint.isBlank)

/-- Lower case of one stretch of characters after another: a surrogate has no case, and is no mark that
the sigma rule skips. `run` holds the stretch that was read, last first. -/
def lowerFrom (run : List Char) : CodePoints → CodePoints
  | [] => ofChars (Text.lower run.reverse)
  | .char c :: rest => lowerFrom (c :: run) rest
  | .surrogate offset :: rest =>
    ofChars (Text.lower run.reverse) ++ .surrogate offset :: lowerFrom [] rest

def lower (text : CodePoints) : CodePoints := lowerFrom [] text

def quotedPoint (mark : Char) : CodePoint → List Char
  | .char c => Text.quotedChar mark c
  | .surrogate offset => '\\' :: 'u' :: Text.hex 4 (0xd800 + offset)

def quoted (text : CodePoints) : List Char :=
  let mark := Text.quoteMark (text.filterMap CodePoint.char?)
  mark :: text.flatMap (quotedPoint mark) ++ [mark]

/-- A file name as text: every byte that is not part of a character has a surrogate of its own. -/
def ofFileName : Bytes → CodePoints
  | [] => []
  | a :: rest =>
    match Text.charAt a rest with
    | some (c, n) => .char c :: ofFileName (rest.drop n)
    | none => .ofByte a :: ofFileName rest
termination_by bytes => bytes.length
decreasing_by
  · simp only [List.length_drop, List.length_cons]; omega
  · simp

end CodePoints

end Netboot
