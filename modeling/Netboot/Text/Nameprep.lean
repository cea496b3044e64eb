import Netboot.Text.Digit
import Netboot.Text.Nameprep.Image
import Netboot.Text.Nameprep.Mark
import Netboot.Text.Nameprep.Range
import Netboot.Text.Blank

/-! The common form of labels that look alike: without case, decomposed, and composed again as far
as it goes. -/

set_option autoImplicit false

namespace Netboot.Text.Nameprep

def hexNumber (digits : List Char) : Nat :=
  digits.foldl (fun n c => n * 16 + (hexValue? c).getD 0) 0

def imageOf (c : Char) (word : List Char) : List Char :=
  if word = ['.'] then [c]
  else if word = ['-'] then []
  else (fields '+' word).map fun digits => Char.ofNat (hexNumber digits)

/-! Syllables of the Korean script are made of two or three letters by count. -/

def leadBase : Nat := 0x1100
def vowelBase : Nat := 0x1161
def tailBase : Nat := 0x11a7
def syllableBase : Nat := 0xac00
def leadCount : Nat := 19
def vowelCount : Nat := 21
def tailCount : Nat := 28

def syllableLetters? (c : Char) : Option (List Char) :=
  let index := c.toNat - syllableBase
  if syllableBase ≤ c.toNat ∧ index < leadCount * vowelCount * tailCount then
    let lead := leadBase + index / (vowelCount * tailCount)
    let vowel := vowelBase + index / tailCount % vowelCount
    let tail := tailBase + index % tailCount
    some ((lead :: vowel :: if tail = tailBase then [] else [tail]).map Char.ofNat)
  else none

def syllable? (a b : Nat) : Option Nat :=
  let lead := a - leadBase
  let vowel := b - vowelBase
  let index := a - syllableBase
  let tail := b - tailBase
  if leadBase ≤ a ∧ lead < leadCount ∧ vowelBase ≤ b ∧ vowel < vowelCount then
    some (syllableBase + (lead * vowelCount + vowel) * tailCount)
  else if syllableBase ≤ a ∧ index < leadCount * vowelCount * tailCount ∧ index % tailCount = 0 ∧
      tailBase < b ∧ tail < tailCount then some (a + tail)
  else none

def image (c : Char) : List Char :=
  match syllableLetters? c with
  | some letters => letters
  | none =>
    match imageRuns.find? fun (first, last, _) => first ≤ c.toNat && c.toNat ≤ last with
    | some (first, _, words) =>
      imageOf c (((fields ' ' words.toList)[c.toNat - first]?).getD ['.'])
    | none => [c]

def markClass (c : Char) : Nat :=
  match markRuns.find? fun (first, last, _) => first ≤ c.toNat && c.toNat ≤ last with
  | some (_, _, k) => k
  | none => 0

/-- Put a mark in front of ordered text: behind the marks of lower classes. -/
def placeMark (mark : Char) : List Char → List Char
  | [] => [mark]
  | c :: rest =>
    if 0 < markClass c && markClass c < markClass mark then c :: placeMark mark rest
    else mark :: c :: rest

def order (text : List Char) : List Char := text.foldr placeMark []

def compositionOf? (letter : Nat) (word : List Char) : Option Nat :=
  match cut? '=' word with
  | some (a, b) => if hexNumber a = letter then some (hexNumber b) else none
  | none => none

def composite? (letter mark : Char) : Option Char :=
  let listed := (compositionRuns.filter (·.1 == mark.toNat)).findSome? fun (_, words) =>
    (fields ' ' words.toList).findSome? (compositionOf? letter.toNat)
  ((syllable? letter.toNat mark.toNat).or listed).map Char.ofNat

/-- Join a letter with the marks behind it that nothing keeps apart from it: the letter and what is
left. `last` is the class of the last mark that stays, zero for none. -/
def absorb (letter : Char) (last : Nat) : List Char → Char × List Char
  | [] => (letter, [])
  | mark :: rest =>
    let k := markClass mark
    if last ≠ 0 ∧ k = 0 then (letter, mark :: rest)
    else if last ≠ 0 ∧ k ≤ last then
      let joined := absorb letter last rest
      (joined.1, mark :: joined.2)
    else match composite? letter mark with
      | some whole => absorb whole last rest
      | none =>
        if k = 0 then (letter, mark :: rest)
        else
          let joined := absorb letter k rest
          (joined.1, mark :: joined.2)

theorem length_absorb_le (letter : Char) (last : Nat) (text : List Char) :
    (absorb letter last text).2.length ≤ text.length := by
  induction text generalizing letter last with
  | nil => simp [absorb]
  | cons mark rest ih =>
    simp only [absorb]
    split
    · simp
    · split
      · simpa using ih letter last
      · split
        · exact Nat.le_succ_of_le (ih _ last)
        · split
          · simp
          · simpa using ih letter (markClass mark)

def compose : List Char → List Char
  | [] => []
  | letter :: rest => (absorb letter 0 rest).1 :: compose (absorb letter 0 rest).2
termination_by text => text.length
decreasing_by
  have := length_absorb_le letter 0 rest
  simp only [List.length_cons]
  omega

def isProhibited (c : Char) : Bool := inRanges prohibitedRanges c.toNat
def isRight (c : Char) : Bool := inRanges rightRanges c.toNat
def isLeft (c : Char) : Bool := inRanges leftRanges c.toNat

/-- Whether a text runs one way: one with any letter written from right to left starts and ends with
one and has none written from left to right. -/
def runsOneWay (text : List Char) : Bool :=
  !text.any isRight ||
    (!text.any isLeft && text.head?.any isRight && text.getLast?.any isRight)

def prepare? (text : List Char) : Option (List Char) :=
  let common := compose (order (text.flatMap image))
  if !common.any isProhibited && runsOneWay common then some common else none

end Netboot.Text.Nameprep
