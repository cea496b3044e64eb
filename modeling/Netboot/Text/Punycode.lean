import Netboot.Text.Digit

/-! Punycode: text of any script in ASCII letters, digits and dashes. The characters outside ASCII
follow in the order of their numbers, each as its distance from the one before. -/

set_option autoImplicit false

namespace Netboot.Text.Punycode

def digitChar (value : Nat) : Char :=
  if value < 26 then Char.ofNat ('a'.toNat + value) else Char.ofNat ('0'.toNat + (value - 26))

/-- How much the digit at a place holds back for the next; `place` counts by 36. -/
def threshold (bias place : Nat) : Nat := max 1 (min 26 (place - bias))

theorem one_le_threshold (bias place : Nat) : 1 ≤ threshold bias place := by
  unfold threshold
  omega

theorem threshold_le (bias place : Nat) : threshold bias place ≤ 26 := by
  unfold threshold
  omega

def digits (bias place number : Nat) : List Char :=
  let t := threshold bias place
  if number < t then [digitChar number]
  else digitChar (t + (number - t) % (36 - t)) ::
    digits bias (place + 36) ((number - t) / (36 - t))
termination_by number
decreasing_by
  have low := one_le_threshold bias place
  have high := threshold_le bias place
  have : (number - threshold bias place) / (36 - threshold bias place) ≤
      number - threshold bias place := Nat.div_le_self _ _
  omega

def scale (place delta : Nat) : Nat × Nat :=
  if 455 < delta then scale (place + 36) (delta / 35) else (place, delta)
termination_by delta
decreasing_by omega

/-- The bias after a distance has been written as the `count`th. -/
def adapt (delta count : Nat) (first : Bool) : Nat :=
  let start := if first then delta / 700 else delta / 2
  let (place, rest) := scale 0 (start + start / count)
  place + 36 * rest / (rest + 38)

/-- How far an encoder is: the distance since the last character written, the bias, and the number
of characters written. -/
structure Progress where
  delta : Nat
  bias : Nat
  written : Nat
  deriving DecidableEq, Repr

def pass (basic next : Nat) (progress : Progress) : List Char → List Char × Progress
  | [] => ([], progress)
  | c :: rest =>
    if c.toNat < next then pass basic next { progress with delta := progress.delta + 1 } rest
    else if c.toNat = next then
      let bias := adapt progress.delta (progress.written + 1) (progress.written == basic)
      let (more, progress') := pass basic next ⟨0, bias, progress.written + 1⟩ rest
      (digits progress.bias 36 progress.delta ++ more, progress')
    else pass basic next progress rest

def passes (basic least : Nat) (progress : Progress) (text : List Char) : List Nat → List Char
  | [] => []
  | next :: others =>
    let distance := (next - least) * (progress.written + 1)
    let (written, progress) :=
      pass basic next { progress with delta := progress.delta + distance } text
    written ++ passes basic (next + 1) { progress with delta := progress.delta + 1 } text others

def wideNumbers (text : List Char) : List Nat :=
  (((text.map (·.toNat)).filter (0x80 ≤ ·)).mergeSort).eraseReps

def encode (text : List Char) : List Char :=
  let basic := text.filter (·.toNat < 0x80)
  let wide := passes basic.length 0x80 ⟨0, 72, basic.length⟩ text (wideNumbers text)
  if basic.isEmpty then wide else basic ++ '-' :: wide

end Netboot.Text.Punycode
