import Netboot.Text.Case
import Netboot.Text.Integer

/-! Binary floating point numbers and their decimal text.

Reading rounds the exact decimal to the nearest double, a tie to the even one. Writing chooses the
fewest digits that read back, and of those the nearest to the number. Both work on naturals.
-/

set_option autoImplicit false

namespace Netboot.Decimal

structure Scaled where
  digits : Nat
  exponent : Int
  deriving DecidableEq, Repr

/-- The quotient nearest to `num / den`, a tie to the even one. -/
def roundDiv (num den : Nat) : Nat :=
  let q := num / den
  let r := num % den
  if 2 * r < den then q else if den < 2 * r then q + 1 else q + q % 2

/-- `m · 2 ^ q` with `m < 2 ^ 53`, or `2 ^ 53` after a carry, as the bits of a double. -/
def bitsOf (m : Nat) (q : Int) : Nat :=
  if m < 2 ^ 52 then m
  else
    let field := (q + 1075).toNat
    if 2047 ≤ field + (m / 2 ^ 53) then 2047 * 2 ^ 52 else field * 2 ^ 52 + (m - 2 ^ 52)

def nearestBits (num den : Nat) : Nat :=
  if num = 0 then 0
  else
    let guess : Int := (num.log2 : Int) - (den.log2 : Int)
    let log2 := if num * 2 ^ (-guess).toNat < den * 2 ^ guess.toNat then guess - 1 else guess
    let q := max (log2 - 52) (-1074)
    bitsOf (roundDiv (num * 2 ^ (-q).toNat) (den * 2 ^ q.toNat)) q

def nearest (negative : Bool) (x : Scaled) : Float :=
  let length : Int := (Nat.toDigits 10 x.digits).length
  let bits :=
    if x.digits = 0 || length + x.exponent < -400 then 0
    else if 400 < length + x.exponent then 2047 * 2 ^ 52
    else nearestBits (x.digits * 10 ^ x.exponent.toNat) (10 ^ (-x.exponent).toNat)
  Float.ofBits (UInt64.ofNat (bits + (if negative then 2 ^ 63 else 0)))

/-- A positive double as `m · 2 ^ q`. -/
def significand (bits : Nat) : Nat × Int :=
  let field : Nat := bits / 2 ^ 52 % 2048
  let part : Nat := bits % 2 ^ 52
  if field = 0 then (part, -1074) else (part + 2 ^ 52, (field : Int) - 1075)

def truncate? (x : Float) : Option Int :=
  let bits := x.toBits.toNat
  let size := bits % 2 ^ 63
  if 2047 * 2 ^ 52 ≤ size then none
  else
    let (m, q) := significand size
    let whole : Int := m * 2 ^ q.toNat / 2 ^ (-q).toNat
    some (if 2 ^ 63 ≤ bits then -whole else whole)

/-- The place `p` with `10 ^ (p - 1) ≤ num / den < 10 ^ p`, looking upwards from `p`. -/
def placeFrom (num den : Nat) (p : Int) : (steps : Nat) → Int
  | 0 => p
  | steps + 1 =>
    if num * 10 ^ (-p).toNat < den * 10 ^ p.toNat then p else placeFrom num den (p + 1) steps

/-- The digits of the candidate nearest to `mid` that lies between `low` and `high`, on the grid
whose unit is `a / b` of theirs. -/
def gridPoint? (low mid high a b : Nat) (closed : Bool) : Option Nat :=
  let inside (c : Nat) : Bool :=
    if closed then low * b ≤ c * a && c * a ≤ high * b else low * b < c * a && c * a < high * b
  let floor := mid * b / a
  let nearer := roundDiv (mid * b) a
  let other := if nearer = floor then floor + 1 else floor
  if inside nearer then some nearer else if inside other then some other else none

/-- The fewest digits that read back as the positive double `m · 2 ^ q`, and the place of the
point counted from the first digit. -/
def shortest (m : Nat) (q : Int) : List Char × Int :=
  let narrow := m = 2 ^ 52 && -1074 < q
  let low := if narrow then 4 * m - 1 else 4 * m - 2
  let high := 4 * m + 2
  let s := q - 2
  let up := s.toNat
  let down := (-s).toNat
  let place := placeFrom (4 * m * 2 ^ up) (2 ^ down)
    (((m.log2 : Int) + q) * 30103 / 100000 - 1) 4
  let found := (List.range 17).findSome? fun (i : Nat) =>
    let e : Int := place - (i + 1 : Nat)
    (gridPoint? low (4 * m) high (10 ^ e.toNat * 2 ^ down) (10 ^ (-e).toNat * 2 ^ up)
      (m % 2 == 0)).map fun c => (c, e)
  match found with
  | some (c, e) =>
    let digits := Nat.toDigits 10 c
    let trimmed := Text.dropEndWhile (· == '0') digits
    (trimmed, e + digits.length)
  | none => ([], place)

/-- Positional from four zeros behind the point up to sixteen digits before it, with a full stop
always; otherwise a power of ten with a sign and at least two digits. -/
def layout (digits : List Char) (place : Int) : List Char :=
  if -4 < place && place ≤ 16 then
    if place ≤ 0 then '0' :: '.' :: List.replicate (-place).toNat '0' ++ digits
    else
      let whole := digits.take place.toNat
      let part := digits.drop place.toNat
      whole ++ List.replicate (place.toNat - digits.length) '0' ++
        '.' :: (if part.isEmpty then ['0'] else part)
  else
    let power := place - 1
    let powerDigits := Nat.toDigits 10 power.natAbs
    digits.take 1 ++ (if 1 < digits.length then '.' :: digits.drop 1 else []) ++
      ['e', if power < 0 then '-' else '+'] ++
      List.replicate (2 - powerDigits.length) '0' ++ powerDigits

def chars (x : Float) : List Char :=
  let bits := x.toBits.toNat
  let size := bits % 2 ^ 63
  let body :=
    if size = 0 then ['0', '.', '0']
    else if 2047 * 2 ^ 52 < size then ['n', 'a', 'n']
    else if size = 2047 * 2 ^ 52 then ['i', 'n', 'f']
    else
      let (m, q) := significand size
      let (digits, place) := shortest m q
      layout digits place
  if 2 ^ 63 ≤ bits && size ≤ 2047 * 2 ^ 52 then '-' :: body else body

def text (x : Float) : String := .ofList (chars x)

structure Fault where
  text : String
  deriving DecidableEq, Repr

def Fault.message (fault : Fault) : String :=
  s!"could not convert string to float: {Text.quoted fault.text}"

def takeDigits : List Char → List Nat × List Char
  | [] => ([], [])
  | c :: rest =>
    match Text.digitValue? c, rest with
    | some d, '_' :: n :: more =>
      if (Text.digitValue? n).isSome then
        let (ds, after) := takeDigits (n :: more)
        (d :: ds, after)
      else ([d], rest)
    | some d, rest =>
      let (ds, after) := takeDigits rest
      (d :: ds, after)
    | none, rest => ([], c :: rest)

def exponent? : List Char → Option Int
  | [] => some 0
  | e :: rest =>
    if e = 'e' ∨ e = 'E' then
      let (negative, rest) := Text.takeSign rest
      match takeDigits rest with
      | ([], _) => none
      | (ds, []) => some (if negative then -(Text.ofDigits ds : Int) else (Text.ofDigits ds : Int))
      | _ => none
    else none

def scaled? (text : List Char) : Option Scaled :=
  let (whole, rest) := takeDigits text
  let (part, rest) := match rest with
    | '.' :: more => takeDigits more
    | rest => ([], rest)
  if whole.isEmpty && part.isEmpty then none
  else (exponent? rest).map fun e => ⟨Text.ofDigits (whole ++ part), e - part.length⟩

def signed (negative : Bool) (x : Float) : Float := if negative then -x else x

def read (text : String) : Except Fault Float :=
  let (negative, body) := Text.takeSign (Text.stripNumeral text.toList)
  match String.ofList (body.map Text.lowerAscii) with
  | "inf" | "infinity" => .ok (signed negative (1.0 / 0.0))
  | "nan" => .ok (0.0 / 0.0)
  | _ =>
    match scaled? body with
    | some x => .ok (nearest negative x)
    | none => .error ⟨text⟩

end Netboot.Decimal
