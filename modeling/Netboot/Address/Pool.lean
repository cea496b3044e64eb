import Netboot.Address.Range

/-! The addresses of a range that are handed out, one bit each. -/

set_option autoImplicit false

namespace Netboot

/-- Bit `i % 8` of byte `i / 8` tells whether the address `i` places into the range is taken.
`used` counts the bits that are set. -/
structure Pool where
  range : Range
  bits : Array UInt8
  used : Nat

namespace Pool

def size (pool : Pool) : Nat := pool.range.size

def available (pool : Pool) : Nat := pool.size - pool.used

def contains (pool : Pool) (a : V4) : Bool := pool.range.contains a

def offset (pool : Pool) (a : V4) : Nat := a.toNat - pool.range.first.toNat

def mask (i : Nat) : UInt8 := 1 <<< UInt8.ofNat (i % 8)

def test (pool : Pool) (i : Nat) : Bool := pool.bits.getD (i / 8) 0 &&& mask i != 0

def set (pool : Pool) (i : Nat) : Pool :=
  if pool.test i then pool
  else { pool with bits := pool.bits.modify (i / 8) (· ||| mask i), used := pool.used + 1 }

def clear (pool : Pool) (i : Nat) : Pool :=
  if pool.test i then
    { pool with bits := pool.bits.modify (i / 8) (· &&& ~~~ mask i), used := pool.used - 1 }
  else pool

def empty (range : Range) : Pool where
  range := range
  bits := Array.replicate ((range.size + 7) / 8) 0
  used := 0

def reserve (pool : Pool) (a : V4) : Pool :=
  if pool.contains a then pool.set (pool.offset a) else pool

def ofReserved (range : Range) (reserved : List V4) : Pool := reserved.foldl reserve (empty range)

def isAllocated (pool : Pool) (a : V4) : Bool := pool.contains a && pool.test (pool.offset a)

structure Exhausted where
  range : Range
  deriving DecidableEq, Repr

def Exhausted.message (exhausted : Exhausted) : String := s!"no free address in {exhausted.range}"

def clearBitOf? (pool : Pool) (index : Nat) (byte : UInt8) : Option Nat :=
  ((List.range 8).find? fun bit => index * 8 + bit ≥ pool.size || byte &&& mask bit == 0).bind
    fun bit => if index * 8 + bit < pool.size then some (index * 8 + bit) else none

/-- The lowest clear bit from byte `index` on; bytes without a clear bit are skipped whole. -/
def clearBitFrom? (pool : Pool) (index : Nat) : Option Nat :=
  if h : index < pool.bits.size then
    let byte := pool.bits[index]
    if byte == 0xff then clearBitFrom? pool (index + 1)
    else match clearBitOf? pool index byte with
      | some i => some i
      | none => clearBitFrom? pool (index + 1)
  else none
termination_by pool.bits.size - index

def take (pool : Pool) (i : Nat) : V4 × Pool := (.ofNat (pool.range.first.toNat + i), pool.set i)

def allocateLowest (pool : Pool) : Except Exhausted (V4 × Pool) :=
  if pool.size ≤ pool.used then .error ⟨pool.range⟩
  else match pool.clearBitFrom? 0 with
    | some i => .ok (pool.take i)
    | none => .error ⟨pool.range⟩

def allocate (pool : Pool) (hint : Option V4) : Except Exhausted (V4 × Pool) :=
  match hint with
  | some a =>
    if pool.contains a && !pool.test (pool.offset a) then .ok (a, pool.set (pool.offset a))
    else pool.allocateLowest
  | none => pool.allocateLowest

/-- Give an address back, and tell whether it was taken. -/
def free (pool : Pool) (a : V4) : Pool × Bool :=
  if pool.isAllocated a then (pool.clear (pool.offset a), true) else (pool, false)

def fill (pool : Pool) : (n : Nat) → Pool × List V4 × Option Exhausted
  | 0 => (pool, [], none)
  | n + 1 =>
    match pool.allocate none with
    | .error exhausted => (pool, [], some exhausted)
    | .ok (a, next) =>
      let (last, taken, refusal) := next.fill n
      (last, a :: taken, refusal)

end Pool

end Netboot
