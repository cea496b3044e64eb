import Netboot.Dns.Name

/-! Readers of what a message on the wire holds: words, bytes and names. -/

set_option autoImplicit false

namespace Netboot.Dns

structure Cursor where
  position : Nat
  stop : Nat
  deriving DecidableEq, Repr

abbrev Reader := ReaderT (Array UInt8) (StateT Cursor Option)

namespace Reader

def take (count : Nat) : Reader Bytes := fun message cursor =>
  if cursor.position + count ≤ cursor.stop then
    some ((message.extract cursor.position (cursor.position + count)).toList,
      { cursor with position := cursor.position + count })
  else none

def word (width : Nat) : Reader Nat := return (← take width).toNat

def rest : Reader Bytes := do
  let cursor ← getThe Cursor
  take (cursor.stop - cursor.position)

def within {α : Type} (count : Nat) (reader : Reader α) : Reader α := fun message cursor => do
  if cursor.position + count ≤ cursor.stop then
    let stop := cursor.position + count
    let (value, after) ← reader message { cursor with stop := stop }
    if after.position = stop then return (value, { after with stop := cursor.stop }) else none
  else none

def times {α : Type} (reader : Reader α) : (count : Nat) → Reader (List α)
  | 0 => return []
  | count + 1 => do
    let value ← reader
    return value :: (← times reader count)

def pointerLimit : Nat := 16

/-- The labels of a name from `position` on, and the furthest place that was read. A pointer leads
before `bound`, where the part of the name that holds it began; `pointers` is how many may follow. -/
def labels (message : Array UInt8) (stop pointers bound position furthest : Nat) :
    Option (List Label × Nat) :=
  if position < stop then
    let count := (message.getD position 0).toNat
    if count = 0 then some ([], max furthest (position + 1))
    else if count < 64 then
      let next := position + 1 + count
      if next ≤ stop then
        (labels message stop pointers bound next (max furthest next)).map fun (rest, furthest) =>
          ((message.extract (position + 1) next).toList :: rest, furthest)
      else none
    else if 192 ≤ count ∧ position + 1 < stop then
      let target := count % 64 * 256 + (message.getD (position + 1) 0).toNat
      match pointers with
      | 0 => none
      | pointers + 1 =>
        if target < bound then labels message stop pointers target target (max furthest (position + 2))
        else none
    else none
  else none
termination_by (pointers, stop - position)
decreasing_by
  · exact Prod.Lex.right _ (by omega)
  · exact Prod.Lex.left _ _ (by omega)

def nameWithin (pointers : Nat) : Reader Name := fun message cursor => do
  let (labels, furthest) ← labels message cursor.stop pointers cursor.position cursor.position
    cursor.position
  let name : Name := ⟨labels, true⟩
  if name.size ≤ Name.maxSize then return (name, { cursor with position := furthest }) else none

def name : Reader Name := nameWithin pointerLimit

def counted (width : Nat) : Reader Bytes := do
  let count ← take width
  return count ++ (← take count.toNat)

def check (condition : Bool) : Reader Unit := fun _ cursor =>
  if condition then some ((), cursor) else none

def required {α : Type} (value : Option α) : Reader α := fun _ cursor => value.map (·, cursor)

/-- What one reader takes again and again up to the end; `fuel` bounds how often. -/
def toEnd {α : Type} (reader : Reader α) : (fuel : Nat) → Reader (List α)
  | 0 => return []
  | fuel + 1 => do
    let cursor ← getThe Cursor
    if cursor.position = cursor.stop then return []
    let first ← reader
    return first :: (← toEnd reader fuel)

def left : Reader Nat := do
  let cursor ← getThe Cursor
  return cursor.stop - cursor.position

def run {α : Type} (reader : Reader α) (bytes : Bytes) : Option α :=
  (reader bytes.toArray ⟨0, bytes.length⟩).map (·.1)

end Reader

end Netboot.Dns
