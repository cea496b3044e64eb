import Netboot.Files

/-! File transfer from a fixed root: which file a requested name selects, and its chunks. -/

set_option autoImplicit false

namespace Netboot.Tftp

inductive Fault where
  | outside (name : Bytes)
  | path (fault : Files.Fault)
  | writeRefused (name : Bytes)
  | chunkSize (size : Int)
  deriving DecidableEq, Repr

def backslash : UInt8 := 0x5c

/-- The names of a request: a backslash separates as a slash does, leading slashes do not make the
request absolute, and the names that stand for no step are left out. -/
def requestedNames (name : Bytes) : List Files.Name :=
  let parts := Files.segments (name.map fun b => if b = backslash then Files.slash else b)
  parts.filter fun part => part ≠ [] ∧ part ≠ Files.dot

def locate (files : Files.Node) (root : Files.Path) (name : Bytes) : Except Fault Files.Path := do
  let base ← (Files.resolve files root).mapError .path
  let path ← (Files.resolve files (base ++ requestedNames name)).mapError .path
  if base.isPrefixOf path then return path else throw (.outside name)

/-- In text mode a line ends in CR LF, and a lone CR is followed by NUL. -/
def textByte (b : UInt8) : Bytes :=
  if b = 0x0a then [0x0d, 0x0a] else if b = 0x0d then [0x0d, 0] else [b]

def textMode : Bytes := Bytes.ofString "netascii"

/-- A file on its way. `rest` is still to be read; `pending` was read in text mode but did not fit
the last chunk. -/
structure Transfer where
  path : Files.Path
  text : Bool
  size : Nat
  rest : Bytes
  pending : Bytes := []
  finished : Bool := false
  deriving Repr

/-- Split off `size` bytes; -1 stands for all of them. -/
def split (size : Int) (bytes : Bytes) : Except Fault (Bytes × Bytes) :=
  if size = -1 then .ok (bytes, [])
  else if size < 0 then .error (.chunkSize size)
  else .ok (bytes.take size.toNat, bytes.drop size.toNat)

/-- The bytes that fit a chunk, where a negative size counts from the end. -/
def fitting (size : Int) (bytes : Bytes) : Nat :=
  if size < 0 then bytes.length - size.natAbs else size.toNat

namespace Transfer

def start (files : Files.Node) (root : Files.Path) (name mode : Bytes) : Except Fault Transfer := do
  let path ← locate files root name
  let content ← (Files.read files path).mapError .path
  return ⟨path, mode == textMode, content.length, content, [], false⟩

def take (transfer : Transfer) (size : Int) : Except Fault (Bytes × Transfer) :=
  if transfer.text then do
    let (raw, rest) ← split (size - transfer.pending.length) transfer.rest
    let ready := transfer.pending ++ raw.flatMap textByte
    let count := fitting size ready
    return (ready.take count, { transfer with rest := rest, pending := ready.drop count })
  else do
    let (raw, rest) ← split size transfer.rest
    return (raw, { transfer with rest := rest })

/-- The next chunk. One that is empty, or shorter than asked for, is the last. -/
def next (transfer : Transfer) (size : Int) : Except Fault (Bytes × Transfer) :=
  if transfer.finished then .ok ([], transfer)
  else do
    let (chunk, transfer) ← transfer.take size
    let last := chunk.isEmpty || (0 < size && (chunk.length : Int) < size)
    return (chunk, { transfer with finished := last })

/-- The next `count` chunks, each with whether it was the last. After one that cannot be read the
transfer stands where it stood. -/
def chunks (transfer : Transfer) (size : Int) : (count : Nat) → List (Except Fault (Bytes × Bool))
  | 0 => []
  | count + 1 =>
    match transfer.next size with
    | .ok (chunk, transfer) => .ok (chunk, transfer.finished) :: transfer.chunks size count
    | .error fault => .error fault :: transfer.chunks size count

end Transfer

def select (files : Files.Node) (root : Files.Path) (write : Bool) (name mode : Bytes) :
    Except Fault Transfer :=
  if write then .error (.writeRefused name) else Transfer.start files root name mode

end Netboot.Tftp
