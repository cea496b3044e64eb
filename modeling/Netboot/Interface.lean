import Netboot.Address.Prefix
import Netboot.Text.Utf8

/-! Network interfaces: which of them serve, and the commands that configure one. -/

set_option autoImplicit false

namespace Netboot.Interface

structure Link where
  name : String
  inet : List String
  hardware : List String
  deriving DecidableEq, Repr

inductive Fault where
  | noneUsable
  | address (fault : V4.Fault)
  | commandMissing
  | commandFailed (arguments : List String) (reason : String)
  deriving DecidableEq, Repr

def Fault.message : Fault → String
  | .noneUsable => "Could not find any non-loopback interfaces"
  | .address fault => fault.message
  | .commandMissing => "ip command not found, install iproute2"
  | .commandFailed arguments reason =>
    "ip " ++ " ".intercalate arguments ++ " failed: " ++ reason

/-- Whether one of the addresses is a loopback address; those behind the first one do not count. -/
def anyLoopback : List String → Except V4.Fault Bool
  | [] => .ok false
  | text :: rest => do
    if (← V4.parse text).isLoopback then return true else anyLoopback rest

def isHardware (address : String) : Bool := !address.isEmpty && address != "00:00:00:00:00:00"

def Link.usable (link : Link) : Except V4.Fault Bool := do
  if ← anyLoopback link.inet then return false
  return link.hardware.any isHardware

def usable (links : List Link) : Except Fault (List String) := do
  let kept ← (links.filterM Link.usable).mapError .address
  if kept.isEmpty then throw .noneUsable
  return kept.map (·.name)

inductive Command where
  | up (interface : String)
  | address (interface : String) (cidr : Cidr)
  | gateway (interface : String) (router : V4)

def Command.arguments : Command → List String
  | .up interface => ["link", "set", "dev", interface, "up"]
  | .address interface cidr => ["addr", "add", cidr.text, "dev", interface]
  | .gateway interface router =>
    ["route", "add", "default", "via", router.text, "dev", interface]

inductive Outcome where
  | missing
  | exited (code : Int) (stderr : Bytes)
  deriving DecidableEq, Repr

def Outcome.success : Outcome := .exited 0 []

def alreadyExists : List Char := "File exists".toList

def complaint (stderr : Bytes) : List Char := Text.strip (Text.decodeValid stderr)

def Command.result (command : Command) : Outcome → Except Fault Unit
  | .missing => .error .commandMissing
  | .exited code stderr =>
    let complaint := complaint stderr
    if code = 0 ∨ Text.occurs alreadyExists complaint then .ok ()
    else .error (.commandFailed command.arguments
      (if complaint.isEmpty then toString code else .ofList complaint))

end Netboot.Interface
