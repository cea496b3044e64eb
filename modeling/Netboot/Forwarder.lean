import Netboot.Address.V4
import Netboot.Text.Integer

/-! Name servers that queries are passed on to, written `host` or `host:port`. -/

set_option autoImplicit false

namespace Netboot

structure Forwarder where
  host : String
  port : Int
  deriving DecidableEq, Repr

namespace Forwarder

def defaultPort : Int := 53

/-- The parts around the last colon; without a host before it the other part is the host. -/
def parts (text : List Char) : List Char × Option (List Char) :=
  match Text.cutLast? ':' text with
  | none => (text, none)
  | some ([], host) => (host, none)
  | some (host, port) => (host, some port)

inductive Fault where
  | address (fault : V4.Fault)
  | port (text : String)
  | integer (fault : Text.IntegerFault)
  deriving DecidableEq, Repr

def Fault.message : Fault → String
  | .address fault => fault.message
  | .port text => s!"Invalid forwarder port in {Text.quoted text}"
  | .integer fault => fault.message

def normalize (text : String) : Except Fault String := do
  let (host, port) := parts (Text.strip text.toList)
  let port := port.getD ['5', '3']
  let _ ← (V4.parse (.ofList host)).mapError .address
  if !Text.isDigits port then .error (.port text)
  let number ← (Text.integer (.ofList port)).mapError .integer
  if 0 < number && number < 65536 then return .ofList (host ++ ':' :: port)
  else .error (.port text)

def split (text : String) : Except Text.IntegerFault Forwarder :=
  match parts text.toList with
  | (host, none) => .ok ⟨.ofList host, defaultPort⟩
  | (host, some port) => (Text.integer (.ofList port)).map fun port => ⟨.ofList host, port⟩

end Forwarder

end Netboot
