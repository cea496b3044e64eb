import Netboot.Address.V4
import Netboot.Query
import Netboot.Text.Case

/-! What a machine tells about itself in a boot request, and the role it selected. -/

set_option autoImplicit false

namespace Netboot

inductive Role where
  | init
  | controlplane
  | worker
  | unknown
  deriving DecidableEq, Repr

namespace Role

def name : Role → String
  | .init => "init"
  | .controlplane => "controlplane"
  | .worker => "worker"
  | .unknown => "unknown"

/-- The role a text names, in any letter case and with blanks around it. -/
def parse (text : String) : Role :=
  match String.ofList (Text.lower (Text.strip text.toList)) with
  | "init" => .init
  | "controlplane" => .controlplane
  | "worker" => .worker
  | _ => .unknown

def elects : Role → Bool
  | .init | .controlplane => true
  | .worker | .unknown => false

end Role

structure Selection where
  uuid : String := ""
  mac : String := ""
  ip : String := ""
  hostname : String := ""
  serial : String := ""
  domain : String := ""
  role : Role := .unknown
  deriving DecidableEq, Repr

namespace Selection

def ofPairs (pairs : List (String × String)) : Selection where
  uuid := Query.lastValue pairs "uuid"
  mac := Query.lastValue pairs "mac"
  ip := Query.lastValue pairs "ip"
  hostname := Query.lastValue pairs "hostname"
  serial := Query.lastValue pairs "serial"
  domain := Query.lastValue pairs "domain"
  role := Role.parse (Query.lastValue pairs "type")

def ofChars (text : List Char) : Except Query.Fault Selection :=
  (Query.pairsOfChars text).map ofPairs

def ofQuery (query : Bytes) : Except Query.Fault Selection := (Query.pairs query).map ofPairs

/-- The address the machine announces, if it is one. -/
def address (selection : Selection) : Option V4 := V4.parse? selection.ip

end Selection

end Netboot
