import Netboot.Address.Prefix
import Netboot.Decimal
import Netboot.Forwarder

/-! Settings of the process, read from variables with texts as values. -/

set_option autoImplicit false

namespace Netboot

structure Settings where
  serverRoot : String
  interface : String
  staticCidr : String
  controlplane : String := "controlplane.talos."
  gateway : Option String := none
  forwarder : Option String := none
  tftpRoot : Option String := none
  clientTimeout : Float := 10.0
  leaseTime : Int := 3600
  dnsTtl : Int := 60
  dnsPort : Int := 53
  dhcpPort : Int := 67
  tftpPort : Int := 69
  httpPort : Int := 8080
  pxePort : Int := 4011
  logLevel : String := "INFO"
  metricsEnabled : Bool := true
  metricsPort : Int := 9090

namespace Settings

inductive Fault where
  | staticCidr (text : String) (fault : Cidr.Fault)
  | gateway (text : String)
  | forwarder (text : String)
  | number (fault : Decimal.Fault)
  | integer (fault : Text.IntegerFault)
  | truth (text : String)
  deriving DecidableEq, Repr

def Fault.message : Fault → String
  | .staticCidr text fault => s!"Invalid STATIC_CIDR: {text}. {fault.message}"
  | .gateway text => s!"Invalid GATEWAY: {text}"
  | .forwarder text => s!"Invalid DNS: {text}"
  | .number fault => fault.message
  | .integer fault => fault.message
  | .truth text => s!"Invalid truth value: {text}"

abbrev Variables := List (String × String)

def textOr (vars : Variables) (name fallback : String) : String := (vars.lookup name).getD fallback

/-- A variable that counts as absent when it is empty. -/
def nonEmpty? (vars : Variables) (name : String) : Option String :=
  (vars.lookup name).filter (!·.isEmpty)

def integerOr (vars : Variables) (name : String) (fallback : Int) : Except Fault Int :=
  match vars.lookup name with
  | none => .ok fallback
  | some text => (Text.integer text).mapError .integer

def numberOr (vars : Variables) (name : String) (fallback : Float) : Except Fault Float :=
  match vars.lookup name with
  | none => .ok fallback
  | some text => (Decimal.read text).mapError .number

def truth (text : String) : Except Fault Bool :=
  match String.ofList (Text.lower text.toList) with
  | "y" | "yes" | "t" | "true" | "on" | "1" => .ok true
  | "" | "n" | "no" | "f" | "false" | "off" | "0" => .ok false
  | lower => .error (.truth lower)

def truthOr (vars : Variables) (name : String) (fallback : Bool) : Except Fault Bool :=
  match vars.lookup name with
  | none => .ok fallback
  | some text => truth text

def joinPath (directory name : String) : String :=
  if directory.isEmpty then name
  else if directory.toList.getLast? = some '/' then directory ++ name
  else directory ++ "/" ++ name

def absoluteName (name : String) : String :=
  let text := name.toList
  .ofList (Text.lower (if text.getLast? = some '.' then text else text ++ ['.']))

def checkedGateway (vars : Variables) : Except Fault (Option String) :=
  match nonEmpty? vars "GATEWAY" with
  | none => .ok none
  | some text => if (V4.parse? text).isSome then .ok (some text) else .error (.gateway text)

def checkedForwarder (vars : Variables) : Except Fault (Option String) :=
  match nonEmpty? vars "DNS" with
  | none => .ok none
  | some text => match Forwarder.normalize text with
    | .ok forwarder => .ok (some forwarder)
    | .error _ => .error (.forwarder text)

def variableNames : List String := [
  "SERVER_ROOT", "INTERFACE", "STATIC_CIDR", "GATEWAY", "DNS", "CONTROLPLANE", "TFTP_ROOT",
  "DHCP_CLIENT_TIMEOUT", "DHCP_LEASE_TIME", "DNS_TTL", "DNS_PORT", "DHCP_PORT", "TFTP_PORT",
  "HTTP_PORT", "PXE_PORT", "LOG_LEVEL", "METRICS_ENABLED", "METRICS_PORT"]

/-- Read all settings; of several bad variables the first in this order decides the fault. -/
def ofVariables (vars : Variables) : Except Fault Settings := do
  let serverRoot := textOr vars "SERVER_ROOT" "."
  let interface := textOr vars "INTERFACE" "eth0"
  let staticCidr := textOr vars "STATIC_CIDR" "192.168.123.1/24"
  let _ ← (Cidr.parse staticCidr).mapError (.staticCidr staticCidr)
  let gateway ← checkedGateway vars
  let forwarder ← checkedForwarder vars
  let controlplane := absoluteName (textOr vars "CONTROLPLANE" "controlplane.talos.")
  let tftpRoot := textOr vars "TFTP_ROOT" (joinPath serverRoot "tftp")
  let clientTimeout ← numberOr vars "DHCP_CLIENT_TIMEOUT" 10.0
  let leaseTime ← integerOr vars "DHCP_LEASE_TIME" 3600
  let dnsTtl ← integerOr vars "DNS_TTL" 60
  let dnsPort ← integerOr vars "DNS_PORT" 53
  let dhcpPort ← integerOr vars "DHCP_PORT" 67
  let tftpPort ← integerOr vars "TFTP_PORT" 69
  let httpPort ← integerOr vars "HTTP_PORT" 8080
  let pxePort ← integerOr vars "PXE_PORT" 4011
  let logLevel := textOr vars "LOG_LEVEL" "INFO"
  let metricsEnabled ← truthOr vars "METRICS_ENABLED" true
  let metricsPort ← integerOr vars "METRICS_PORT" 9090
  return {
    serverRoot, interface, staticCidr, controlplane, gateway, forwarder
    tftpRoot := some tftpRoot
    clientTimeout, leaseTime, dnsTtl, dnsPort, dhcpPort, tftpPort, httpPort, pxePort
    logLevel, metricsEnabled, metricsPort }

end Settings

end Netboot
