import Netboot.Dhcp.Client
import Netboot.Forwarder
import Netboot.Host
import Netboot.Interface
import Netboot.Settings

/-! Bringing the interface up and choosing the mode: a proxy where another server leases an
address to this machine, else an authority of its own. -/

set_option autoImplicit false

namespace Netboot.Bootstrap

inductive Fault where
  | interface (fault : Interface.Fault)
  | range (fault : Range.Fault)
  | cidr (fault : Cidr.Fault)
  | gateway (fault : V4.Fault)
  | negotiation (reason : String)
  deriving DecidableEq, Repr

def Fault.message : Fault → String
  | .interface fault => fault.message
  | .range fault => fault.message
  | .cidr fault => fault.message
  | .gateway fault => fault.message
  | .negotiation reason => reason

/-- How the search for another server ends. A network that cannot be used counts as one without a
server; `broken` is a failure of another kind. -/
inductive Negotiation where
  | settled (lease : Option Dhcp.ObtainedLease)
  | unusable
  | broken (reason : String)
  deriving DecidableEq, Repr

inductive Plan (α : Type) where
  | done (value : α)
  | fail (fault : Fault)
  | run (command : Interface.Command) (next : Interface.Outcome → Plan α)
  | negotiate (interface : String) (timeout : Float) (next : Negotiation → Plan α)

namespace Plan

variable {α β : Type}

def bind : Plan α → (α → Plan β) → Plan β
  | .done value, rest => rest value
  | .fail fault, _ => .fail fault
  | .run command next, rest => .run command fun outcome => (next outcome).bind rest
  | .negotiate interface timeout next, rest =>
    .negotiate interface timeout fun outcome => (next outcome).bind rest

instance : Monad Plan where
  pure := .done
  bind := .bind

def ofExcept : Except Fault α → Plan α
  | .ok value => .done value
  | .error fault => .fail fault

def command (command : Interface.Command) : Plan Unit :=
  .run command fun outcome => ofExcept ((command.result outcome).mapError .interface)

def lease (interface : String) (timeout : Float) : Plan (Option Dhcp.ObtainedLease) :=
  .negotiate interface timeout fun
    | .settled lease => .done lease
    | .unusable => .done none
    | .broken reason => .fail (.negotiation reason)

end Plan

structure Base where
  ip : V4
  gateway : V4
  forwarders : List String
  mode : Mode

def setGateways (interface : String) : List V4 → Plan Unit
  | [] => pure ()
  | router :: rest => do
    Plan.command (.gateway interface router)
    setGateways interface rest

def proxy (settings : Settings) (lease : Dhcp.ObtainedLease) : Plan Base := do
  let cidr ← Plan.ofExcept (lease.cidr.mapError .cidr)
  Plan.command (.address settings.interface cidr)
  setGateways settings.interface lease.routers
  return {
    ip := lease.address
    gateway := lease.routers.head?.getD lease.address
    forwarders := lease.nameServers.map fun server => s!"{server}:53"
    mode := .proxy cidr.network }

def authoritative (settings : Settings) : Plan Base := do
  let cidr ← Plan.ofExcept ((Cidr.parse settings.staticCidr).mapError .cidr)
  let mode ← Plan.ofExcept ((Mode.ofNetwork cidr.network cidr.address).mapError .range)
  Plan.command (.address settings.interface cidr)
  return { ip := cidr.address, gateway := cidr.address, forwarders := [], mode := mode }

def defaultForwarder : String := "1.1.1.1:53"

def nonEmpty? (text : Option String) : Option String := text.filter (!·.isEmpty)

def gateway (settings : Settings) (base : V4) : Except Fault V4 :=
  match nonEmpty? settings.gateway with
  | some text => (V4.parse text).mapError .gateway
  | none => .ok base

/-- Settings win over what the mode brings along. -/
def host (settings : Settings) (base : Base) : Except Fault Host := do
  let gateway ← gateway settings base.gateway
  let forwarders := match nonEmpty? settings.forwarder with
    | some forwarder => [forwarder]
    | none => base.forwarders
  return {
    ip := base.ip
    gateway := gateway
    forwarders := if forwarders.isEmpty then [defaultForwarder] else forwarders
    mode := base.mode
    interface := settings.interface
    serverRoot := settings.serverRoot
    tftpRoot := (nonEmpty? settings.tftpRoot).getD settings.serverRoot
    controlplane := settings.controlplane
    ports := {
      dns := settings.dnsPort
      dhcp := settings.dhcpPort
      tftp := settings.tftpPort
      http := settings.httpPort
      pxe := settings.pxePort }
    leaseTime := settings.leaseTime
    dnsTtl := settings.dnsTtl }

def select (settings : Settings) (links : List Interface.Link) : Plan Host := do
  let _ ← Plan.ofExcept ((Interface.usable links).mapError .interface)
  Plan.command (.up settings.interface)
  let base ← match ← Plan.lease settings.interface settings.clientTimeout with
    | some lease => proxy settings lease
    | none => authoritative settings
  Plan.ofExcept (host settings base)

structure Trace where
  commands : List (List String) := []
  asked : List (String × Float) := []
  deriving Repr

/-- Carry out a plan where commands end with the given outcomes, and with success after those. -/
def Plan.follow {α : Type} (outcomes : List Interface.Outcome) (negotiation : Negotiation)
    (trace : Trace) : Plan α → Trace × Except Fault α
  | .done value => (trace, .ok value)
  | .fail fault => (trace, .error fault)
  | .run command next =>
    (next (outcomes.head?.getD .success)).follow outcomes.tail negotiation
      { trace with commands := trace.commands ++ ["ip" :: command.arguments] }
  | .negotiate interface timeout next =>
    (next negotiation).follow outcomes negotiation
      { trace with asked := trace.asked ++ [(interface, timeout)] }

end Netboot.Bootstrap
