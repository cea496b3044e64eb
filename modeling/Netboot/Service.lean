import Netboot.Host
import Netboot.Socket

/-! The five services of a host: where each listens, how it opens its socket, and how its loop
goes. -/

set_option autoImplicit false

namespace Netboot

inductive Service where
  | pxe
  | tftp
  | http
  | dhcp
  | dns
  deriving DecidableEq, Repr

namespace Service

def all : List Service := [.pxe, .tftp, .http, .dhcp, .dns]

def name : Service → String
  | .pxe => "pxe"
  | .tftp => "tftp"
  | .http => "http"
  | .dhcp => "dhcp"
  | .dns => "dns"

def ofName? (name : String) : Option Service := all.find? (·.name == name)

def port (host : Host) : Service → Int
  | .pxe => host.ports.pxe
  | .tftp => host.ports.tftp
  | .http => host.ports.http
  | .dhcp => host.ports.dhcp
  | .dns => host.ports.dns

/-- Clients without an address broadcast, so the address service listens on every address. -/
def address (host : Host) (service : Service) : V4 × Int :=
  (if service = .dhcp then V4.zero else host.ip, service.port host)

/-- The interface that the address service is restricted to, where the system can do that. -/
def device (host : Host) (restrictable : Bool) : Option String :=
  if restrictable && !host.interface.isEmpty then some host.interface else none

def transport : Service → Socket.Transport
  | .http => .tcp
  | _ => .udp

def setup (host : Host) (restrictable : Bool) (service : Service) : List Socket.Call :=
  let (ip, port) := service.address host
  match service with
  | .http => Socket.tcpSetup ip.text port
  | .dhcp => Socket.udpSetup ip.text port true (device host restrictable)
  | _ => Socket.udpSetup ip.text port false none

def bind (host : Host) (restrictable : Bool) (weather : Socket.Weather) (service : Service) :
    List Socket.Call × Option Failure :=
  Socket.openWith weather service.transport (service.setup host restrictable)

end Service

structure Listener where
  service : Service
  holdsSocket : Bool := false
  deriving DecidableEq, Repr

namespace Listener

def bind (host : Host) (restrictable : Bool) (weather : Socket.Weather) (listener : Listener) :
    Listener × List Socket.Call × Option Failure :=
  let (calls, failure) := listener.service.bind host restrictable weather
  ({ listener with holdsSocket := listener.holdsSocket || failure.isNone }, calls, failure)

def close (weather : Socket.Weather) (listener : Listener) :
    Listener × List Socket.Call × Option Failure :=
  if !listener.holdsSocket then (listener, [], none)
  else match weather .close with
    | some failure => (listener, [.close], some failure)
    | none => ({ listener with holdsSocket := false }, [.close], none)

/-- What a service loop meets once its socket is open: whether its endpoint or server fails, and
whether it is told to stop. Otherwise it runs until it is cancelled. -/
inductive Course where
  | breaks (ending : Ending)
  | stops
  | runs
  deriving DecidableEq, Repr

/-- What can be seen of a loop: whether it runs before it is cancelled, how it ends, and whether
it had an endpoint, which it then closes. -/
structure Life where
  running : Bool
  ending : Ending
  endpoint : Bool
  deriving DecidableEq, Repr

def Life.stillborn (failure : Failure) : Life := ⟨false, .failed failure, false⟩

def datagramLife : Course → Life
  | .breaks ending => ⟨false, ending, false⟩
  | .stops => ⟨false, .returned, true⟩
  | .runs => ⟨true, .cancelled, true⟩

/-- The loop of the web service, whose server takes the socket over. -/
def serverLife : Course → Life
  | .breaks ending => ⟨false, ending, false⟩
  | .stops => ⟨false, .returned, false⟩
  | .runs => ⟨true, .cancelled, false⟩

def life (service : Service) (course : Course) : Life :=
  if service = .http then serverLife course else datagramLife course

/-- Hand the socket over to the loop. The web service detaches it. -/
def handOver (weather : Socket.Weather) (course : Course) (listener : Listener) :
    Listener × List Socket.Call × Life :=
  let without := { listener with holdsSocket := false }
  if listener.service = .http then
    match weather .detach with
    | some failure => (listener, [.detach], .stillborn failure)
    | none => (without, [.detach], life .http course)
  else (without, [], life listener.service course)

def missingRoot (root : String) : Failure where
  kind := "missing"
  text := s!"TFTP root not found: {root}"
  system := true

/-- Run a service, opening its socket where that has not been done. The file service looks for its
root first. -/
def start (host : Host) (restrictable rootExists : Bool) (weather : Socket.Weather)
    (course : Course) (listener : Listener) : Listener × List Socket.Call × Life :=
  if listener.service = .tftp ∧ !rootExists then
    (listener, [], .stillborn (missingRoot host.tftpRoot))
  else if listener.holdsSocket then listener.handOver weather course
  else match listener.bind host restrictable weather with
    | (listener, calls, some failure) => (listener, calls, .stillborn failure)
    | (listener, calls, none) =>
      let (listener, more, life) := listener.handOver weather course
      (listener, calls ++ more, life)

end Listener

end Netboot
