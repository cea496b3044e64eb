import Netboot.Dhcp.Boot
import Netboot.Dhcp.Reply
import Netboot.Host
import Netboot.Lease.Store

/-! The address service. An authoritative host leases addresses; a proxy only tells network boot
clients what to load. -/

set_option autoImplicit false

namespace Netboot.Dhcp

structure Answer where
  kind : MessageType
  payload : Bytes
  destination : V4 × Int
  deriving DecidableEq

inductive Fault where
  | value (fault : Value.Fault)
  | lease (fault : LeaseStore.Fault)
  | reply (fault : Reply.Fault)
  deriving DecidableEq, Repr

/-- The clock as one datagram sees it: when its client's lease is looked up, and when an address is
allocated. -/
structure Readings where
  lookup : Instant
  allocate : Instant

def Readings.at (now : Instant) : Readings := ⟨now, now⟩

def bootFile (host : Host) (options : Options) : Except Fault String :=
  (options.bootFile host.bootUrl).mapError .value

def answer (host : Host) (request : Header) (kind : MessageType) (yiaddr : Option V4)
    (bootFile : String) (options : List Entry) : Except Fault (Option Answer) :=
  let reply : Reply := {
    messageType := .number kind.code
    server := host.ip
    yiaddr := yiaddr
    siaddr := some host.ip
    bootFile := bootFile
    options := options }
  ((reply.toBytes request).mapError .reply).map fun payload =>
    some ⟨kind, payload, request.destination⟩

def pxeOptions : List Entry := [(.named "vendor_class_id", [.bytes pxeVendorClass])]

/-- Beside another address service only the first message of a network boot client is answered. -/
def proxyAnswer (host : Host) (message : Message) : Except Fault (Option Answer) := do
  if !(← (message.options.isPxe.mapError .value)) then return none
  if message.options.kind? ≠ some .discover then return none
  answer host message.header .offer none (← bootFile host message.options) pxeOptions

def leaseOptions (host : Host) (network : Prefix) (store : LeaseStore) : List Entry := [
  (.named "lease_time", [.number store.term.seconds]),
  (.named "subnet_mask", [.address network.netmask]),
  (.named "router", [.address host.gateway]),
  (.named "name_server", [.address host.ip])]

def grant (host : Host) (network : Prefix) (store : LeaseStore) (message : Message)
    (kind : MessageType) (address : V4) : Except Fault (Option Answer) := do
  answer host message.header kind (some address) (← bootFile host message.options)
    (leaseOptions host network store)

def refuse (host : Host) (message : Message) : Except Fault (Option Answer) :=
  answer host message.header .nak none "" []

def discover (host : Host) (network : Prefix) (clock : Readings) (store : LeaseStore)
    (message : Message) : LeaseStore × Except Fault (Option Answer) :=
  let requested := message.options.firstAddress? "requested_addr"
  match store.allocate clock.allocate message.clientMac requested with
  | (store, .ok address) => (store, grant host network store message .offer address)
  | (store, .error (.exhausted _)) => (store, .ok none)
  | (store, .error fault) => (store, .error (.lease fault))

/-- The address a request asks for: the option, else the one the client has. -/
def wanted (message : Message) : Option V4 :=
  message.options.firstAddress? "requested_addr" <|>
    (if message.header.ciaddr = V4.zero then none else some message.header.ciaddr)

/-- Whether a request accepts the offer of another server. -/
def acceptsOther (host : Host) (message : Message) : Bool :=
  (message.options.firstAddress? "server_id").any (· != host.ip)

/-- Lease the wanted address, or any when none is wanted. A client that gets another address than
it wants is refused, and gives that address back. -/
def leaseWanted (host : Host) (network : Prefix) (clock : Readings) (store : LeaseStore)
    (message : Message) : LeaseStore × Except Fault (Option Answer) :=
  match store.allocate clock.allocate message.clientMac (wanted message) with
  | (store, .ok address) =>
    if (wanted message).any (· != address) then
      ((store.release address).1, refuse host message)
    else (store, grant host network store message .ack address)
  | (store, .error (.exhausted _)) => (store, refuse host message)
  | (store, .error fault) => (store, .error (.lease fault))

def request (host : Host) (network : Prefix) (clock : Readings) (store : LeaseStore)
    (message : Message) : LeaseStore × Except Fault (Option Answer) :=
  if acceptsOther host message then (store, .ok none)
  else match store.lookup clock.lookup message.clientMac with
    | .ok (some lease) =>
      if (wanted message).any (· != lease.address) then (store, refuse host message)
      else leaseWanted host network clock store message
    | .ok none => leaseWanted host network clock store message
    | .error fault => (store, .error (.lease fault))

def release (clock : Readings) (store : LeaseStore) (message : Message) :
    LeaseStore × Except Fault (Option Answer) :=
  match store.lookup clock.lookup message.clientMac with
  | .ok (some lease) => ((store.release lease.address).1, .ok none)
  | .ok none => (store, .ok none)
  | .error fault => (store, .error (.lease fault))

def leaseAnswer (host : Host) (network : Prefix) (clock : Readings) (store : LeaseStore)
    (message : Message) : LeaseStore × Except Fault (Option Answer) :=
  match message.options.kind? with
  | some .discover => discover host network clock store message
  | some .request => request host network clock store message
  | some .release => release clock store message
  | _ => (store, .ok none)

inductive Server where
  | proxy (host : Host)
  | authoritative (host : Host) (network : Prefix) (store : LeaseStore)

namespace Server

def store? : Server → Option LeaseStore
  | .proxy _ => none
  | .authoritative _ _ store => some store

def ofHost? (host : Host) : Option Server :=
  match host.mode with
  | .proxy _ => some (.proxy host)
  | .authoritative network pool =>
    (Span.ofSeconds? host.leaseTime).map fun term =>
      .authoritative host network (LeaseStore.ofPool pool term false)

def handleMessage (server : Server) (clock : Readings) (message : Message) :
    Server × Except Fault (Option Answer) :=
  match server with
  | .proxy host => (.proxy host, proxyAnswer host message)
  | .authoritative host network store =>
    let (store, result) := leaseAnswer host network clock store message
    (.authoritative host network store, result)

/-- Handle one datagram; what is no request with options is ignored. -/
def handle (server : Server) (clock : Readings) (data : Bytes) :
    Server × Except Fault (Option Answer) :=
  match Message.parse? data with
  | some message => server.handleMessage clock message
  | none => (server, .ok none)

end Server

/-- The boot service of network boot clients: it answers whoever asks where to boot from. -/
def bootAnswer (host : Host) (data : Bytes) : Except Fault (Option Answer) := do
  match Message.parse? data with
  | none => return none
  | some message =>
    if !(← (message.options.isPxe.mapError .value)) then return none
    if message.options.kind? ≠ some .request ∧ message.options.kind? ≠ some .inform then return none
    answer host message.header .ack none (← bootFile host message.options) pxeOptions

end Netboot.Dhcp
