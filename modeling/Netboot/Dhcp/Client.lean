import Netboot.Address.Prefix
import Netboot.Dhcp.Frame

/-! Obtaining a lease from another server: discover and offer, request and acknowledgement. -/

set_option autoImplicit false

namespace Netboot.Dhcp

structure ObtainedLease where
  address : V4
  netmask : V4
  routers : List V4 := []
  nameServers : List V4 := []
  server : Option V4 := none
  deriving DecidableEq, Repr

namespace ObtainedLease

def cidr (lease : ObtainedLease) : Except Cidr.Fault Cidr :=
  Cidr.ofParts lease.address.text lease.netmask.text

def defaultNetmask : V4 := .ofNat 0xffffff00

def addresses (options : Options) (name : String) : List V4 :=
  ((options.lookup (.named name)).getD []).filterMap fun
    | .address a => some a
    | _ => none

def ofAck (ack : Message) : ObtainedLease where
  address := ack.header.yiaddr
  netmask := (ack.options.firstAddress? "subnet_mask").getD defaultNetmask
  routers := addresses ack.options "router"
  nameServers := addresses ack.options "name_server"
  server := ack.options.firstAddress? "server_id"

end ObtainedLease

namespace Client

def wantedOptions : Value := .list ([1, 3, 6, 15, 28, 51, 54].map .number)

inductive Fault where
  | hardware (fault : Text.IntegerFault)
  | encode (fault : EncodeFault)
  | unreadable
  deriving DecidableEq, Repr

structure Identity where
  mac : Bytes
  xid : UInt32
  hostname : String

def hardwareBytes (mac : String) : Except Fault Bytes :=
  (Text.fields ':' mac.toList).mapM fun group => do
    let value ← (Text.integerIn 16 (.ofList group)).mapError .hardware
    if value < 0 ∨ 255 < value then throw (.encode .tooLong)
    return UInt8.ofNat value.toNat

def Identity.ofText (mac : String) (xid : Int) (hostname : String) : Except Fault Identity := do
  let mac ← hardwareBytes mac
  if xid < 0 ∨ 2 ^ 32 ≤ xid then throw (.encode .valueMismatch)
  return ⟨mac, UInt32.ofNat xid.toNat, hostname⟩

def Identity.options (client : Identity) : List Entry :=
  if client.hostname.isEmpty then [] else [(.named "hostname", [.text client.hostname])]

def typed (kind : MessageType) : Entry := (.named "message-type", [.number kind.code])

def discover (client : Identity) : Except Fault Bytes :=
  (clientFrame client.mac client.xid
    ([typed .discover, (.named "param_req_list", [wantedOptions])] ++ client.options)).mapError
    .encode

def request (client : Identity) (offer : Message) : Except Fault Bytes :=
  (clientFrame client.mac client.xid
    ([typed .request,
      (.named "requested_addr", [.address offer.header.yiaddr]),
      (.named "server_id", [(offer.options.first? [.named "server_id"]).getD .none]),
      (.named "param_req_list", [wantedOptions])] ++ client.options)).mapError .encode

structure Sent where
  frame : Bytes
  timeout : Float

/-- What a client meets: the clock when it starts and when the first exchange is over, and the
datagram that answers each exchange. -/
structure Meeting where
  started : Float
  answered : Float
  offer : Option Bytes
  ack : Option Bytes

def received (datagram : Option Bytes) : Except Fault (Option Message) :=
  match datagram with
  | none => .ok none
  | some data => match Message.ofBytes? data with
    | some message => .ok (some message)
    | none => .error .unreadable

def accept (client : Identity) (offer : Message) (remaining : Float) (ack : Option Bytes) :
    List Sent × Except Fault (Option ObtainedLease) :=
  match request client offer with
  | .error fault => ([], .error fault)
  | .ok frame => ([⟨frame, remaining⟩], (received ack).map fun
    | some ack => if ack.options.kind? = some .ack then some (.ofAck ack) else none
    | none => none)

/-- Both exchanges within `timeout` seconds. No lease comes of a server that is silent, declines or
leaves no time for the second exchange. -/
def negotiate (client : Identity) (timeout : Float) (meeting : Meeting) :
    List Sent × Except Fault (Option ObtainedLease) :=
  match discover client with
  | .error fault => ([], .error fault)
  | .ok frame =>
    let first : Sent := ⟨frame, timeout⟩
    match received meeting.offer with
    | .error fault => ([first], .error fault)
    | .ok none => ([first], .ok none)
    | .ok (some offer) =>
      let remaining := meeting.started + timeout - meeting.answered
      if offer.options.kind? ≠ some .offer ∨ remaining ≤ 0 then ([first], .ok none)
      else
        let (sent, result) := accept client offer remaining meeting.ack
        (first :: sent, result)

def negotiateAs (identity : Except Fault Identity) (timeout : Float) (meeting : Meeting) :
    List Sent × Except Fault (Option ObtainedLease) :=
  match identity with
  | .error fault => ([], .error fault)
  | .ok client => negotiate client timeout meeting

end Client

end Netboot.Dhcp
