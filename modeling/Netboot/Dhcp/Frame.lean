import Netboot.Dhcp.Message

/-! A client's messages as frames on the wire: broadcast over Ethernet, IPv4 and UDP. -/

set_option autoImplicit false

namespace Netboot.Dhcp

/-- The sum of 16-bit words; an odd byte counts as the high half of a word. -/
def wordSum : Bytes → Nat
  | [] => 0
  | [a] => a.toNat * 256
  | a :: b :: rest => a.toNat * 256 + b.toNat + wordSum rest

def foldCarries (sum : Nat) : Nat :=
  if sum < 2 ^ 16 then sum else foldCarries (sum / 2 ^ 16 + sum % 2 ^ 16)
termination_by sum
decreasing_by omega

def checksum (bytes : Bytes) : Nat := 0xffff - foldCarries (wordSum bytes)

def udpProtocol : UInt8 := 17
def broadcastMac : Bytes := List.replicate 6 0xff

/-- A datagram between the ports of client and server; a checksum of zero is written as its
complement. -/
def udpDatagram (payload : Bytes) : Bytes :=
  let length := payload.length + 8
  let ports := Bytes.ofNat 2 clientPort.toNat ++ Bytes.ofNat 2 serverPort.toNat ++
    Bytes.ofNat 2 length
  let addresses := V4.zero.toBytes ++ V4.broadcast.toBytes ++ [0, udpProtocol] ++
    Bytes.ofNat 2 length
  let sum := checksum (addresses ++ ports ++ [0, 0] ++ payload)
  ports ++ Bytes.ofNat 2 (if sum = 0 then 0xffff else sum) ++ payload

def ipPacket (payload : Bytes) : Bytes :=
  let before := [0x45, 0] ++ Bytes.ofNat 2 (payload.length + 20) ++
    [0, 1, 0, 0, 64, udpProtocol]
  let after := V4.zero.toBytes ++ V4.broadcast.toBytes
  before ++ Bytes.ofNat 2 (checksum (before ++ [0, 0] ++ after)) ++ after ++ payload

def ethernetFrame (source payload : Bytes) : Bytes :=
  broadcastMac ++ Bytes.fit 6 source ++ [0x08, 0x00] ++ payload

def clientHeader (mac : Bytes) (xid : UInt32) : Header where
  op := requestOp
  htype := 1
  hlen := 6
  xid := xid
  flags := broadcastFlag
  ciaddr := V4.zero
  giaddr := V4.zero
  chaddr := mac

def clientFrame (mac : Bytes) (xid : UInt32) (options : List Entry) :
    Except EncodeFault Bytes := do
  let options ← entriesBytes options
  let message := (clientHeader mac xid).toBytes ++ magic ++ options
  return ethernetFrame mac (ipPacket (udpDatagram message))

end Netboot.Dhcp
