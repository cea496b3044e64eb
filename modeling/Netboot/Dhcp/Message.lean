import Netboot.Dhcp.Writer

/-! Boot protocol messages: the fixed header, the magic and the options behind it. -/

set_option autoImplicit false

namespace Netboot.Dhcp

structure Header where
  op : UInt8
  htype : UInt8
  hlen : UInt8
  hops : UInt8 := 0
  xid : UInt32
  secs : UInt16 := 0
  flags : UInt16
  ciaddr : V4
  yiaddr : V4 := V4.zero
  siaddr : V4 := V4.zero
  giaddr : V4
  chaddr : Bytes
  sname : Bytes := []
  file : Bytes := []
  deriving DecidableEq

namespace Header

def size : Nat := 236

def addressSize : Nat := 16
def snameSize : Nat := 64
def fileSize : Nat := 128

def toBytes (header : Header) : Bytes :=
  [header.op, header.htype, header.hlen, header.hops] ++
  Bytes.ofNat 4 header.xid.toNat ++ Bytes.ofNat 2 header.secs.toNat ++
  Bytes.ofNat 2 header.flags.toNat ++
  header.ciaddr.toBytes ++ header.yiaddr.toBytes ++ header.siaddr.toBytes ++
  header.giaddr.toBytes ++ Bytes.fit addressSize header.chaddr ++
  Bytes.fit snameSize header.sname ++ Bytes.fit fileSize header.file

def blank : Header where
  op := 1
  htype := 1
  hlen := 6
  xid := 0
  flags := 0
  ciaddr := V4.zero
  giaddr := V4.zero
  chaddr := []

def fixedSize : Nat := 28

/-- The header at the front, when the bytes reach past the addresses; no bytes at all stand for a
blank header. -/
def ofBytes? (bytes : Bytes) : Option Header :=
  match bytes with
  | [] => some blank
  | op :: htype :: hlen :: hops :: rest =>
    let field (start length : Nat) : Bytes := (rest.drop start).take length
    if bytes.length < fixedSize then none
    else some {
      op := op
      htype := htype
      hlen := hlen
      hops := hops
      xid := UInt32.ofNat (field 0 4).toNat
      secs := UInt16.ofNat (field 4 2).toNat
      flags := UInt16.ofNat (field 6 2).toNat
      ciaddr := V4.ofBytes (field 8 4)
      yiaddr := V4.ofBytes (field 12 4)
      siaddr := V4.ofBytes (field 16 4)
      giaddr := V4.ofBytes (field 20 4)
      chaddr := field 24 addressSize
      sname := field 40 snameSize
      file := field 104 fileSize }
  | _ => none

end Header

structure Message where
  header : Header
  options : Options

def magic : Bytes := [0x63, 0x82, 0x53, 0x63]

def requestOp : UInt8 := 1
def replyOp : UInt8 := 2

namespace Message

def optionBytes? (bytes : Bytes) : Option Bytes :=
  let tail := bytes.drop Header.size
  if tail.take 4 = magic ∧ tail.drop 4 ≠ [] then some (tail.drop 4) else none

def ofBytes? (bytes : Bytes) : Option Message :=
  (Header.ofBytes? bytes).map fun header =>
    ⟨header, ((optionBytes? bytes).map Options.ofBytes).getD []⟩

def parse? (bytes : Bytes) : Option Message := do
  let options ← optionBytes? bytes
  let header ← Header.ofBytes? bytes
  if header.op = requestOp then return ⟨header, Options.ofBytes options⟩ else none

/-- The hardware address as text; a length of zero stands for six bytes. -/
def clientMac (message : Message) : String :=
  let length := if message.header.hlen = 0 then 6 else message.header.hlen.toNat
  ":".intercalate ((message.header.chaddr.take length).map fun b => .ofList (Text.hex 2 b.toNat))

end Message

def typeOf (value : Option Value) : Option Value :=
  match value with
  | some (.text name) => (MessageType.ofName? name).map fun kind => .number kind.code
  | value => value

def Options.messageType (options : Options) : Option Value :=
  typeOf (options.first? [.named "message-type"])

def Options.kind? (options : Options) : Option MessageType :=
  match options.messageType with
  | some (.number code) => MessageType.ofCode? code
  | _ => none

def serverPort : Int := 67
def clientPort : Int := 68

def broadcastFlag : UInt16 := 0x8000

/-- Where a reply goes: to the relay if there is one, to a client that has an address and does not
ask for broadcast, else to everyone. -/
def destination (giaddr ciaddr : V4) (flags : UInt16) (port : Int) : V4 × Int :=
  if giaddr ≠ V4.zero then (giaddr, serverPort)
  else if ciaddr ≠ V4.zero ∧ flags &&& broadcastFlag = 0 then (ciaddr, port)
  else (V4.broadcast, port)

def Header.destination (header : Header) : V4 × Int :=
  Dhcp.destination header.giaddr header.ciaddr header.flags clientPort

end Netboot.Dhcp
