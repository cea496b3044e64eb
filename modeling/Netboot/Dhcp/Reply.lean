import Netboot.Dhcp.Message

/-! Replies to a request. -/

set_option autoImplicit false

namespace Netboot.Dhcp

structure Reply where
  messageType : Value
  server : V4
  yiaddr : Option V4 := none
  siaddr : Option V4 := none
  bootFile : String := ""
  options : List Entry := []

inductive Reply.Fault where
  | bootFile (name : String)
  | option (fault : EncodeFault)
  deriving DecidableEq, Repr

namespace Reply

def entries (reply : Reply) : List Entry :=
  (.named "message-type", [reply.messageType]) :: (.named "server_id", [.address reply.server]) ::
    reply.options

def header (reply : Reply) (request : Header) : Header where
  op := replyOp
  htype := request.htype
  hlen := request.hlen
  xid := request.xid
  flags := request.flags
  ciaddr := request.ciaddr
  yiaddr := reply.yiaddr.getD V4.zero
  siaddr := reply.siaddr.getD V4.zero
  giaddr := request.giaddr
  chaddr := request.chaddr
  file := Bytes.ofString reply.bootFile

/-- Write a reply. The name of the boot file is ASCII and cut to its field. -/
def toBytes (reply : Reply) (request : Header) : Except Fault Bytes := do
  if !reply.bootFile.toList.all (·.toNat < 0x80) then throw (.bootFile reply.bootFile)
  let options ← (entriesBytes reply.entries).mapError .option
  return (reply.header request).toBytes ++ magic ++ options

end Reply

end Netboot.Dhcp
