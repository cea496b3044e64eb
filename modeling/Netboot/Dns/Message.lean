import Netboot.Dns.Rdata
import Netboot.Dns.Type

/-! Messages: a question and three sections of record sets. -/

set_option autoImplicit false

namespace Netboot.Dns

structure Question where
  name : Name
  type : Nat
  rdclass : Nat
  deriving DecidableEq, Repr

def Rdata.covers (type : Nat) (data : Rdata) : Nat :=
  match RecordType.signatures.contains type, data with
  | true, .bytes content :: _ => Bytes.toNat (content.take 2)
  | _, _ => 0

/-- The records of one name, class and type, which share a time to live and what they cover. In an
update `deleting` is the class that stands for their deletion. -/
structure RecordSet where
  name : Name
  type : Nat
  rdclass : Nat
  covers : Nat := 0
  deleting : Option Nat := none
  ttl : Int
  data : List Rdata
  deriving DecidableEq, Repr

structure Extension where
  payload : Nat
  flags : Nat
  options : List (Nat × Bytes) := []
  deriving DecidableEq, Repr

namespace Extension

def optionBytes (option : Nat × Bytes) : Bytes :=
  Bytes.ofNat 2 option.1 ++ Bytes.ofNat 2 option.2.length ++ option.2

def paddingOption : Nat := 12

def asksPadding (extension : Extension) : Bool :=
  extension.options.any (·.1 == paddingOption)

end Extension

/-- A message. `room` is the largest size its receiver takes, zero when that is not known; the size
of the whole is a multiple of `block`, unless that is zero. -/
structure Message where
  id : Nat
  flags : Nat
  question : List Question := []
  answer : List RecordSet := []
  authority : List RecordSet := []
  additional : List RecordSet := []
  extension : Option Extension := none
  room : Nat := 0
  block : Nat := 0
  deriving DecidableEq, Repr

namespace RecordSet

def addTtl (records : RecordSet) (ttl : Int) : RecordSet :=
  if records.data.isEmpty ∨ ttl < records.ttl then { records with ttl := ttl } else records

def addData (records : RecordSet) (data : Rdata) : RecordSet :=
  if RecordType.singletons.contains records.type then { records with data := [data] }
  else if records.data.any (·.same data) then records
  else { records with data := records.data ++ [data] }

def add (records : RecordSet) (data : Rdata) (ttl : Int) : RecordSet :=
  (records.addTtl ttl).addData data

def holds (records : RecordSet) (name : Name) (type rdclass covers : Nat) : Bool :=
  records.name.same name && records.type == type && records.rdclass == rdclass &&
    records.covers == covers

end RecordSet

def addRecord (name : Name) (type rdclass covers : Nat) (ttl : Int) (data : Rdata) :
    List RecordSet → List RecordSet
  | [] => [{ name, type, rdclass, covers, ttl, data := [data] }]
  | records :: rest =>
    if records.holds name type rdclass covers then records.add data ttl :: rest
    else records :: addRecord name type rdclass covers ttl data rest

namespace Message

def replyFlag : Nat := 0x8000
def authoritativeFlag : Nat := 0x0400
def recursionFlag : Nat := 0x0100
def opcodeMask : Nat := 0x7800

def formatError : Nat := 1
def serverFailure : Nat := 2

def isReply (message : Message) : Bool := message.flags &&& replyFlag != 0

/-- The result code, with the high part that the extension holds. -/
def rcode (message : Message) : Nat :=
  message.flags % 16 + (((message.extension.map (·.flags)).getD 0 >>> 20) &&& 0xff0)

def withRcode (message : Message) (rcode : Nat) : Message :=
  { message with flags := message.flags / 16 * 16 + rcode }

def ownPayload : Nat := 8192

def replyBlock : Nat := 468

/-- An empty reply to a query, with its questions; it is padded when the query is. -/
def reply (query : Message) : Message where
  id := query.id
  flags := replyFlag ||| (query.flags &&& recursionFlag) ||| (query.flags &&& opcodeMask)
  question := query.question
  extension := query.extension.map fun _ => ⟨ownPayload, 0, []⟩
  room := (query.extension.map (·.payload)).getD 0
  block := if query.extension.any (·.asksPadding) then replyBlock else 0

end Message

end Netboot.Dns
