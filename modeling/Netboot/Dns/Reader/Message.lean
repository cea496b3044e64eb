import Netboot.Dns.Reader.Rdata

/-! Reading messages from the wire. -/

set_option autoImplicit false

namespace Netboot.Dns

namespace Reader

def question : Reader Question := do
  let name ← name
  let type ← word 2
  return ⟨name, type, ← word 2⟩

inductive Section where
  | answer
  | authority
  | additional
  deriving DecidableEq, Repr

def update : Nat := 5
def anyClass : Nat := 255
def noneClass : Nat := 254

def longestTtl : Nat := 0x7fffffff

def addTo (place : Section) (message : Message)
    (add : List RecordSet → List RecordSet) : Message :=
  match place with
  | .answer => { message with answer := add message.answer }
  | .authority => { message with authority := add message.authority }
  | .additional => { message with additional := add message.additional }

/-- The extension record: at the root, once, in the additional section. -/
def extension (place : Section) (message : Message) (name : Name) (payload flags length : Nat) :
    Reader Message := do
  check (place == .additional && message.extension.isNone && name.labels.isEmpty)
  let options ← within length options
  return { message with extension := some ⟨payload, flags, options⟩ }

structure Head where
  name : Name
  type : Nat
  rdclass : Nat
  ttl : Nat
  length : Nat

/-- The time to live that counts: zero when the high bit is set. -/
def Head.lifetime (head : Head) : Nat := if longestTtl < head.ttl then 0 else head.ttl

def head : Reader Head := do
  let name ← name
  let type ← word 2
  let rdclass ← word 2
  let ttl ← word 4
  return ⟨name, type, rdclass, ttl, ← word 2⟩

/-- One record of an update to a zone, a set of its own. A class may stand for a deletion; that of
all records, and a requirement that there are none, has no data. -/
def updateRecord (place : Section) (zone : Nat) (message : Message) (head : Head) :
    Reader Message := do
  let deletes := head.rdclass = anyClass ∨ head.rdclass = noneClass
  let records : RecordSet := {
    name := head.name, type := head.type
    rdclass := if deletes then zone else head.rdclass
    deleting := if deletes then some head.rdclass else none
    ttl := 0, data := [] }
  if deletes ∧ (head.rdclass = anyClass ∨ place = .answer) then
    check (head.length == 0)
    return addTo place message (· ++ [records])
  let data ← within head.length (rdata records.rdclass head.type)
  let filled := { records with
    covers := data.covers head.type, ttl := head.lifetime, data := [data] }
  return addTo place message (· ++ [filled])

def record (place : Section) (opcode : Nat) (message : Message) : Reader Message := do
  let head ← head
  check (head.type != RecordType.tsig)
  if head.type = RecordType.opt then
    return ← extension place message head.name head.rdclass head.ttl head.length
  if opcode = update then
    let zone ← required message.question.head?
    return ← updateRecord place zone.rdclass message head
  let data ← within head.length (rdata head.rdclass head.type)
  return addTo place message
    (addRecord head.name head.type head.rdclass (data.covers head.type) head.lifetime data)

def records (place : Section) (opcode : Nat) : (count : Nat) → Message → Reader Message
  | 0, message => return message
  | count + 1, message => do
    records place opcode count (← record place opcode message)

def questions (opcode count : Nat) : Reader (List Question) := do
  let read ← times question count
  check (opcode != update || (read.length ≤ 1 && read.all fun q =>
    q.type == RecordType.soa && q.rdclass != anyClass && q.rdclass != noneClass))
  return read

def message : Reader Message := do
  let id ← word 2
  let flags ← word 2
  let opcode := flags / 2 ^ 11 % 16
  let counts ← times (word 2) 4
  let question ← questions opcode (counts.getD 0 0)
  let start : Message := { id, flags, question }
  let answered ← records .answer opcode (counts.getD 1 0) start
  let signed ← records .authority opcode (counts.getD 2 0) answered
  let whole ← records .additional opcode (counts.getD 3 0) signed
  let cursor ← getThe Cursor
  check (cursor.position == cursor.stop)
  return whole

end Reader

def Message.ofBytes? (bytes : Bytes) : Option Message := Reader.message.run bytes

end Netboot.Dns
