import Netboot.Dns.Message

/-! Writing messages. A name points back at an earlier occurrence of its tail. -/

set_option autoImplicit false

namespace Netboot.Dns

-- Sums of numbers start from the core's zero, whatever algebra a module imports.
attribute [local instance (high)] Zero.ofOfNat0

inductive WriteFault where
  | relativeName
  | ttl (ttl : Int)
  | dataTooLong
  | tooBig
  deriving DecidableEq, Repr

/-- Where names were written; the key of a name is its labels in lower case. -/
abbrev Places := List (List Label × Nat)

def lastPlace : Nat := 0x3fff

def pointer (place : Nat) : Bytes := Bytes.ofNat 2 (0xc000 + place)

def note (places : Places) (key : List Label) (position : Nat) : Places :=
  if position ≤ lastPlace then (key, position) :: places else places

/-- Write labels at a position, with a pointer for the longest tail that was written before. -/
def linkedLabels (places : Places) (position : Nat) : List Label → Bytes × Places
  | [] => ([0], places)
  | label :: rest =>
    let key := Name.key ⟨label :: rest, true⟩
    match places.lookup key with
    | some place => (pointer place, places)
    | none =>
      let (tail, places) := linkedLabels (note places key position)
        (position + 1 + label.length) rest
      (labelBytes label ++ tail, places)

def nameBytes (places : Places) (position : Nat) (linked : Bool) (name : Name) :
    Except WriteFault (Bytes × Places) :=
  if !name.absolute then .error .relativeName
  else if linked then .ok (linkedLabels places position name.labels)
  else .ok (plainLabels name.labels, places)

def rdataBytes (places : Places) (position : Nat) : Rdata → Except WriteFault (Bytes × Places)
  | [] => .ok ([], places)
  | .bytes content :: rest => do
    let (tail, places) ← rdataBytes places (position + content.length) rest
    return (content ++ tail, places)
  | .name name rule :: rest => do
    let (head, places) ← nameBytes places position (rule == .linked) name
    let (tail, places) ← rdataBytes places (position + head.length) rest
    return (head ++ tail, places)

structure Draft where
  size : Nat := 12
  chunks : List Bytes := []
  places : Places := []

namespace Draft

def add (draft : Draft) (chunk : Bytes) (places : Places) : Draft where
  size := draft.size + chunk.length
  chunks := chunk :: draft.chunks
  places := places

def fitting (draft : Draft) (room : Nat) : Except WriteFault Draft :=
  if draft.size ≤ room then .ok draft else .error .tooBig

def addQuestion (draft : Draft) (question : Question) : Except WriteFault Draft := do
  let (name, places) ← nameBytes draft.places draft.size true question.name
  return draft.add (name ++ Bytes.ofNat 2 question.type ++ Bytes.ofNat 2 question.rdclass) places

def ttlBytes (ttl : Int) : Except WriteFault Bytes :=
  if 0 ≤ ttl ∧ ttl < 2 ^ 32 then .ok (Bytes.ofNat 4 ttl.toNat) else .error (.ttl ttl)

def head (draft : Draft) (records : RecordSet) (ttl : Int) : Except WriteFault (Bytes × Places) := do
  let (name, places) ← nameBytes draft.places draft.size true records.name
  let rdclass := records.deleting.getD records.rdclass
  return (name ++ Bytes.ofNat 2 records.type ++ Bytes.ofNat 2 rdclass ++ (← ttlBytes ttl), places)

def dataLimit : Nat := 65535

def addRecord (records : RecordSet) (draft : Draft) (data : Rdata) : Except WriteFault Draft := do
  let (head, places) ← draft.head records records.ttl
  let (content, places) ← rdataBytes places (draft.size + head.length + 2) data
  if dataLimit < content.length then throw .dataTooLong
  return draft.add (head ++ Bytes.ofNat 2 content.length ++ content) places

/-- Add a record set, all of which has to fit the room. One without data is written as a record
without data. -/
def addSet (room : Nat) (draft : Draft) (records : RecordSet) : Except WriteFault Draft := do
  if records.data.isEmpty then
    let (head, places) ← draft.head records 0
    (draft.add (head ++ Bytes.ofNat 2 0) places).fitting room
  else (← records.data.foldlM (addRecord records) draft).fitting room

end Draft

namespace Extension

def toBytes (extension : Extension) : Bytes :=
  let content := extension.options.flatMap optionBytes
  [0] ++ Bytes.ofNat 2 RecordType.opt ++ Bytes.ofNat 2 extension.payload ++
    Bytes.ofNat 4 extension.flags ++ Bytes.ofNat 2 content.length ++ content

def padded (extension : Extension) (block size : Nat) : Extension :=
  let whole := size + (extension.toBytes.length + 4)
  let padding := List.replicate ((block - whole % block) % block) 0
  { extension with options := extension.options ++ [(paddingOption, padding)] }

end Extension

namespace Message

def smallestRoom : Nat := 512
def largestRoom : Nat := 65535

/-- The size a message may have: no less than every receiver takes. -/
def limit (message : Message) : Nat :=
  let room := if message.room = 0 then largestRoom else message.room
  min (max room smallestRoom) largestRoom

def recordCount (sets : List RecordSet) : Nat :=
  (sets.map fun records => max 1 records.data.length).sum

def header (message : Message) : Bytes :=
  let additional := recordCount message.additional + message.extension.toList.length
  [message.id, message.flags, message.question.length, recordCount message.answer,
    recordCount message.authority, additional].flatMap (Bytes.ofNat 2)

def reserve (message : Message) : Nat :=
  match message.extension with
  | none => 0
  | some extension => extension.toBytes.length + if message.block = 0 then 0 else 4

def extensionBytes (message : Message) (size : Nat) : Bytes :=
  match message.extension with
  | none => []
  | some extension =>
    (if message.block = 0 then extension else extension.padded message.block size).toBytes

/-- Write a message. The records have to leave room for the extension record. -/
def toBytes (message : Message) : Except WriteFault Bytes := do
  let room := message.limit - message.reserve
  let questions ← message.question.foldlM
    (fun draft question => do (← Draft.addQuestion draft question).fitting room) {}
  let records ← (message.answer ++ message.authority ++ message.additional).foldlM
    (Draft.addSet room) questions
  let whole ← (records.add (message.extensionBytes records.size) records.places).fitting
    message.limit
  return message.header ++ whole.chunks.reverse.flatten

end Message

end Netboot.Dns
