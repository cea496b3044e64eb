import Netboot.Dns.Reader.Message
import Netboot.Dns.Writer
import Netboot.Dns.ZoneText.Field
import Netboot.Forwarder
import Netboot.Names

/-! Answers to queries: from the store for names it knows, else from the first forwarder that
answers. -/

set_option autoImplicit false

namespace Netboot.Dns

def Rdata.ofOpaque (type : Nat) : ZoneText.Reader Rdata := do
  let content ← ZoneText.opaque?
  let data ← ZoneText.required ((Reader.rdata internet type).run content)
  ZoneText.require (data.plainBytes == content)
  return data

def Rdata.ofText (type : Nat) (text : String) : Except ZoneText.Fault Rdata :=
  let tokens := ZoneText.tokens text
  let reader : ZoneText.Reader Rdata := do
    let data ← match layout? internet type with
      | none => pure [.bytes (← ZoneText.opaque?)]
      | some layout =>
        if tokens.head? = some (.word ZoneText.opaqueMark) then Rdata.ofOpaque type
        else ZoneText.record type layout
    ZoneText.endOfLine
    return data
  (reader ⟨tokens, true⟩).map (·.1)

inductive Fate where
  | lost
  | replied (data : Bytes)
  | broken (reason : String)
  deriving DecidableEq, Repr

inductive Fault where
  | notQuery
  | type (fault : RecordType.Fault)
  | text (fault : ZoneText.Fault)
  | covers
  | write (fault : WriteFault)
  | broken (reason : String)
  deriving DecidableEq, Repr

inductive Outcome where
  | local
  | forwarded
  | servfail
  | malformed
  deriving DecidableEq, Repr

def Outcome.name : Outcome → String
  | .local => "local"
  | .forwarded => "forwarded"
  | .servfail => "servfail"
  | .malformed => "malformed"

structure Responder where
  forwarders : List Forwarder
  ttl : Int

namespace Responder

def ofForwarders (forwarders : List String) (ttl : Int) : Except Text.IntegerFault Responder :=
  (forwarders.mapM Forwarder.split).map fun forwarders => ⟨forwarders, ttl⟩

def timeout : Float := 2.0

/-- The data of the raw records of a type; each record is a type, a blank and the data. -/
def rawValues (type : Nat) : List String → Except Fault (List String)
  | [] => .ok []
  | line :: rest => do
    let (word, data) := (Text.cut? ' ' line.toList).getD (line.toList, [])
    let found ← (RecordType.ofText? (.ofList word)).mapError .type
    let values ← rawValues type rest
    return if found = some type then .ofList (Text.strip data) :: values else values

def localValues (store : NameStore) (name : String) (type : Nat) : Except Fault (List String) :=
  if type = RecordType.a then .ok ((store.resolveV4 name).map (·.text))
  else if type = RecordType.aaaa then .ok ((store.resolveV6 name).map (·.text))
  else rawValues type (store.rawRecords name)

def addValue (records : RecordSet) (value : String) : Except Fault RecordSet := do
  let data ← (Rdata.ofText records.type value).mapError .text
  let covers := data.covers records.type
  let records := if records.data.isEmpty then { records with covers := covers } else records
  if records.covers = covers then return records.addData data else throw .covers

def recordsOf (responder : Responder) (question : Question) (values : List String) :
    Except Fault RecordSet :=
  let empty : RecordSet :=
    { name := question.name, type := question.type, rdclass := internet, ttl := responder.ttl,
      data := [] }
  values.foldlM addValue empty

def replyTo (query : Message) : Except Fault Message :=
  if query.isReply then .error .notQuery else .ok query.reply

/-- Answer with authority from the store. -/
def answerLocal (responder : Responder) (store : NameStore) (query : Message)
    (question : Question) : Except Fault Message := do
  let reply ← replyTo query
  let reply := { reply with flags := reply.flags ||| Message.authoritativeFlag }
  let values ← localValues store question.name.text question.type
  if values.isEmpty then return reply
  return { reply with answer := [← responder.recordsOf question values] }

/-- The answer of the first forwarder that has one, and those that were asked. What becomes of the
queries is given in order; past its end they are lost. -/
def forward (query : Message) : List Forwarder → List Fate →
    List Forwarder × Except Fault Message
  | [], _ => ([], (replyTo query).map (·.withRcode Message.serverFailure))
  | forwarder :: rest, fates =>
    let next : List Forwarder × Except Fault Message :=
      let (asked, result) := forward query rest fates.tail
      (forwarder :: asked, result)
    match fates.head?.getD .lost with
    | .lost => next
    | .broken reason => ([forwarder], .error (.broken reason))
    | .replied data =>
      match Message.ofBytes? data with
      | some reply => ([forwarder], .ok reply)
      | none => next

structure Resolution where
  reply : Except Fault (Option Message)
  asked : List Forwarder := []
  outcome : Option Outcome := none

def resolveQuestion (responder : Responder) (store : NameStore) (fates : List Fate)
    (query : Message) (question : Question) : Resolution :=
  if store.knows question.name.text then
    { reply := (responder.answerLocal store query question).map some, outcome := some .local }
  else
    let (asked, result) := forward query responder.forwarders fates
    match result with
    | .error fault => { reply := .error fault, asked := asked }
    | .ok reply =>
      let outcome := if reply.rcode = Message.serverFailure then .servfail else .forwarded
      { reply := .ok (some reply), asked := asked, outcome := some outcome }

/-- Resolve a datagram; a malformed one is dropped. -/
def resolve (responder : Responder) (store : NameStore) (fates : List Fate)
    (data : Bytes) : Resolution :=
  match Message.ofBytes? data with
  | none => { reply := .ok none, outcome := some .malformed }
  | some query =>
    match query.question with
    | [] => { reply := (replyTo query).map fun reply => some (reply.withRcode Message.formatError) }
    | question :: _ => responder.resolveQuestion store fates query question

def Resolution.payload (resolution : Resolution) : Except Fault (Option Bytes) := do
  match ← resolution.reply with
  | none => return none
  | some reply => return some (← reply.toBytes.mapError .write)

end Responder

end Netboot.Dns
