import Netboot.Dns.Rdata

/-! What the data of a record consists of, by its type. -/

set_option autoImplicit false

namespace Netboot.Dns

inductive GatewayForm where
  | key
  | relay
  deriving DecidableEq, Repr

inductive Field where
  | word (width : Nat)
  | seconds
  | name (rule : NameRule)
  | names (rule : NameRule)
  | address4
  | address6
  | string
  | secondString
  | strings
  | tag
  | rest
  | target
  | hex
  | base64
  | hardware (size : Nat)
  | locator
  | recordType
  | algorithm
  | certificate
  | scheme
  | signed (signer : NameRule)
  | salt
  | hashedName
  | types
  | location
  | position
  | network
  | prefixes
  | ports
  | gateway (form : GatewayForm)
  | identity
  | service
  | sized
  | sizedRest
  | signature
  | options
  deriving DecidableEq, Repr

def internet : Nat := 1
def chaos : Nat := 3

def keyLayout : List Field := [.word 2, .word 1, .algorithm, .base64]

def digestLayout : List Field := [.word 2, .algorithm, .word 1, .hex]

def commonLayout? (type : Nat) : Option (List Field) :=
  match type with
  | 2 | 5 | 12 => some [.name .linked]
  | 6 => some [.name .linked, .name .linked, .word 4, .seconds, .seconds, .seconds, .seconds]
  | 13 => some [.string, .string]
  | 15 => some [.word 2, .name .linked]
  | 16 | 56 | 99 | 258 | 261 | 262 => some [.strings]
  | 17 => some [.name .followed, .name .followed]
  | 18 | 21 => some [.word 2, .name .followed]
  | 19 => some [.string]
  | 20 => some [.string, .secondString]
  | 24 => some [.signed .followed, .base64]
  | 25 | 48 | 60 => some keyLayout
  | 27 => some [.position]
  | 29 => some [.location]
  | 37 => some [.certificate, .word 2, .algorithm, .base64]
  | 39 => some [.name .exact]
  | 41 => some [.options]
  | 43 | 59 | 32769 => some digestLayout
  | 44 => some [.word 1, .word 1, .hex]
  | 46 => some [.signed .plain, .base64]
  | 47 => some [.name .exact, .types]
  | 50 => some [.word 1, .word 1, .word 2, .salt, .hashedName, .types]
  | 51 => some [.word 1, .word 1, .word 2, .salt]
  | 52 | 53 => some [.word 1, .word 1, .word 1, .hex]
  | 55 => some [.identity, .names .exact]
  | 61 => some [.base64]
  | 62 => some [.word 4, .word 2, .types]
  | 63 => some [.word 4, .word 1, .word 1, .hex]
  | 66 => some [.recordType, .scheme, .word 2, .name .exact]
  | 104 | 106 => some [.word 2, .locator]
  | 105 => some [.word 2, .address4]
  | 107 => some [.word 2, .name .plain]
  | 108 => some [.hardware 6]
  | 109 => some [.hardware 8]
  | 249 => some [.name .exact, .word 4, .word 4, .word 2, .word 2, .sized, .sizedRest]
  | 250 => some [.name .exact, .word 6, .word 2, .signature]
  | 256 => some [.word 2, .word 2, .target]
  | 257 => some [.word 1, .tag, .rest]
  | 260 => some [.gateway .relay]
  | _ => none

def internetLayout? (type : Nat) : Option (List Field) :=
  match type with
  | 1 => some [.address4]
  | 11 => some [.ports]
  | 22 => some [.network]
  | 23 => some [.name .exact]
  | 26 => some [.word 2, .name .followed, .name .followed]
  | 28 => some [.address6]
  | 33 => some [.word 2, .word 2, .word 2, .name .linked]
  | 35 => some [.word 2, .word 2, .string, .string, .string, .name .linked]
  | 36 => some [.word 2, .name .plain]
  | 42 => some [.prefixes]
  | 45 => some [.gateway .key]
  | 49 => some [.base64]
  | 64 | 65 => some [.service]
  | _ => none

def chaosLayout? (type : Nat) : Option (List Field) :=
  if type = 1 then some [.name .linked, .word 2] else none

def layout? (rdclass type : Nat) : Option (List Field) :=
  (commonLayout? type).or
    (if rdclass = internet then internetLayout? type
      else if rdclass = chaos then chaosLayout? type
      else none)

end Netboot.Dns
