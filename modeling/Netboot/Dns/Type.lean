import Netboot.Text.Case
import Netboot.Text.Integer

/-! The types of records and their mnemonics. -/

set_option autoImplicit false

namespace Netboot.Dns.RecordType

def mnemonics : List (String × Nat) := [
  ("NONE", 0), ("TYPE0", 0), ("A", 1), ("NS", 2), ("MD", 3), ("MF", 4), ("CNAME", 5), ("SOA", 6),
  ("MB", 7), ("MG", 8), ("MR", 9), ("NULL", 10), ("WKS", 11), ("PTR", 12), ("HINFO", 13),
  ("MINFO", 14), ("MX", 15), ("TXT", 16), ("RP", 17), ("AFSDB", 18), ("X25", 19), ("ISDN", 20),
  ("RT", 21), ("NSAP", 22), ("NSAP_PTR", 23), ("NSAP-PTR", 23), ("SIG", 24), ("KEY", 25),
  ("PX", 26), ("GPOS", 27), ("AAAA", 28), ("LOC", 29), ("NXT", 30), ("SRV", 33), ("NAPTR", 35),
  ("KX", 36), ("CERT", 37), ("A6", 38), ("DNAME", 39), ("OPT", 41), ("APL", 42), ("DS", 43),
  ("SSHFP", 44), ("IPSECKEY", 45), ("RRSIG", 46), ("NSEC", 47), ("DNSKEY", 48), ("DHCID", 49),
  ("NSEC3", 50), ("NSEC3PARAM", 51), ("TLSA", 52), ("SMIMEA", 53), ("HIP", 55), ("NINFO", 56),
  ("CDS", 59), ("CDNSKEY", 60), ("OPENPGPKEY", 61), ("CSYNC", 62), ("ZONEMD", 63), ("SVCB", 64),
  ("HTTPS", 65), ("DSYNC", 66), ("SPF", 99), ("UNSPEC", 103), ("NID", 104), ("L32", 105),
  ("L64", 106), ("LP", 107), ("EUI48", 108), ("EUI64", 109), ("TKEY", 249), ("TSIG", 250),
  ("IXFR", 251), ("AXFR", 252), ("MAILB", 253), ("MAILA", 254), ("ANY", 255),
  ("URI", 256), ("CAA", 257), ("AVC", 258), ("AMTRELAY", 260), ("RESINFO", 261), ("WALLET", 262), ("TA", 32768),
  ("DLV", 32769)]

def a : Nat := 1
def soa : Nat := 6
def aaaa : Nat := 28
def opt : Nat := 41
def tsig : Nat := 250

def singletons : List Nat := [5, 6, 30, 39, 47]

def signatures : List Nat := [24, 46]

inductive Fault where
  | outOfRange
  | integer (fault : Text.IntegerFault)
  deriving DecidableEq, Repr

def Fault.message : Fault → String
  | .outOfRange => "type must be an int between >= 0 and <= 65535"
  | .integer fault => fault.message

def ofText? (word : String) : Except Fault (Option Nat) :=
  let upper := word.toList.flatMap Text.upperAscii
  match mnemonics.lookup (.ofList upper) with
  | some code => .ok (some code)
  | none =>
    let digits := upper.drop 4
    if "TYPE".toList.isPrefixOf upper && !digits.isEmpty && digits.all Text.isAsciiDigit then do
      let code ← (Text.integer (.ofList digits)).mapError .integer
      if 65535 < code then throw .outOfRange
      return some code.toNat
    else .ok none

end Netboot.Dns.RecordType
