import Netboot.Dns.Type

/-! Numbers in records that may be written as words. -/

set_option autoImplicit false

namespace Netboot.Dns.Mnemonic

def algorithms : List (String × Nat) := [
  ("RSAMD5", 1), ("DH", 2), ("DSA", 3), ("ECC", 4), ("RSASHA1", 5), ("DSANSEC3SHA1", 6),
  ("RSASHA1NSEC3SHA1", 7), ("RSASHA256", 8), ("RSASHA512", 10), ("ECCGOST", 12),
  ("ECDSAP256SHA256", 13), ("ECDSAP384SHA384", 14), ("ED25519", 15), ("ED448", 16),
  ("INDIRECT", 252), ("PRIVATEDNS", 253), ("PRIVATEOID", 254)]

def certificates : List (String × Nat) := [
  ("PKIX", 1), ("SPKI", 2), ("PGP", 3), ("IPKIX", 4), ("ISPKI", 5), ("IPGP", 6), ("ACPKIX", 7),
  ("IACPKIX", 8), ("URI", 253), ("OID", 254)]

def schemes : List (String × Nat) := [("NOTIFY", 1)]

def results : List (String × Nat) := [
  ("NOERROR", 0), ("FORMERR", 1), ("SERVFAIL", 2), ("NXDOMAIN", 3), ("NOTIMP", 4), ("REFUSED", 5),
  ("YXDOMAIN", 6), ("YXRRSET", 7), ("NXRRSET", 8), ("NOTAUTH", 9), ("NOTZONE", 10),
  ("DSOTYPENI", 11), ("BADVERS", 16), ("BADSIG", 16), ("BADKEY", 17), ("BADTIME", 18),
  ("BADMODE", 19), ("BADNAME", 20), ("BADALG", 21), ("BADTRUNC", 22), ("BADCOOKIE", 23)]

def code? (words : List (String × Nat)) (limit : Nat) (text : List Char) : Option Nat :=
  let upper := text.flatMap Text.upperAscii
  (words.lookup (.ofList upper)).or
    (if !upper.isEmpty && upper.all Text.isAsciiDigit then
      some (Text.asciiValue upper) |>.filter (· ≤ limit) else none)

def algorithm? (text : List Char) : Option Nat := code? algorithms 255 text

def scheme? (text : List Char) : Option Nat := code? schemes 255 text

def result? (text : List Char) : Option Nat := code? results 4095 text

def certificate? (text : List Char) : Option Nat :=
  match certificates.lookup (.ofList text), Text.integer (.ofList text) with
  | some code, _ => some code
  | none, .ok value => if 0 ≤ value ∧ value < 65536 then some value.toNat else none
  | none, .error _ => none

def recordType? (text : List Char) : Option Nat :=
  (RecordType.ofText? (.ofList text)).toOption.join

end Netboot.Dns.Mnemonic
